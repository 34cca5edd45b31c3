import Mathlib.Data.List.Basic

/-!
# Computations that keep an invariant

`Ensures I x Q` says that a computation with a state keeps the invariant `I` of
the state, and that its result has the property `Q`. The rules below follow the
shape of a computation.
-/

namespace Stateful

variable {S α β : Type}

def Ensures (I : S → Prop) (x : StateM S α) (Q : α → Prop) : Prop :=
  ∀ s, I s → Q (x s).1 ∧ I (x s).2

/-- The first result of the computation along a list. -/
def findSomeM (f : α → StateM S (Option β)) : List α → StateM S (Option β)
  | [] => pure none
  | a :: as => do
    match ← f a with
    | some b => pure (some b)
    | none => findSomeM f as

/-- The elements of a list for which the computation gives `true`. -/
def filterM (p : α → StateM S Bool) : List α → StateM S (List α)
  | [] => pure []
  | a :: as => do
    let keep ← p a
    let rest ← filterM p as
    pure (if keep then a :: rest else rest)

/-- The results of a computation that is made `n` times. -/
def repeatM (x : StateM S α) : (n : Nat) → StateM S (List α)
  | 0 => pure []
  | n + 1 => do
    let a ← x
    let as ← repeatM x n
    pure (a :: as)

variable {I : S → Prop} {P : α → Prop} {Q : β → Prop}

theorem Ensures.pure {a : α} (h : P a) : Ensures I (pure a) P := fun _ hs => ⟨h, hs⟩

variable {x : StateM S α} {f : α → StateM S β}

theorem Ensures.bind (hx : Ensures I x P)
    (hf : ∀ a, P a → Ensures I (f a) Q) : Ensures I (x >>= f) Q := by
  intro s hs
  obtain ⟨hp, hs'⟩ := hx s hs
  exact hf (x s).1 hp (x s).2 hs'

theorem Ensures.mono {P' : α → Prop} (hx : Ensures I x P)
    (h : ∀ a, P a → P' a) : Ensures I x P' := by
  intro s hs
  obtain ⟨hp, hs'⟩ := hx s hs
  exact ⟨h _ hp, hs'⟩

theorem Ensures.get : Ensures I (get : StateM S S) I := fun _ hs => ⟨hs, hs⟩

theorem Ensures.modify {f : S → S} (h : ∀ s, I s → I (f s)) :
    Ensures I (modify f : StateM S PUnit) fun _ => True := fun s hs => ⟨trivial, h s hs⟩

theorem Ensures.ite {c : Prop} [Decidable c] {y : StateM S α}
    (hx : c → Ensures I x P) (hy : ¬c → Ensures I y P) : Ensures I (if c then x else y) P := by
  split
  · exact hx ‹c›
  · exact hy ‹¬c›

variable {l : List α}

theorem Ensures.findSomeM {f : α → StateM S (Option β)}
    (h : ∀ a ∈ l, Ensures I (f a) fun o => ∀ b, o = some b → Q b) :
    Ensures I (findSomeM f l) fun o => ∀ b, o = some b → Q b := by
  induction l with
  | nil => exact .pure fun b hb => by cases hb
  | cons a as ih =>
      refine .bind (h a List.mem_cons_self) fun o ho => ?_
      cases o with
      | some b => exact .pure ho
      | none => exact ih fun a' ha' => h a' (List.mem_cons_of_mem _ ha')

variable {p : α → StateM S Bool}

theorem Ensures.filterM {R : α → Prop} (h : ∀ a ∈ l, Ensures I (p a) fun b => b = true → R a) :
    Ensures I (filterM p l) fun l' => ∀ a ∈ l', a ∈ l ∧ R a := by
  induction l with
  | nil => exact .pure fun a ha => by cases ha
  | cons a as ih =>
      refine .bind (h a List.mem_cons_self) fun keep hkeep => ?_
      refine .bind (ih fun a' ha' => h a' (List.mem_cons_of_mem _ ha')) fun rest hrest => ?_
      refine .pure fun a' ha' => ?_
      have hrest' : ∀ x ∈ rest, x ∈ a :: as ∧ R x := fun x hx =>
        ⟨List.mem_cons_of_mem _ (hrest x hx).1, (hrest x hx).2⟩
      cases keep with
      | false => exact hrest' a' ha'
      | true =>
          rcases List.mem_cons.1 ha' with rfl | ha'
          · exact ⟨List.mem_cons_self, hkeep rfl⟩
          · exact hrest' a' ha'

theorem bind_run (x : StateM S α) (f : α → StateM S β) (s : S) :
    (x >>= f) s = f (x s).1 (x s).2 := rfl

/-- Nothing is said of the result. -/
def Keeps (I : S → Prop) (x : StateM S α) : Prop := Ensures I x fun _ => True

theorem Keeps.state (hx : Keeps I x) {s : S} (hs : I s) : I (x s).2 := (hx s hs).2

theorem Keeps.pure (a : α) : Keeps I (pure a) := Ensures.pure trivial

theorem Keeps.bind (hx : Keeps I x) (hf : ∀ a, Keeps I (f a)) : Keeps I (x >>= f) :=
  Ensures.bind hx fun a _ => hf a

theorem Keeps.bind_get {f : S → StateM S β} (hf : ∀ s, I s → Keeps I (f s)) :
    Keeps I (get >>= f) :=
  Ensures.bind .get hf

theorem Keeps.filterM (h : ∀ a, Keeps I (p a)) :
    Keeps I (filterM p l) := by
  induction l with
  | nil => exact .pure []
  | cons a as ih => exact .bind (h a) fun _ => .bind ih fun _ => .pure _

/-! ## Results -/

/-- The computation keeps the invariant and gives this result. -/
def Gives (I : S → Prop) (x : StateM S α) (a : α) : Prop := Ensures I x fun b => b = a

theorem Gives.pure (a : α) : Gives I (pure a) a := Ensures.pure rfl

theorem Gives.bind {a : α} {b : β} (hx : Gives I x a)
    (hf : Gives I (f a) b) : Gives I (x >>= f) b := by
  apply Ensures.bind hx
  rintro _ rfl
  exact hf

theorem Gives.bind_get {f : S → StateM S β} {b : β} (hf : ∀ s, I s → Gives I (f s) b) :
    Gives I (get >>= f) b :=
  Ensures.bind .get hf

theorem Gives.findSomeM {f : α → StateM S (Option β)} {g : α → Option β}
    (h : ∀ a ∈ l, Gives I (f a) (g a)) : Gives I (findSomeM f l) (l.findSome? g) := by
  induction l with
  | nil => exact .pure none
  | cons a as ih =>
      have has := ih fun a' ha' => h a' (List.mem_cons_of_mem a ha')
      rw [List.findSome?_cons]
      apply Gives.bind (h a List.mem_cons_self)
      cases g a with
      | some b => exact .pure (some b)
      | none => exact has

theorem Gives.filterM {q : α → Bool}
    (h : ∀ a ∈ l, Gives I (p a) (q a)) : Gives I (filterM p l) (l.filter q) := by
  induction l with
  | nil => exact .pure []
  | cons a as ih =>
      apply Gives.bind (h a List.mem_cons_self)
      apply Gives.bind (ih fun a' ha' => h a' (List.mem_cons_of_mem a ha'))
      rw [List.filter_cons]
      exact .pure _

/-! ## From one property to another -/

/-- From a state with `P`, the computation leads to a result and a state with `R`. -/
def Leads (P : S → Prop) (x : StateM S α) (R : α → S → Prop) : Prop :=
  ∀ s, P s → R (x s).1 (x s).2

section Leads

variable {P : S → Prop} {R : α → S → Prop} {R' : β → S → Prop}

theorem Leads.pure {a : α} (h : ∀ s, P s → R a s) : Leads P (pure a) R := fun s hs => h s hs

theorem Leads.bind {x : StateM S α} {f : α → StateM S β} (hx : Leads P x R)
    (hf : ∀ a, Leads (R a) (f a) R') : Leads P (x >>= f) R' :=
  fun s hs => hf (x s).1 (x s).2 (hx s hs)

theorem Leads.bind_get {f : S → StateM S β} (hf : ∀ s, P s → Leads (· = s) (f s) R') :
    Leads P (get >>= f) R' := fun s hs => hf s hs s rfl

theorem Leads.modify {f : S → S} {R : PUnit → S → Prop} (h : ∀ s, P s → R ⟨⟩ (f s)) :
    Leads P (modify f) R := fun s hs => h s hs

theorem Keeps.leads {I : S → Prop} {x : StateM S α} (hx : Keeps I x) :
    Leads I x fun _ => I := fun s hs => (hx s hs).2

end Leads

/-! ## Parts of the state -/

/-- The computation does to a part of the state what another one does to it alone, with the same
result. -/
def Projects {T : Type} (part : S → T) (x : StateM S α) (y : StateM T α) : Prop :=
  ∀ s, (x s).1 = (y (part s)).1 ∧ part (x s).2 = (y (part s)).2

section Projects

variable {T : Type} {part : S → T}

theorem Projects.pure (a : α) : Projects part (pure a) (pure a) := fun _ => ⟨rfl, rfl⟩

theorem Projects.bind {x : StateM S α} {y : StateM T α} {f : α → StateM S β} {g : α → StateM T β}
    (hx : Projects part x y) (hf : ∀ a, Projects part (f a) (g a)) :
    Projects part (x >>= f) (y >>= g) := by
  intro s
  rcases hx s with ⟨hresult, hstate⟩
  change (f (x s).1 (x s).2).1 = (g (y (part s)).1 (y (part s)).2).1 ∧
    part (f (x s).1 (x s).2).2 = (g (y (part s)).1 (y (part s)).2).2
  rw [← hresult, ← hstate]
  exact hf (x s).1 (x s).2

theorem Projects.skip {x : StateM S α} {z : StateM S β} {y : StateM T β}
    (hx : ∀ s, part (x s).2 = part s) (hz : Projects part z y) :
    Projects part (x >>= fun _ => z) y := by
  intro s
  have hrest := hz (x s).2
  rw [hx s] at hrest
  exact hrest

end Projects

end Stateful
