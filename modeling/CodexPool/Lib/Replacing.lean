import CodexPool.Lib.Machine
import CodexPool.Lib.Tally
import Mathlib.Algebra.GroupWithZero.Nat

/-!
# Replacing tables

A table is a list of parts, each written by one insertion. From time to time some
neighbouring parts are merged into one, which keeps of each key only the row that
was inserted last. A merge is harmless for the sum of a key if and only if it meets
the key at most once, where the amounts of its rows are positive.
-/

namespace Replacing

variable {ρ κ : Type*} [DecidableEq κ] (key : ρ → κ)

def lastRows : List ρ → List ρ
  | [] => []
  | r :: rows =>
    if rows.any fun r' => key r' = key r then lastRows rows else r :: lastRows rows

def mergedRows (first count : Nat) (parts : List (List ρ)) : List ρ :=
  ((parts.drop first).take count).flatten

def mergeParts (first count : Nat) (parts : List (List ρ)) : List (List ρ) :=
  parts.take first ++ lastRows key (mergedRows first count parts) ::
    (parts.drop first).drop count

inductive Op (ρ : Type*) where
  | insert (rows : List ρ)
  | merge (first count : Nat)

def apply (parts : List (List ρ)) : Op ρ → List (List ρ)
  | .insert rows => parts ++ [rows]
  | .merge first count => mergeParts key first count parts

/-- The table after an operation, if there is one. -/
def applyOp (parts : List (List ρ)) (op : Option (Op ρ)) : List (List ρ) :=
  op.elim parts (apply key parts)

/-- The merge meets the key at most once. -/
def MergesOnce (k : κ) (parts : List (List ρ)) : Op ρ → Prop
  | .insert _ => True
  | .merge first count => (mergedRows first count parts).countP (key · = k) ≤ 1

/-- What an operation inserts for the key. -/
def inserted (amount : ρ → Nat) (k : κ) : Op ρ → Nat
  | .insert rows => Tally.sumWhere amount (key · = k) rows
  | .merge _ _ => 0

def insertedBy (amount : ρ → Nat) (k : κ) (op : Option (Op ρ)) : Nat :=
  op.elim 0 (inserted key amount k)

variable {key}

theorem mem_of_mem_lastRows {rows : List ρ} {r : ρ} (h : r ∈ lastRows key rows) : r ∈ rows := by
  induction rows with
  | nil => exact h
  | cons r' rows ih =>
      rw [lastRows] at h
      split at h
      · exact List.mem_cons_of_mem _ (ih h)
      · rcases List.mem_cons.1 h with rfl | h
        · exact List.mem_cons_self
        · exact List.mem_cons_of_mem _ (ih h)

theorem mergedRows_split (first count : Nat) (parts : List (List ρ)) :
    parts.flatten = (parts.take first).flatten ++ mergedRows first count parts ++
      ((parts.drop first).drop count).flatten := by
  rw [mergedRows, List.append_assoc, ← List.flatten_append, List.take_append_drop,
    ← List.flatten_append, List.take_append_drop]

section Sum

variable {amount : ρ → Nat} {k : κ}

theorem sumWhere_lastRows_le (key : ρ → κ) (amount : ρ → Nat) (k : κ) (rows : List ρ) :
    Tally.sumWhere amount (key · = k) (lastRows key rows) ≤
      Tally.sumWhere amount (key · = k) rows := by
  induction rows with
  | nil => exact Nat.le_refl _
  | cons r rows ih =>
      rw [lastRows]
      split
      · rw [Tally.sumWhere_cons]
        omega
      · simp only [Tally.sumWhere_cons]
        omega

theorem sumWhere_lastRows_eq_iff (key : ρ → κ) (k : κ) {rows : List ρ}
    (hpos : ∀ r ∈ rows, 0 < amount r) :
    Tally.sumWhere amount (key · = k) (lastRows key rows) =
        Tally.sumWhere amount (key · = k) rows ↔
      rows.countP (key · = k) ≤ 1 := by
  induction rows with
  | nil => simp [lastRows]
  | cons r rows ih =>
      rw [List.forall_mem_cons] at hpos
      have hle := sumWhere_lastRows_le key amount k rows
      have hr := hpos.1
      have ih := ih hpos.2
      rw [lastRows, List.countP_cons]
      by_cases hk : key r = k
      · by_cases hany : rows.any fun r' => key r' = key r
        · have hcount : 0 < rows.countP (key · = k) := by
            rw [List.countP_pos_iff]
            simpa [hk] using hany
          rw [if_pos hany, Tally.sumWhere_cons]
          simp only [hk, decide_true, if_true]
          omega
        · have hnone : rows.countP (key · = k) = 0 := by
            rw [List.countP_eq_zero]
            simpa [hk] using hany
          rw [if_neg hany, Tally.sumWhere_cons, Tally.sumWhere_cons]
          simp only [hk, decide_true, if_true]
          omega
      · split
        · rw [Tally.sumWhere_cons]
          simpa [hk] using ih
        · rw [Tally.sumWhere_cons, Tally.sumWhere_cons]
          simpa [hk] using ih

theorem mem_flatten_mergeParts {first count : Nat} {parts : List (List ρ)} {r : ρ}
    (h : r ∈ (mergeParts key first count parts).flatten) : r ∈ parts.flatten := by
  rw [mergedRows_split first count]
  simp only [mergeParts, List.flatten_append, List.flatten_cons, List.mem_append] at h ⊢
  rcases h with h | h | h
  · exact .inl (.inl h)
  · exact .inl (.inr (mem_of_mem_lastRows h))
  · exact .inr h

/-- A merge leaves the sum of a key as it is if and only if it meets the key at most
once. -/
theorem sumWhere_apply_iff {parts : List (List ρ)} (hpos : ∀ r ∈ parts.flatten, 0 < amount r)
    (op : Op ρ) :
    Tally.sumWhere amount (key · = k) (apply key parts op).flatten =
        Tally.sumWhere amount (key · = k) parts.flatten + inserted key amount k op ↔
      MergesOnce key k parts op := by
  cases op with
  | insert rows => simp [apply, inserted, MergesOnce]
  | merge first count =>
      have hsplit := mergedRows_split first count parts
      have hpositive : ∀ r ∈ mergedRows first count parts, 0 < amount r := by
        intro r hr
        apply hpos r
        rw [hsplit]
        simp [hr]
      have hmerged := sumWhere_lastRows_eq_iff key k hpositive
      have hle := sumWhere_lastRows_le key amount k (mergedRows first count parts)
      rw [hsplit]
      simp only [apply, mergeParts, inserted, MergesOnce, List.flatten_append,
        List.flatten_cons, Tally.sumWhere_append]
      rw [← hmerged]
      omega

end Sum

/-! ## A machine with a replacing table -/

section Machine

variable {S I : Type*} {step : S → I → S} {table : S → List (List ρ)} {op : I → Option (Op ρ)}
  {amount : ρ → Nat} {k : κ}

def Positive (amount : ρ → Nat) : Op ρ → Prop
  | .insert rows => ∀ r ∈ rows, 0 < amount r
  | .merge _ _ => True

theorem pos_apply {parts : List (List ρ)} (hpos : ∀ r ∈ parts.flatten, 0 < amount r)
    {op : Op ρ} (hop : Positive amount op) :
    ∀ r ∈ (apply key parts op).flatten, 0 < amount r := by
  intro r hr
  cases op with
  | insert rows =>
      rw [apply, List.flatten_append, List.mem_append] at hr
      rcases hr with hr | hr
      · exact hpos r hr
      · exact hop r (by simpa using hr)
  | merge first count => exact hpos r (mem_flatten_mergeParts hr)

/-- In every state of a run the sum of a key is what was inserted for it, if and only if no
merge of the run meets the key twice. -/
theorem sum_along_iff (table : S → List (List ρ)) (k : κ)
    (htable : ∀ s i, table (step s i) = applyOp key (table s) (op i))
    (hop : ∀ i, ∀ o ∈ op i, Positive amount o) {s : S}
    (hpos : ∀ r ∈ (table s).flatten, 0 < amount r) (is : List I) :
    (∀ pre, pre <+: is →
        Tally.sumWhere amount (key · = k) (table (Machine.run step s pre)).flatten =
          Tally.sumWhere amount (key · = k) (table s).flatten +
            (pre.map fun i => insertedBy key amount k (op i)).sum) ↔
      Machine.Along step (fun s i => ∀ o ∈ op i, MergesOnce key k (table s) o) s is := by
  induction is generalizing s with
  | nil =>
      constructor
      · intro _
        trivial
      · intro _ pre hpre
        rw [List.prefix_nil.1 hpre]
        rfl
  | cons i is ih =>
      have hpos' : ∀ r ∈ (table (step s i)).flatten, 0 < amount r := by
        rw [htable]
        cases ho : op i with
        | none => exact hpos
        | some o => exact pos_apply hpos (hop i o ho)
      have hstep : Tally.sumWhere amount (key · = k) (table (step s i)).flatten =
            Tally.sumWhere amount (key · = k) (table s).flatten +
              insertedBy key amount k (op i) ↔
          ∀ o ∈ op i, MergesOnce key k (table s) o := by
        rw [htable]
        cases ho : op i with
        | none => simp [applyOp, insertedBy]
        | some o => simpa [applyOp, insertedBy] using sumWhere_apply_iff hpos o
      rw [Machine.Along, ← hstep, ← ih hpos']
      constructor
      · intro h
        have hone : Tally.sumWhere amount (key · = k) (table (step s i)).flatten =
            Tally.sumWhere amount (key · = k) (table s).flatten +
              insertedBy key amount k (op i) :=
          h [i] (List.prefix_cons_iff.2 (.inr ⟨[], rfl, List.nil_prefix⟩))
        refine ⟨hone, ?_⟩
        intro pre hpre
        have hmore := h (i :: pre) ((List.prefix_cons_inj i).2 hpre)
        rw [List.map_cons, List.sum_cons] at hmore
        rw [hone, Nat.add_assoc]
        exact hmore
      · rintro ⟨hone, hmore⟩ pre hpre
        rcases List.prefix_cons_iff.1 hpre with rfl | ⟨rest, rfl, hrest⟩
        · rfl
        · rw [List.map_cons, List.sum_cons, ← Nat.add_assoc, ← hone]
          exact hmore rest hrest

end Machine

end Replacing
