import Mathlib.Data.List.Basic

/-!
# Streams of blocks

A stream of events that carries blocks with indices. It starts once; a block is opened
once, takes the deltas of its kind while it is open and is closed once; when all blocks
are closed a summary may follow, and then the end. An error ends the stream at any time
before the summary. `accept` reads such a stream event by event and refuses whatever is
out of place.
-/

namespace BlockStream

variable {κ : Type*}

inductive Event (κ : Type*) where
  | start
  | openBlock (i : Nat) (k : κ)
  | delta (i : Nat) (k : κ)
  | closeBlock (i : Nat)
  | summary
  | stop
  | error

/-- What has been read: the blocks that are open, and every index that was ever used. -/
structure State (κ : Type*) where
  started : Bool
  summarized : Bool
  ended : Bool
  opened : List (Nat × κ)
  used : List Nat

def State.init : State κ := ⟨false, false, false, [], []⟩

/-- Blocks may be sent. -/
def State.running (s : State κ) : Bool := s.started && !s.summarized && !s.ended

variable [DecidableEq κ]

def accept (s : State κ) : Event κ → Option (State κ)
  | .start => if s.started || s.ended then none else some { s with started := true }
  | .openBlock i k =>
    if s.running ∧ i ∉ s.used then
      some { s with opened := (i, k) :: s.opened, used := i :: s.used }
    else none
  | .delta i k => if s.running ∧ (i, k) ∈ s.opened then some s else none
  | .closeBlock i =>
    if s.running ∧ i ∈ s.opened.map Prod.fst then
      some { s with opened := s.opened.filter fun block => block.1 ≠ i }
    else none
  | .summary =>
    if s.running ∧ s.opened = [] then some { s with summarized := true } else none
  | .stop =>
    if s.summarized && !s.ended then some { s with ended := true } else none
  | .error =>
    if s.summarized || s.ended then none else some { s with ended := true }

def acceptAll : State κ → List (Event κ) → Option (State κ)
  | s, [] => some s
  | s, e :: es => (accept s e).bind fun s' => acceptAll s' es

/-- A whole stream: every event is in its place, and the last one ends it. -/
def Valid (es : List (Event κ)) : Prop :=
  ∃ s, acceptAll State.init es = some s ∧ s.ended = true

instance (es : List (Event κ)) : Decidable (Valid es) :=
  decidable_of_iff ((acceptAll State.init es).any (·.ended) = true) (by
    cases h : acceptAll State.init es <;> simp [Valid, h])

theorem acceptAll_append {s s' : State κ} {es : List (Event κ)}
    (h : acceptAll s es = some s') (es' : List (Event κ)) :
    acceptAll s (es ++ es') = acceptAll s' es' := by
  induction es generalizing s with
  | nil =>
      cases h
      rfl
  | cons e es ih =>
      obtain ⟨s'', hs'', hrest⟩ := Option.bind_eq_some_iff.1 h
      simp only [List.cons_append, acceptAll, hs'', Option.bind_some]
      exact ih hrest

theorem acceptAll_block {s : State κ} {i : Nat} (hrun : s.running = true)
    (hi : i ∉ s.used) (hopened : ∀ b ∈ s.opened, b.1 ≠ i) (k : κ) :
    acceptAll s [.openBlock i k, .delta i k, .closeBlock i] =
      some { s with used := i :: s.used } := by
  have hfilter : (s.opened.filter fun b => b.1 ≠ i) = s.opened :=
    List.filter_eq_self.2 fun b hb => by simpa using hopened b hb
  have hopen : accept s (.openBlock i k) =
      some { s with opened := (i, k) :: s.opened, used := i :: s.used } := by
    simp [accept, hrun, hi]
  have hrun' : State.running { s with opened := (i, k) :: s.opened, used := i :: s.used } =
      true := hrun
  simp only [acceptAll, hopen, Option.bind_some]
  simp only [accept, hrun', List.mem_cons, true_or, and_self, if_true, Option.bind_some,
    List.map_cons]
  rw [List.filter_cons_of_neg (by simp), hfilter]

theorem acceptAll_summary_stop {s : State κ} (hrun : s.running = true)
    (hopened : s.opened = []) :
    acceptAll s [.summary, .stop] = some { s with summarized := true, ended := true } := by
  have hended : s.ended = false := by
    simp only [State.running, Bool.and_eq_true, Bool.not_eq_true'] at hrun
    exact hrun.2
  simp [acceptAll, accept, hrun, hopened, hended]

end BlockStream
