import CodexPool.Lib.Machine
import Mathlib.Data.List.Induction
import Mathlib.Data.Option.Basic
import Mathlib.Logic.Function.Basic

/-!
# Change logs

A system keeps a table, `view s : κ → Option α`, and a log that names the keys it
changes, without their values: an entry says of a key that it was put or that it was
dropped, or nothing. A replica that takes up the log reads the value of a key that was
put from the table as it stands by then. `Logs` is what a log has to satisfy so that
the replica ends with the table (`Logs.replay_eq`), whatever happened to a key
between; `Logs.run` is the rule that proves it of a machine from its single steps, and
`currentAt_of_logs` the one for entries that are taken up after they were logged.
-/

namespace ChangeLog

inductive Change where
  | put
  | drop
deriving DecidableEq

variable {S E κ α : Type*} (changes : E → κ → Option Change)

/-- What a log says of a key in the end. -/
def lastChange (es : List E) (k : κ) : Option Change :=
  (es.filterMap fun e => changes e k).getLast?

/-- The log `es` accounts for the change of the table from `m` to `m'`. -/
structure Logs (m m' : κ → Option α) (es : List E) : Prop where
  unchanged : ∀ k, lastChange changes es k = none → m' k = m k
  dropped : ∀ k, lastChange changes es k = some .drop → m' k = none

/-- The replica's step: the current value of a key that was put, nothing for one that
was dropped. -/
def replayStep (target : κ → Option α) (m : κ → Option α) (e : E) : κ → Option α :=
  fun k => match changes e k with
    | none => m k
    | some .put => target k
    | some .drop => none

/-- A replica that takes up a log: `source e` is the table as it stands when the entry
`e` is taken up. -/
def replay (source : E → κ → Option α) (m : κ → Option α) (es : List E) : κ → Option α :=
  es.foldl (fun m e => replayStep changes (source e) m e) m

/-- The last entry that puts the key `k` finds the value that the key has in the end. -/
def CurrentAt (source : E → κ → Option α) (m' : κ → Option α) (es : List E) (k : κ) : Prop :=
  ∀ pre e post, es = pre ++ e :: post → lastChange changes post k = none →
    changes e k = some .put → source e k = m' k

variable {changes} {m m' m'' : κ → Option α} {es es' : List E}

theorem lastChange_append (k : κ) :
    lastChange changes (es ++ es') k =
      (lastChange changes es' k).or (lastChange changes es k) := by
  unfold lastChange
  rw [List.filterMap_append, List.getLast?_append]

theorem lastChange_singleton (e : E) (k : κ) : lastChange changes [e] k = changes e k := by
  unfold lastChange
  cases h : changes e k <;> simp [h]

variable {k : κ}

theorem lastChange_eq_none_iff :
    lastChange changes es k = none ↔ ∀ e ∈ es, changes e k = none := by
  rw [lastChange, List.getLast?_eq_none_iff, List.filterMap_eq_nil_iff]

theorem exists_of_lastChange {change : Change}
    (h : lastChange changes es k = some change) : ∃ e ∈ es, changes e k = some change :=
  List.mem_filterMap.1 (List.mem_of_getLast? h)

theorem Logs.nil : Logs changes m m [] :=
  ⟨fun _ _ => rfl, fun _ h => by cases h⟩

theorem Logs.trans (h : Logs changes m m' es) (h' : Logs changes m' m'' es') :
    Logs changes m m'' (es ++ es') where
  unchanged k hk := by
    rw [lastChange_append, Option.or_eq_none_iff] at hk
    exact (h'.unchanged k hk.1).trans (h.unchanged k hk.2)
  dropped k hk := by
    rw [lastChange_append] at hk
    cases hlast : lastChange changes es' k with
    | none =>
        rw [hlast, Option.none_or] at hk
        exact (h'.unchanged k hlast).trans (h.dropped k hk)
    | some change =>
        rw [hlast, Option.some_or] at hk
        exact h'.dropped k (hlast.trans hk)

theorem Logs.map {β : Type*} (f : α → β) (h : Logs changes m m' es) :
    Logs changes (fun k => (m k).map f) (fun k => (m' k).map f) es where
  unchanged k hk := by rw [h.unchanged k hk]
  dropped k hk := by
    rw [h.dropped k hk]
    rfl

theorem Logs.comap {E' : Type*} {f : E' → E} {es : List E'}
    (h : Logs changes m m' (es.map f)) : Logs (fun e => changes (f e)) m m' es := by
  have hlast : ∀ k, lastChange (fun e => changes (f e)) es k =
      lastChange changes (es.map f) k := by
    intro k
    unfold lastChange
    rw [List.filterMap_map]
    rfl
  exact ⟨fun k hk => h.unchanged k (hlast k ▸ hk), fun k hk => h.dropped k (hlast k ▸ hk)⟩

theorem Logs.run {I : Type*} (step : S → I → S) (view : S → κ → Option α)
    (log : S → List E)
    (hstep : ∀ s i, ∃ es, log (step s i) = log s ++ es ∧
      Logs changes (view s) (view (step s i)) es) (s : S) (is : List I) :
    ∃ es, log (Machine.run step s is) = log s ++ es ∧
      Logs changes (view s) (view (Machine.run step s is)) es := by
  induction is generalizing s with
  | nil => exact ⟨[], (List.append_nil _).symm, Logs.nil⟩
  | cons i is ih =>
      obtain ⟨es, hlog, hes⟩ := hstep s i
      obtain ⟨es', hlog', hes'⟩ := ih (step s i)
      refine ⟨es ++ es', ?_, hes.trans hes'⟩
      rw [Machine.run, hlog', hlog, List.append_assoc]

variable {source : E → κ → Option α}

/-- What a replica holds of a key is decided by what the log says of it last. -/
theorem replay_apply (h : CurrentAt changes source m' es k) :
    replay changes source m es k =
      match lastChange changes es k with
      | none => m k
      | some .put => m' k
      | some .drop => none := by
  unfold replay
  induction es using List.reverseRecOn with
  | nil => rfl
  | append_singleton es e ih =>
      rw [List.foldl_concat, replayStep, lastChange_append, lastChange_singleton]
      cases hchange : changes e k with
      | none =>
          refine ih fun pre e' post hes hpost => h pre e' (post ++ [e]) (by simp [hes]) ?_
          rw [lastChange_append, hpost, lastChange_singleton, hchange]
          rfl
      | some change =>
          cases change with
          | put => exact h es e [] rfl rfl hchange
          | drop => rfl

theorem currentAt_of_logs
    (h : ∀ pre e post, es = pre ++ e :: post →
      ∃ between rest, post = between ++ rest ∧ Logs changes (source e) m' rest) :
    CurrentAt changes source m' es k := by
  intro pre e post hes hpost _
  obtain ⟨between, rest, rfl, hlogs⟩ := h pre e post hes
  rw [lastChange_append, Option.or_eq_none_iff] at hpost
  exact (hlogs.unchanged k hpost.1).symm

theorem CurrentAt.map {β : Type*} (f : α → β) (h : CurrentAt changes source m' es k) :
    CurrentAt changes (fun e k => (source e k).map f) (fun k => (m' k).map f) es k := by
  intro pre e post hes hpost hput
  exact congrArg (Option.map f) (h pre e post hes hpost hput)

theorem Logs.replay_eq (h : Logs changes m m' es)
    (hcurrent : ∀ k, CurrentAt changes source m' es k) : replay changes source m es = m' := by
  funext k
  rw [replay_apply (hcurrent k)]
  cases hlast : lastChange changes es k with
  | none => exact (h.unchanged k hlast).symm
  | some change =>
      cases change with
      | put => rfl
      | drop => exact (h.dropped k hlast).symm

end ChangeLog
