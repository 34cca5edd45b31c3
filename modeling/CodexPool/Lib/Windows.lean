import CodexPool.Lib.Bytes
import Mathlib.Data.List.Infix

/-!
# Windows of bytes

The first window of bytes that is equal to a pattern ends where the shortest prefix ends that has
the pattern as its suffix.
-/

namespace Bytes

variable {p : Bytes}

theorem windowEnd_cons_of_starts {b : UInt8} {bs : Bytes} (h : p <+: b :: bs) :
    windowEnd p (b :: bs) = some p.length := by
  rw [windowEnd, if_pos (List.isPrefixOf_iff_prefix.2 h)]

theorem windowEnd_cons_of_not_starts {b : UInt8} {bs : Bytes} (h : ¬p <+: b :: bs) :
    windowEnd p (b :: bs) = (windowEnd p bs).map (· + 1) := by
  rw [windowEnd, if_neg fun hp => h (List.isPrefixOf_iff_prefix.1 hp)]

theorem suffix_of_windowEnd {bs : Bytes} {e : Nat} (h : windowEnd p bs = some e) :
    e ≤ bs.length ∧ p <:+ bs.take e := by
  induction bs generalizing e with
  | nil => cases h
  | cons b bs ih =>
      by_cases hp : p <+: b :: bs
      · rw [windowEnd_cons_of_starts hp] at h
        rw [← Option.some.inj h]
        exact ⟨hp.length_le, List.prefix_iff_eq_take.1 hp ▸ List.suffix_rfl⟩
      · rw [windowEnd_cons_of_not_starts hp] at h
        rcases Option.map_eq_some_iff.1 h with ⟨e', he', rfl⟩
        rcases ih he' with ⟨hle, hsuffix⟩
        constructor
        · exact Nat.succ_le_succ hle
        · rw [List.take_succ_cons]
          exact hsuffix.trans (List.suffix_cons b _)

theorem windowEnd_of_suffix {bs front : Bytes} (hne : p ≠ []) (hfront : front <+: bs)
    (h : p <:+ front) : ∃ e, windowEnd p bs = some e ∧ e ≤ front.length := by
  induction bs generalizing front with
  | nil =>
      rw [List.prefix_nil.1 hfront] at h
      exact absurd (List.suffix_nil.1 h) hne
  | cons b bs ih =>
      by_cases hp : p <+: b :: bs
      · exact ⟨_, windowEnd_cons_of_starts hp, h.length_le⟩
      · cases front with
        | nil => exact absurd (List.suffix_nil.1 h) hne
        | cons b' front =>
            rcases List.suffix_cons_iff.1 h with heq | hsuffix
            · exact absurd (heq ▸ hfront) hp
            · rcases ih (List.cons_prefix_cons.1 hfront).2 hsuffix with ⟨e, he, hle⟩
              rw [windowEnd_cons_of_not_starts hp, he]
              exact ⟨e + 1, rfl, Nat.succ_le_succ hle⟩

theorem windowEnd_eq_none {bs : Bytes} (hne : p ≠ []) :
    windowEnd p bs = none ↔ ∀ front, front <+: bs → ¬p <:+ front := by
  constructor
  · intro hnone front hfront h
    rcases windowEnd_of_suffix hne hfront h with ⟨e, he, -⟩
    rw [hnone] at he
    cases he
  · intro h
    cases hsome : windowEnd p bs with
    | none => rfl
    | some e => exact absurd (suffix_of_windowEnd hsome).2 (h _ (List.take_prefix e bs))

end Bytes
