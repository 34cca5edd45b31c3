import CodexPool.Lib.Utf8

/-!
# Cutting a text at a number of bytes

A text can be cut only between two characters. In its UTF-8 bytes these places are seen from the
byte that follows, which continues no character.
-/

namespace Bytes

/-- The byte continues a character. -/
def isContinuation (b : UInt8) : Bool := 0x80 ≤ b.toNat && b.toNat < 0xC0

/-- `str::is_char_boundary` of the bytes of a text. -/
def isCharBoundary (bs : Bytes) (index : Nat) : Bool :=
  index == 0 ||
    match bs[index]? with
    | none => index == bs.length
    | some b => !isContinuation b

/-- `String::truncate`, which panics inside a character. -/
def truncate (bs : Bytes) (newLen : Nat) : Option Bytes :=
  if newLen ≤ bs.length then
    if isCharBoundary bs newLen then some (bs.take newLen) else none
  else some bs

theorem isContinuation_ofNat {n k : Nat} (hk : 0x80 ≤ k) (h : n + k < 0xC0) :
    isContinuation (UInt8.ofNat (n + k)) = true := by
  rw [isContinuation, toNat_ofNat_add (by omega)]
  simp
  omega

theorem not_isContinuation_ofNat {n k : Nat} (hk : 0xC0 ≤ k) (h : n + k < 256) :
    isContinuation (UInt8.ofNat (n + k)) = false := by
  rw [isContinuation, toNat_ofNat_add h]
  simp
  omega

/-- The first byte of a character is the one that continues none. -/
theorem utf8EncodeChar_eq_cons (c : Char) :
    ∃ b rest, String.utf8EncodeChar c = b :: rest ∧ isContinuation b = false ∧
      ∀ b' ∈ rest, isContinuation b' = true := by
  have hlt : c.val.toNat < 0x110000 := by
    have hvalid := c.valid
    rcases hvalid with h | h
    · exact Nat.lt_trans h (by decide)
    · exact h.2
  rcases Nat.lt_or_ge c.toNat 0x80 with hascii | hwide
  · refine ⟨_, [], utf8EncodeChar_ascii hascii, ?_, by simp⟩
    rw [isContinuation, toNat_ofNat_ascii hascii]
    simp
    omega
  · have hc : ¬c.val.toNat ≤ 0x7F := Nat.not_le_of_gt hwide
    unfold String.utf8EncodeChar
    dsimp only
    rw [if_neg hc]
    split_ifs
    · refine ⟨_, _, rfl, not_isContinuation_ofNat (by omega) (by omega), ?_⟩
      simp only [List.forall_mem_cons, List.not_mem_nil, false_implies, implies_true, and_true]
      exact isContinuation_ofNat (by omega) (by omega)
    · refine ⟨_, _, rfl, not_isContinuation_ofNat (by omega) (by omega), ?_⟩
      simp only [List.forall_mem_cons, List.not_mem_nil, false_implies, implies_true, and_true]
      exact ⟨isContinuation_ofNat (by omega) (by omega),
        isContinuation_ofNat (by omega) (by omega)⟩
    · refine ⟨_, _, rfl, not_isContinuation_ofNat (by omega) (by omega), ?_⟩
      simp only [List.forall_mem_cons, List.not_mem_nil, false_implies, implies_true, and_true]
      exact ⟨isContinuation_ofNat (by omega) (by omega),
        isContinuation_ofNat (by omega) (by omega), isContinuation_ofNat (by omega) (by omega)⟩

theorem isCharBoundary_length_add (bs bs' : Bytes) {index : Nat} (h : 0 < index) :
    isCharBoundary (bs ++ bs') (bs.length + index) = isCharBoundary bs' index := by
  have hindex : (bs.length + index == 0) = (index == 0) := by
    rw [beq_false_of_ne (by omega), beq_false_of_ne (by omega)]
  have hlength : (bs.length + index == (bs ++ bs').length) = (index == bs'.length) := by
    simp
  rw [isCharBoundary, isCharBoundary, hindex, hlength,
    List.getElem?_append_right (Nat.le_add_right _ _), Nat.add_sub_cancel_left]

theorem length_ofChars_cons (c : Char) (cs : List Char) :
    (ofChars (c :: cs)).length = (String.utf8EncodeChar c).length + (ofChars cs).length := by
  rw [ofChars_cons, List.length_append]

theorem isCharBoundary_inside (c : Char) (cs : List Char) {index : Nat} (hpos : 0 < index)
    (h : index < (String.utf8EncodeChar c).length) :
    isCharBoundary (ofChars (c :: cs)) index = false := by
  obtain ⟨b, rest, hbytes, -, hrest⟩ := utf8EncodeChar_eq_cons c
  obtain ⟨i, rfl⟩ := Nat.exists_eq_succ_of_ne_zero hpos.ne'
  rw [hbytes] at h
  have hi : i < rest.length := Nat.lt_of_succ_lt_succ h
  have hbyte : (ofChars (c :: cs))[i + 1]? = some rest[i] := by
    rw [ofChars_cons, hbytes, List.cons_append, List.getElem?_cons_succ,
      List.getElem?_append_left hi, List.getElem?_eq_getElem hi]
  simp [isCharBoundary, hbyte, hrest _ (List.getElem_mem hi)]

theorem isCharBoundary_zero (bs : Bytes) : isCharBoundary bs 0 = true := rfl

theorem isCharBoundary_next (c : Char) (cs : List Char) (index : Nat) :
    isCharBoundary (ofChars (c :: cs)) ((String.utf8EncodeChar c).length + index) =
      isCharBoundary (ofChars cs) index := by
  rw [ofChars_cons]
  rcases Nat.eq_zero_or_pos index with rfl | hpos
  · rw [isCharBoundary_zero]
    cases cs with
    | nil => simp [isCharBoundary, ofChars]
    | cons c' cs =>
        obtain ⟨b, rest, hbytes, hlead, -⟩ := utf8EncodeChar_eq_cons c'
        rw [ofChars_cons, hbytes]
        simp [isCharBoundary, hlead]
  · exact isCharBoundary_length_add _ _ hpos

/-- At a boundary a text splits into the characters before and after it. -/
theorem isCharBoundary_ofChars {cs : List Char} {index : Nat}
    (h : index ≤ (ofChars cs).length) :
    isCharBoundary (ofChars cs) index = true ↔
      ∃ cs₁ cs₂, cs = cs₁ ++ cs₂ ∧ (ofChars cs₁).length = index := by
  rcases Nat.eq_zero_or_pos index with rfl | hpos
  · exact iff_of_true rfl ⟨[], cs, rfl, rfl⟩
  induction cs generalizing index with
  | nil => exact absurd h (Nat.not_le_of_gt hpos)
  | cons c cs ih =>
      have hcons : (∃ cs₁ cs₂, c :: cs = cs₁ ++ cs₂ ∧ (ofChars cs₁).length = index) ↔
          ∃ cs₁ cs₂, cs = cs₁ ++ cs₂ ∧
            (String.utf8EncodeChar c).length + (ofChars cs₁).length = index := by
        constructor
        · rintro ⟨cs₁, cs₂, hsplit, hlength⟩
          cases cs₁ with
          | nil => exact absurd hlength hpos.ne
          | cons c₁ cs₁ =>
              obtain ⟨rfl, rfl⟩ := List.cons.inj hsplit
              exact ⟨cs₁, cs₂, rfl, by rw [← length_ofChars_cons, hlength]⟩
        · rintro ⟨cs₁, cs₂, rfl, hlength⟩
          exact ⟨c :: cs₁, cs₂, rfl, by rw [length_ofChars_cons, hlength]⟩
      rw [hcons]
      rcases Nat.lt_or_ge index (String.utf8EncodeChar c).length with hinside | hafter
      · rw [isCharBoundary_inside c cs hpos hinside]
        apply iff_of_false Bool.false_ne_true
        rintro ⟨cs₁, cs₂, -, hlength⟩
        omega
      · obtain ⟨i, rfl⟩ := Nat.exists_eq_add_of_le hafter
        rw [isCharBoundary_next]
        simp only [Nat.add_left_cancel_iff]
        rcases Nat.eq_zero_or_pos i with rfl | hi
        · exact iff_of_true rfl ⟨[], cs, rfl, rfl⟩
        · rw [length_ofChars_cons] at h
          exact ih (by omega) hi

/-- Cutting a text succeeds where it is short or has a boundary, and leaves its first characters. -/
theorem truncate_ofChars (cs : List Char) (newLen : Nat) (kept : Bytes) :
    truncate (ofChars cs) newLen = some kept ↔
      (ofChars cs).length < newLen ∧ kept = ofChars cs ∨
        ∃ cs₁ cs₂, cs = cs₁ ++ cs₂ ∧ (ofChars cs₁).length = newLen ∧ kept = ofChars cs₁ := by
  rw [truncate]
  split
  · rename_i hle
    constructor
    · intro h
      obtain ⟨hboundary, hkept⟩ := Option.ite_none_right_eq_some.1 h
      obtain ⟨cs₁, cs₂, rfl, hlength⟩ := (isCharBoundary_ofChars hle).1 hboundary
      refine Or.inr ⟨cs₁, cs₂, rfl, hlength, ?_⟩
      rw [← Option.some.inj hkept, ofChars_append, ← hlength, List.take_left]
    · rintro (⟨hlt, -⟩ | ⟨cs₁, cs₂, rfl, hlength, rfl⟩)
      · omega
      · rw [if_pos ((isCharBoundary_ofChars hle).2 ⟨cs₁, cs₂, rfl, hlength⟩), ofChars_append,
          ← hlength, List.take_left]
  · rename_i hlt
    constructor
    · exact fun h => Or.inl ⟨by omega, (Option.some.inj h).symm⟩
    · rintro (⟨-, rfl⟩ | ⟨cs₁, cs₂, rfl, hlength, -⟩)
      · rfl
      · rw [ofChars_append, List.length_append] at hlt
        omega

end Bytes
