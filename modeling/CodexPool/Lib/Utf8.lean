import CodexPool.Lib.Bytes
import Mathlib.Data.List.DropRight

/-!
# The bytes of a text

The UTF-8 bytes of a text, and what decoding and trimming of bytes find in them. A character
that is not an ASCII character has no byte of the ASCII range.
-/

namespace Bytes

def ofString (s : String) : Bytes := s.toUTF8.toList

def ofChars (cs : List Char) : Bytes := cs.flatMap String.utf8EncodeChar

theorem toList_loop (bytes : ByteArray) (i : Nat) (read : List UInt8) :
    ByteArray.toList.loop bytes i read = read.reverse ++ bytes.data.toList.drop i := by
  fun_induction ByteArray.toList.loop bytes i read with
  | case1 i read hi ih =>
      have hlength : i < bytes.data.toList.length := by
        simpa using hi
      rw [ih, List.drop_eq_getElem_cons hlength]
      simp [ByteArray.get!, hi]
  | case2 i read hi =>
      have hlength : bytes.data.toList.length ≤ i := by
        simpa using Nat.le_of_not_lt hi
      rw [List.drop_eq_nil_of_le hlength, List.append_nil]

theorem ofString_eq_ofChars (s : String) : ofString s = ofChars s.toList := by
  have hencode : s.toUTF8 = (ofChars s.toList).toByteArray := String.utf8Encode_toList.symm
  rw [ofString, hencode, ByteArray.toList, toList_loop, List.toList_data_toByteArray]
  rfl

@[simp] theorem ofChars_nil : ofChars [] = [] := rfl

theorem ofChars_cons (c : Char) (cs : List Char) :
    ofChars (c :: cs) = String.utf8EncodeChar c ++ ofChars cs := List.flatMap_cons

@[simp] theorem ofChars_append (cs cs' : List Char) :
    ofChars (cs ++ cs') = ofChars cs ++ ofChars cs' := List.flatMap_append

theorem ofString_append (s t : String) : ofString (s ++ t) = ofString s ++ ofString t := by
  simp [ofString_eq_ofChars]

/-! ## Decoding -/

theorem toNat_ofNat_add {n k : Nat} (h : n + k < 256) : (UInt8.ofNat (n + k)).toNat = n + k := by
  rw [UInt8.toNat_ofNat']
  omega

theorem continuation_byte {n : Nat} (h : n < 64) (bits m : Nat) (bs : Bytes) :
    continuation bits (m + 1) (UInt8.ofNat (n + 0x80) :: bs) =
      continuation (bits * 64 + n) m bs := by
  rw [continuation, toNat_ofNat_add (by omega), if_pos (by omega)]
  congr 1
  omega

theorem scalar_lead {k n : Nat} {lead : LeadByte} (hk : 0x80 ≤ k) (hbound : k < 256)
    (hlead : leadByte? k = some lead) (hn : n < 64) (hlo : lead.lo ≤ n + 0x80)
    (hhi : n + 0x80 ≤ lead.hi) (bs : Bytes) :
    scalar (UInt8.ofNat k) (UInt8.ofNat (n + 0x80) :: bs) =
      continuation (lead.bits * 64 + n) (lead.following - 1) bs := by
  have hbyte : (UInt8.ofNat k).toNat = k := toNat_ofNat_add (k := 0) hbound
  unfold scalar
  rw [hbyte, if_neg (by omega), hlead]
  dsimp only
  rw [toNat_ofNat_add (by omega), if_pos ⟨hlo, hhi⟩]
  congr 2
  omega

theorem scalar_ascii {k : Nat} (h : k < 0x80) (bs : Bytes) :
    scalar (UInt8.ofNat k) bs = (k, bs) := by
  have hbyte : (UInt8.ofNat k).toNat = k := toNat_ofNat_add (k := 0) (by omega)
  unfold scalar
  rw [hbyte, if_pos h]

theorem leadByte?_three {v : Nat} (hlow : 0x7FF < v) (hhigh : v ≤ 0xFFFF)
    (hvalid : v < 0xD800 ∨ 0xDFFF < v) :
    ∃ lo hi, leadByte? (v / 4096 % 16 + 0xE0) = some ⟨v / 4096, 2, lo, hi⟩ ∧
      lo ≤ v / 64 % 64 + 0x80 ∧ v / 64 % 64 + 0x80 ≤ hi := by
  have hbits : (v / 4096 % 16 + 0xE0) % 16 = v / 4096 := by omega
  unfold leadByte?
  rw [if_neg (by omega), hbits]
  split_ifs
  · exact ⟨_, _, rfl, by omega, by omega⟩
  · exact ⟨_, _, rfl, by omega, by omega⟩
  · exact ⟨_, _, rfl, by omega, by omega⟩
  all_goals omega

theorem leadByte?_four {v : Nat} (hlow : 0xFFFF < v) (hhigh : v < 0x110000) :
    ∃ lo hi, leadByte? (v / 262144 % 8 + 0xF0) = some ⟨v / 262144, 3, lo, hi⟩ ∧
      lo ≤ v / 4096 % 64 + 0x80 ∧ v / 4096 % 64 + 0x80 ≤ hi := by
  have hbits : (v / 262144 % 8 + 0xF0) % 8 = v / 262144 := by omega
  unfold leadByte?
  rw [if_neg (by omega), if_neg (by omega), if_neg (by omega), if_neg (by omega), hbits]
  split_ifs
  · exact ⟨_, _, rfl, by omega, by omega⟩
  · exact ⟨_, _, rfl, by omega, by omega⟩
  · exact ⟨_, _, rfl, by omega, by omega⟩
  omega

/-- Decoding the bytes of a character gives the character back. -/
theorem scalar_utf8EncodeChar (c : Char) (rest : Bytes) :
    ∃ b bs, String.utf8EncodeChar c = b :: bs ∧ scalar b (bs ++ rest) = (c.toNat, rest) := by
  have hvalid : c.val.toNat < 0xD800 ∨ 0xDFFF < c.val.toNat ∧ c.val.toNat < 0x110000 := c.valid
  change ∃ b bs, String.utf8EncodeChar c = b :: bs ∧ scalar b (bs ++ rest) = (c.val.toNat, rest)
  unfold String.utf8EncodeChar
  generalize c.val.toNat = v at hvalid
  dsimp only
  split_ifs with h1 h2 h3
  · exact ⟨_, _, rfl, scalar_ascii (by omega) rest⟩
  · refine ⟨_, _, rfl, ?_⟩
    have hlead : leadByte? (v / 64 % 32 + 0xC0) = some ⟨v / 64, 1, 0x80, 0xBF⟩ := by
      rw [leadByte?, if_pos (by omega)]
      congr 2
      omega
    rw [List.singleton_append, scalar_lead (by omega) (by omega) hlead (by omega) (by simp)
      (by dsimp only; omega)]
    simp only [continuation, Nat.sub_self]
    congr 1
    omega
  · refine ⟨_, _, rfl, ?_⟩
    rcases leadByte?_three (by omega) h3 (by omega) with ⟨lo, hi, hlead, hlo, hhi⟩
    rw [List.cons_append, scalar_lead (by omega) (by omega) hlead (by omega) hlo hhi]
    change continuation _ (0 + 1) _ = _
    rw [List.singleton_append, continuation_byte (by omega), continuation]
    congr 1
    dsimp only
    omega
  · refine ⟨_, _, rfl, ?_⟩
    rcases leadByte?_four (v := v) (by omega) (by omega) with ⟨lo, hi, hlead, hlo, hhi⟩
    rw [List.cons_append, scalar_lead (by omega) (by omega) hlead (by omega) hlo hhi]
    change continuation _ (0 + 1 + 1) _ = _
    rw [List.cons_append, continuation_byte (by omega), List.singleton_append,
      continuation_byte (by omega), continuation]
    congr 1
    dsimp only
    omega

theorem decodeLossy_ofChars (cs : List Char) {fuel : Nat} (h : (ofChars cs).length ≤ fuel) :
    decodeLossy fuel (ofChars cs) = cs := by
  induction cs generalizing fuel with
  | nil => cases fuel <;> rfl
  | cons c cs ih =>
      rcases scalar_utf8EncodeChar c (ofChars cs) with ⟨b, bs, hc, hscalar⟩
      rw [ofChars_cons, hc, List.cons_append, List.length_cons, List.length_append] at h
      cases fuel with
      | zero => omega
      | succ fuel =>
          rw [ofChars_cons, hc, List.cons_append, decodeLossy, hscalar]
          dsimp only
          rw [ih (by omega), Char.ofNat_toNat]

theorem fromUtf8Lossy_ofString (s : String) : fromUtf8Lossy (ofString s) = s := by
  rw [fromUtf8Lossy, ofString_eq_ofChars, decodeLossy_ofChars s.toList (Nat.le_refl _),
    String.ofList_toList]

theorem le_continuation (bits n : Nat) (bs : Bytes) :
    bits * 64 ^ n ≤ (continuation bits n bs).1 ∨ (continuation bits n bs).1 = replacement := by
  induction n generalizing bits bs with
  | zero => exact .inl (Nat.le_of_eq (Nat.mul_one bits))
  | succ n ih =>
      cases bs with
      | nil => exact .inr rfl
      | cons b bs =>
          rw [continuation]
          split_ifs
          · apply (ih (bits * 64 + b.toNat % 64) bs).imp_left
            intro hle
            calc bits * 64 ^ (n + 1) = bits * 64 * 64 ^ n := by
                  rw [Nat.pow_succ', Nat.mul_assoc]
              _ ≤ (bits * 64 + b.toNat % 64) * 64 ^ n :=
                  Nat.mul_le_mul_right _ (Nat.le_add_right _ _)
              _ ≤ _ := hle
          · exact .inr rfl

theorem le_leadByte? {b c : Nat} {lead : LeadByte} (h : leadByte? b = some lead)
    (hlo : lead.lo ≤ c) (hhi : lead.hi ≥ c) :
    0x80 ≤ (lead.bits * 64 + c % 64) * 64 ^ (lead.following - 1) := by
  unfold leadByte? at h
  split_ifs at h
  all_goals
    rw [← Option.some.inj h] at hlo hhi ⊢
    simp only [Nat.reduceSub, Nat.reducePow] at hlo hhi ⊢
    omega

theorem le_scalar {b : UInt8} (hb : 0x80 ≤ b.toNat) (bs : Bytes) : 0x80 ≤ (scalar b bs).1 := by
  have hreplacement : 0x80 ≤ replacement := by decide
  unfold scalar
  rw [if_neg (by omega)]
  cases hlead : leadByte? b.toNat with
  | none => exact hreplacement
  | some lead =>
      cases bs with
      | nil => exact hreplacement
      | cons c cs =>
          dsimp only
          split_ifs with hc
          · have hbits := le_leadByte? hlead hc.1 hc.2
            rcases le_continuation (lead.bits * 64 + c.toNat % 64) (lead.following - 1) cs with
              hle | hreplaced
            · exact Nat.le_trans hbits hle
            · exact hreplaced ▸ hreplacement
          · exact hreplacement

/-! ## Characters of the ASCII range -/

theorem utf8EncodeChar_ascii {c : Char} (h : c.toNat < 0x80) :
    String.utf8EncodeChar c = [UInt8.ofNat c.toNat] := by
  have hc : c.val.toNat ≤ 0x7F := Nat.le_of_lt_succ h
  unfold String.utf8EncodeChar
  exact if_pos hc

theorem toUTF8_ascii {s : String} (h : s.toList.all (·.toNat < 0x80) = true) :
    s.toUTF8.toList = ofAscii s := by
  simp only [List.all_eq_true, decide_eq_true_eq] at h
  rw [ofAscii, List.map_eq_flatMap]
  apply (ofString_eq_ofChars s).trans
  exact List.flatMap_congr fun c hc => utf8EncodeChar_ascii (h c hc)

theorem le_toNat_ofNat_add {n k : Nat} (hk : 0x80 ≤ k) (h : n + k < 256) :
    0x80 ≤ (UInt8.ofNat (n + k)).toNat := by
  rw [toNat_ofNat_add h]
  omega

theorem le_of_mem_utf8EncodeChar {c : Char} (h : 0x80 ≤ c.toNat) {b : UInt8}
    (hb : b ∈ String.utf8EncodeChar c) : 0x80 ≤ b.toNat := by
  have hc : ¬c.val.toNat ≤ 0x7F := Nat.not_le_of_gt h
  unfold String.utf8EncodeChar at hb
  dsimp only at hb
  rw [if_neg hc] at hb
  split_ifs at hb <;> simp only [List.mem_cons, List.not_mem_nil, or_false] at hb
  · rcases hb with rfl | rfl <;> exact le_toNat_ofNat_add (by omega) (by omega)
  · rcases hb with rfl | rfl | rfl <;> exact le_toNat_ofNat_add (by omega) (by omega)
  · rcases hb with rfl | rfl | rfl | rfl <;> exact le_toNat_ofNat_add (by omega) (by omega)

theorem toNat_ofNat_ascii {n : Nat} (h : n < 0x80) : (UInt8.ofNat n).toNat = n :=
  toNat_ofNat_add (k := 0) (Nat.lt_trans h (by decide))

theorem mem_ofChars_ascii {cs : List Char} {c : Char} (h : c.toNat < 0x80) :
    UInt8.ofNat c.toNat ∈ ofChars cs ↔ c ∈ cs := by
  rw [ofChars, List.mem_flatMap]
  constructor
  · rintro ⟨c', hc', hmem⟩
    rcases Nat.lt_or_ge c'.toNat 0x80 with hascii | hwide
    · rw [utf8EncodeChar_ascii hascii, List.mem_singleton] at hmem
      have hvalue := congrArg UInt8.toNat hmem
      rw [toNat_ofNat_ascii h, toNat_ofNat_ascii hascii] at hvalue
      rwa [Char.toNat_inj.1 hvalue]
    · have hbyte := le_of_mem_utf8EncodeChar hwide hmem
      rw [toNat_ofNat_ascii h] at hbyte
      omega
  · exact fun hc => ⟨c, hc, by rw [utf8EncodeChar_ascii h, List.mem_singleton]⟩

theorem continuation_suffix (bits n : Nat) (bs : Bytes) : (continuation bits n bs).2 <:+ bs := by
  induction n generalizing bits bs with
  | zero => exact List.suffix_rfl
  | succ n ih =>
      cases bs with
      | nil => exact List.suffix_rfl
      | cons b bs =>
          rw [continuation]
          split_ifs
          · exact (ih _ bs).trans (List.suffix_cons b bs)
          · exact List.suffix_rfl

theorem scalar_suffix (b : UInt8) (bs : Bytes) : (scalar b bs).2 <:+ bs := by
  unfold scalar
  split_ifs
  · exact List.suffix_rfl
  · cases leadByte? b.toNat with
    | none => exact List.suffix_rfl
    | some lead =>
        cases bs with
        | nil => exact List.suffix_rfl
        | cons c cs =>
            dsimp only
            split_ifs
            · exact (continuation_suffix _ _ cs).trans (List.suffix_cons c cs)
            · exact List.suffix_rfl

theorem toNat_charOfNat {n : Nat} (h : (Char.ofNat n).toNat ≠ 0) : (Char.ofNat n).toNat = n := by
  by_cases hvalid : n.isValidChar
  · rw [Char.ofNat, dif_pos hvalid]
    rfl
  · rw [Char.ofNat, dif_neg hvalid] at h
    exact absurd rfl h

/-- An ASCII character is decoded from its own byte only. -/
theorem mem_decodeLossy_ascii {fuel : Nat} {bs : Bytes} {c : Char} (h : c.toNat < 0x80)
    (hzero : c.toNat ≠ 0) (hc : c ∈ decodeLossy fuel bs) : UInt8.ofNat c.toNat ∈ bs := by
  induction fuel generalizing bs with
  | zero => cases hc
  | succ fuel ih =>
      cases bs with
      | nil => cases hc
      | cons b bs =>
          rw [decodeLossy] at hc
          rcases List.mem_cons.1 hc with hhead | htail
          · have hcode : (scalar b bs).1 = c.toNat := by
              rw [hhead] at hzero ⊢
              exact (toNat_charOfNat hzero).symm
            rcases Nat.lt_or_ge b.toNat 0x80 with hascii | hwide
            · have hb : (scalar b bs).1 = b.toNat := by
                unfold scalar
                rw [if_pos hascii]
              rw [← hcode, hb, UInt8.ofNat_toNat]
              exact List.mem_cons_self
            · have := le_scalar hwide bs
              omega
          · exact List.mem_cons_of_mem b ((scalar_suffix b bs).subset (ih htail))

/-! ## Trimming -/

/-- Space, tab, line feed, form feed and carriage return. -/
def isAsciiWhitespaceChar (c : Char) : Bool :=
  c = ' ' || c = '\t' || c = '\n' || c = '\x0C' || c = '\r'

theorem utf8EncodeChar_of_whitespace {c : Char} (h : isAsciiWhitespaceChar c = true) :
    ∃ b, String.utf8EncodeChar c = [b] ∧ isAsciiWhitespace b = true := by
  simp only [isAsciiWhitespaceChar, Bool.or_eq_true, decide_eq_true_eq] at h
  rcases h with (((rfl | rfl) | rfl) | rfl) | rfl <;> exact ⟨_, rfl, rfl⟩

theorem not_whitespace_of_mem {c : Char} (h : isAsciiWhitespaceChar c = false) {b : UInt8}
    (hb : b ∈ String.utf8EncodeChar c) : isAsciiWhitespace b = false := by
  cases hspace : isAsciiWhitespace b with
  | false => rfl
  | true =>
      simp only [isAsciiWhitespace, Bool.or_eq_true, decide_eq_true_eq] at hspace
      have hascii : c.toNat < 0x80 := by
        by_contra hwide
        have hle := le_of_mem_utf8EncodeChar (Nat.le_of_not_lt hwide) hb
        rcases hspace with (((rfl | rfl) | rfl) | rfl) | rfl <;> exact absurd hle (by decide)
      rw [utf8EncodeChar_ascii hascii, List.mem_singleton] at hb
      have hc : Char.ofNat b.toNat = c := by
        rw [hb, toNat_ofNat_ascii hascii, Char.ofNat_toNat]
      rw [← hc] at h
      rcases hspace with (((rfl | rfl) | rfl) | rfl) | rfl <;> exact absurd h (by decide)

theorem dropWhile_ofChars (cs : List Char) :
    (ofChars cs).dropWhile isAsciiWhitespace = ofChars (cs.dropWhile isAsciiWhitespaceChar) := by
  induction cs with
  | nil => rfl
  | cons c cs ih =>
      rw [ofChars_cons]
      cases h : isAsciiWhitespaceChar c with
      | true =>
          rcases utf8EncodeChar_of_whitespace h with ⟨b, hc, hb⟩
          rw [hc, List.singleton_append, List.dropWhile_cons_of_pos hb, ih,
            List.dropWhile_cons_of_pos h]
      | false =>
          rw [List.dropWhile_cons_of_neg (by rw [h]; exact Bool.false_ne_true), ofChars_cons]
          rcases scalar_utf8EncodeChar c [] with ⟨b, bs, hc, -⟩
          have hb := not_whitespace_of_mem h (hc ▸ List.mem_cons_self)
          rw [hc, List.cons_append,
            List.dropWhile_cons_of_neg (by rw [hb]; exact Bool.false_ne_true)]

theorem rdropWhile_ofChars (cs : List Char) :
    (ofChars cs).rdropWhile isAsciiWhitespace = ofChars (cs.rdropWhile isAsciiWhitespaceChar) := by
  induction cs using List.reverseRecOn with
  | nil => rfl
  | append_singleton cs c ih =>
      rw [ofChars_append, ofChars_cons, ofChars_nil, List.append_nil]
      cases h : isAsciiWhitespaceChar c with
      | true =>
          rcases utf8EncodeChar_of_whitespace h with ⟨b, hc, hb⟩
          rw [hc, List.rdropWhile_concat_pos _ _ _ hb, ih, List.rdropWhile_concat_pos _ _ _ h]
      | false =>
          rw [List.rdropWhile_concat_neg _ _ _ (by rw [h]; exact Bool.false_ne_true)]
          have hne : String.utf8EncodeChar c ≠ [] := String.utf8EncodeChar_ne_nil
          have hlast := not_whitespace_of_mem h (List.getLast_mem hne)
          rw [← List.dropLast_append_getLast hne, ← List.append_assoc,
            List.rdropWhile_concat_neg _ _ _ (by rw [hlast]; exact Bool.false_ne_true),
            List.append_assoc, List.dropLast_append_getLast hne, ofChars_append, ofChars_cons,
            ofChars_nil, List.append_nil]

theorem trimAscii_ofChars (cs : List Char) : trimAscii (ofChars cs) =
    ofChars ((cs.dropWhile isAsciiWhitespaceChar).rdropWhile isAsciiWhitespaceChar) := by
  rw [← rdropWhile_ofChars, ← dropWhile_ofChars]
  rfl

theorem trimAscii_of_fromUtf8Lossy {s : String}
    (h : fromUtf8Lossy (trimAscii (ofString s)) = s) :
    trimAscii (ofString s) = ofString s := by
  rw [ofString_eq_ofChars, trimAscii_ofChars] at h ⊢
  have hs := congrArg ofString h
  rw [← String.toList_ofList (l := (s.toList.dropWhile _).rdropWhile _), ← ofString_eq_ofChars,
    fromUtf8Lossy_ofString, ofString_eq_ofChars, ofString_eq_ofChars, String.toList_ofList] at hs
  exact hs

end Bytes
