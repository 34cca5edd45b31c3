import Mathlib.Algebra.Group.Nat.Defs
import Mathlib.Data.List.Basic

/-!
# Byte strings

Operations of the source language on slices of bytes: trimming, prefixes,
windows and the decoding of UTF-8 that puts the replacement character in the
place of what is not well formed. A text of hexadecimal digits determines its bytes.
-/

abbrev Bytes := List UInt8

namespace Bytes

/-- The bytes of an ASCII text. -/
def ofAscii (s : String) : Bytes := s.toList.map fun c => UInt8.ofNat c.toNat

theorem ofAscii_append (s t : String) : ofAscii (s ++ t) = ofAscii s ++ ofAscii t := by
  simp [ofAscii]

theorem ofAscii_append_ne {s t : String} (n : Nat) (hs : n ≤ (ofAscii s).length)
    (ht : n ≤ (ofAscii t).length) (h : (ofAscii s).take n ≠ (ofAscii t).take n)
    (s' t' : String) : ofAscii (s ++ s') ≠ ofAscii (t ++ t') := by
  intro heq
  rw [ofAscii_append, ofAscii_append] at heq
  have htake := congrArg (List.take n) heq
  rw [List.take_append_of_le_length hs, List.take_append_of_le_length ht] at htake
  exact h htake

/-- Space, tab, line feed, form feed and carriage return. -/
def isAsciiWhitespace (b : UInt8) : Bool :=
  b = 0x20 || b = 0x09 || b = 0x0A || b = 0x0C || b = 0x0D

def trimAscii (raw : Bytes) : Bytes :=
  ((raw.dropWhile isAsciiWhitespace).reverse.dropWhile isAsciiWhitespace).reverse

def stripPrefix (p raw : Bytes) : Option Bytes :=
  if p.isPrefixOf raw then some (raw.drop p.length) else none

/-- The end of the first window of the bytes that is equal to `p`. -/
def windowEnd (p : Bytes) : Bytes → Option Nat
  | [] => none
  | b :: bs =>
    if p.isPrefixOf (b :: bs) then some p.length else (windowEnd p bs).map (· + 1)

/-! ## Lossy decoding -/

/-- The bits of a first byte, the number of bytes that follow it and the range of
the one right after it. -/
structure LeadByte where
  bits : Nat
  following : Nat
  lo : Nat
  hi : Nat

def leadByte? (b : Nat) : Option LeadByte :=
  if 0xC2 ≤ b ∧ b ≤ 0xDF then some ⟨b % 32, 1, 0x80, 0xBF⟩
  else if b = 0xE0 then some ⟨b % 16, 2, 0xA0, 0xBF⟩
  else if b = 0xED then some ⟨b % 16, 2, 0x80, 0x9F⟩
  else if 0xE1 ≤ b ∧ b ≤ 0xEF then some ⟨b % 16, 2, 0x80, 0xBF⟩
  else if b = 0xF0 then some ⟨b % 8, 3, 0x90, 0xBF⟩
  else if 0xF1 ≤ b ∧ b ≤ 0xF3 then some ⟨b % 8, 3, 0x80, 0xBF⟩
  else if b = 0xF4 then some ⟨b % 8, 3, 0x80, 0x8F⟩
  else none

def replacement : Nat := 0xFFFD

/-- Reads the continuation bytes of a scalar value and gives what is left. -/
def continuation (bits : Nat) : Nat → Bytes → Nat × Bytes
  | 0, bs => (bits, bs)
  | _ + 1, [] => (replacement, [])
  | n + 1, b :: bs =>
    if 0x80 ≤ b.toNat ∧ b.toNat ≤ 0xBF then
      continuation (bits * 64 + b.toNat % 64) n bs
    else (replacement, b :: bs)

def scalar (b : UInt8) (bs : Bytes) : Nat × Bytes :=
  if b.toNat < 0x80 then (b.toNat, bs)
  else
    match leadByte? b.toNat, bs with
    | none, bs => (replacement, bs)
    | some _, [] => (replacement, [])
    | some lead, c :: cs =>
      if lead.lo ≤ c.toNat ∧ c.toNat ≤ lead.hi then
        continuation (lead.bits * 64 + c.toNat % 64) (lead.following - 1) cs
      else (replacement, c :: cs)

/-- Decodes at most `fuel` scalar values. -/
def decodeLossy : (fuel : Nat) → Bytes → List Char
  | 0, _ => []
  | _ + 1, [] => []
  | fuel + 1, b :: bs =>
    let (code, rest) := scalar b bs
    Char.ofNat code :: decodeLossy fuel rest

/-- Every scalar value takes at least one byte. -/
def fromUtf8Lossy (bs : Bytes) : String := String.ofList (decodeLossy bs.length bs)

example : fromUtf8Lossy [0x61, 0xC3, 0xA9, 0xE2, 0x82, 0x62] = "aé\uFFFDb" := by decide

/-- The text that the bytes encode, if there is one. -/
def fromUtf8 (bs : Bytes) : Option String :=
  let s := fromUtf8Lossy bs
  if s.toUTF8.toList = bs then some s else none

example : fromUtf8 [0x61, 0xC3, 0xA9, 0xE2, 0x82, 0x62] = none := by decide +kernel

/-! ## Hexadecimal texts -/

/-- Two lower-case hexadecimal digits for each byte. -/
def hexEncode (bs : Bytes) : String :=
  String.ofList (bs.flatMap fun b => [Nat.digitChar (b.toNat / 16), Nat.digitChar (b.toNat % 16)])

theorem digitChar_mem {n : Nat} (h : n < 16) : Nat.digitChar n ∈ "0123456789abcdef".toList :=
  (by decide : ∀ n < 16, Nat.digitChar n ∈ "0123456789abcdef".toList) n h

theorem digitChar_inj {m n : Nat} (hm : m < 16) (hn : n < 16)
    (h : Nat.digitChar m = Nat.digitChar n) : m = n :=
  (by decide : ∀ m < 16, ∀ n < 16, Nat.digitChar m = Nat.digitChar n → m = n) m hm n hn h

theorem mem_hexEncode {bs : Bytes} {c : Char} (h : c ∈ (hexEncode bs).toList) :
    c ∈ "0123456789abcdef".toList := by
  rw [hexEncode, String.toList_ofList, List.mem_flatMap] at h
  obtain ⟨b, -, hc⟩ := h
  have hb := b.toNat_lt
  simp only [List.mem_cons, List.not_mem_nil, or_false] at hc
  obtain rfl | rfl := hc
  · exact digitChar_mem (by omega)
  · exact digitChar_mem (by omega)

theorem hexEncode_inj {bs cs : Bytes} (h : hexEncode bs = hexEncode cs) : bs = cs := by
  rw [hexEncode, hexEncode, String.ofList_inj] at h
  induction bs generalizing cs with
  | nil =>
      cases cs with
      | nil => rfl
      | cons c cs => simp at h
  | cons b bs ih =>
      cases cs with
      | nil => simp at h
      | cons c cs =>
          simp only [List.flatMap_cons, List.cons_append, List.nil_append, List.cons.injEq] at h
          have hb := b.toNat_lt
          have hc := c.toNat_lt
          have hhigh := digitChar_inj (by omega) (by omega) h.1
          have hlow := digitChar_inj (by omega) (by omega) h.2.1
          rw [ih h.2.2, UInt8.toNat_inj.1 (show b.toNat = c.toNat by omega)]
end Bytes
