import Mathlib.Data.List.DropRight

/-!
# String operations of the source language

The operations on strings that the program takes from its standard library,
with the library's own conventions: `trim` removes the Unicode white space at
both ends, `toAsciiLowercase` changes the ASCII letters only. It moves no white space, and is
done once and for all.
-/

namespace Text

/-- The characters of the Unicode property `White_Space`. -/
def isWhitespace (c : Char) : Bool :=
  let n := c.toNat
  (9 ≤ n && n ≤ 13) || n == 0x20 || n == 0x85 || n == 0xA0 || n == 0x1680 ||
    (0x2000 ≤ n && n ≤ 0x200A) || n == 0x2028 || n == 0x2029 || n == 0x202F ||
    n == 0x205F || n == 0x3000

def trim (s : String) : String :=
  String.ofList
    ((s.toList.dropWhile isWhitespace).reverse.dropWhile isWhitespace).reverse

def trimStart (s : String) : String := String.ofList (s.toList.dropWhile isWhitespace)

def toAsciiLowercase (s : String) : String :=
  String.ofList (s.toList.map fun c =>
    if 'A' ≤ c ∧ c ≤ 'Z' then Char.ofNat (c.toNat + 32) else c)

def startsWith (s p : String) : Bool := p.toList.isPrefixOf s.toList

def stripPrefix (s p : String) : Option String :=
  if startsWith s p then some (String.ofList (s.toList.drop p.length)) else none

/-- The string without its last character, when that is `c`. -/
def stripSuffix (s : String) (c : Char) : Option String :=
  match s.toList.reverse with
  | [] => none
  | d :: cs => if d = c then some (String.ofList cs.reverse) else none

def contains (s t : String) : Bool := s.toList.tails.any t.toList.isPrefixOf

/-- The pieces between line feeds without the carriage return before a line feed; what
follows the last line feed is a line when it is not empty. -/
def linesOf : List (List Char) → List (List Char)
  | [] => []
  | [last] => if last.isEmpty then [] else [last]
  | line :: rest => (if line.getLast? = some '\r' then line.dropLast else line) :: linesOf rest

def lines (s : String) : List String := (linesOf (s.toList.splitOn '\n')).map String.ofList

example : lines "data: 1\r\n\ndata: 2\r" = ["data: 1", "", "data: 2\r"] := by decide

theorem toList_trim (s : String) : (trim s).toList =
    ((s.toList.dropWhile isWhitespace).reverse.dropWhile isWhitespace).reverse :=
  String.toList_ofList

theorem toList_toAsciiLowercase (s : String) : (toAsciiLowercase s).toList =
    s.toList.map fun c => if 'A' ≤ c ∧ c ≤ 'Z' then Char.ofNat (c.toNat + 32) else c :=
  String.toList_ofList

theorem toList_trim_eq_rdropWhile (s : String) :
    (trim s).toList = (s.toList.dropWhile isWhitespace).rdropWhile isWhitespace :=
  toList_trim s

theorem trim_trim (s : String) : trim (trim s) = trim s := by
  apply String.toList_injective
  have hhead : (trim s).toList.dropWhile isWhitespace = (trim s).toList := by
    rw [toList_trim_eq_rdropWhile]
    apply List.dropWhile_eq_self_iff.2
    intro hl
    have htrimmed := List.rdropWhile_prefix isWhitespace (l := s.toList.dropWhile isWhitespace)
    rw [htrimmed.getElem hl]
    exact List.dropWhile_get_zero_not _ _ (hl.trans_le htrimmed.length_le)
  rw [toList_trim_eq_rdropWhile, hhead, toList_trim_eq_rdropWhile, List.rdropWhile_idempotent]

/-- The trimmed text of an optional string, when something is left of it. -/
def trimmed? (s : Option String) : Option String :=
  (s.map trim).filter (· ≠ "")

theorem trimmed?_eq_some_iff {s : Option String} {text : String} :
    trimmed? s = some text ↔ ∃ raw, s = some raw ∧ trim raw = text ∧ text ≠ "" := by
  unfold trimmed?
  rw [Option.filter_eq_some_iff, Option.map_eq_some_iff]
  simp only [decide_eq_true_eq]
  constructor
  · rintro ⟨⟨raw, hraw, htrim⟩, hne⟩
    exact ⟨raw, hraw, htrim, hne⟩
  · rintro ⟨raw, hraw, htrim, hne⟩
    exact ⟨⟨raw, hraw, htrim⟩, hne⟩

theorem trimmed?_trimmed? {s : Option String} {text : String} (h : trimmed? s = some text) :
    trimmed? (some text) = some text := by
  obtain ⟨raw, -, rfl, hne⟩ := trimmed?_eq_some_iff.1 h
  exact trimmed?_eq_some_iff.2 ⟨_, rfl, trim_trim raw, hne⟩

example : trim " gpt-5.4\n" = "gpt-5.4" := by decide

example : contains "billing: insufficient credits" "insufficient credits" = true := by
  decide

/-! ## Lower case -/

/-- A letter in lower case, among ASCII letters. -/
def lowerChar (c : Char) : Char := if 'A' ≤ c ∧ c ≤ 'Z' then Char.ofNat (c.toNat + 32) else c

theorem toNat_lowerChar {c : Char} (h : 'A' ≤ c ∧ c ≤ 'Z') :
    (lowerChar c).toNat = c.toNat + 32 := by
  have hle : c.toNat ≤ 90 := h.2
  have hvalid : (c.toNat + 32).isValidChar := .inl (by omega)
  rw [lowerChar, if_pos h, Char.ofNat, dif_pos hvalid]
  rfl

theorem isWhitespace_lowerChar (c : Char) :
    isWhitespace (lowerChar c) = isWhitespace c := by
  by_cases h : 'A' ≤ c ∧ c ≤ 'Z'
  · have hlow : 65 ≤ c.toNat := h.1
    have hhigh : c.toNat ≤ 90 := h.2
    rw [isWhitespace, isWhitespace, toNat_lowerChar h]
    rw [Bool.eq_iff_iff]
    simp only [Bool.or_eq_true, Bool.and_eq_true, decide_eq_true_eq, beq_iff_eq]
    omega
  · rw [lowerChar, if_neg h]

theorem lowerChar_lowerChar (c : Char) : lowerChar (lowerChar c) = lowerChar c := by
  by_cases h : 'A' ≤ c ∧ c ≤ 'Z'
  · have hlow : 65 ≤ c.toNat := h.1
    have hnot : ¬ ('A' ≤ lowerChar c ∧ lowerChar c ≤ 'Z') := by
      rintro ⟨-, hle⟩
      have hle : (lowerChar c).toNat ≤ 90 := hle
      rw [toNat_lowerChar h] at hle
      omega
    exact if_neg hnot
  · have hself : lowerChar c = c := if_neg h
    rw [hself, hself]

theorem toList_lowercase (s : String) : (toAsciiLowercase s).toList = s.toList.map lowerChar :=
  toList_toAsciiLowercase s

theorem lowercase_lowercase (s : String) :
    toAsciiLowercase (toAsciiLowercase s) = toAsciiLowercase s := by
  apply String.toList_injective
  rw [toList_lowercase, toList_lowercase, List.map_map]
  exact List.map_congr_left fun c _ => lowerChar_lowerChar c

theorem trim_lowercase (s : String) :
    trim (toAsciiLowercase s) = toAsciiLowercase (trim s) := by
  have hwhite : isWhitespace ∘ lowerChar = isWhitespace :=
    funext isWhitespace_lowerChar
  apply String.toList_injective
  rw [toList_trim, toList_lowercase, toList_lowercase, toList_trim, List.dropWhile_map,
    hwhite, ← List.map_reverse, List.dropWhile_map, hwhite, ← List.map_reverse]

theorem isEmpty_lowercase (s : String) : (toAsciiLowercase s).isEmpty = s.isEmpty := by
  rw [Bool.eq_iff_iff, String.isEmpty_iff, String.isEmpty_iff, ← String.toList_eq_nil_iff,
    ← String.toList_eq_nil_iff, toList_lowercase, List.map_eq_nil_iff]

end Text
