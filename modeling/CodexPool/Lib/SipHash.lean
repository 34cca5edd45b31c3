import CodexPool.Lib.Bytes

/-!
# SipHash

The keyed hash of a byte string into 64 bits. A word of eight bytes is taken in by `c` rounds
of the four words of the state, and `d` rounds end it. Two byte strings with the same hash are
found after about as many trials as a 32-bit word has values, since the key is no secret where
it is a constant.
-/

namespace SipHash

structure SipState where
  v0 : UInt64
  v1 : UInt64
  v2 : UInt64
  v3 : UInt64

def rotl (x b : UInt64) : UInt64 := x <<< b ||| x >>> (64 - b)

def sipRound (s : SipState) : SipState :=
  let v0 := s.v0 + s.v1
  let v1 := rotl s.v1 13 ^^^ v0
  let v0 := rotl v0 32
  let v2 := s.v2 + s.v3
  let v3 := rotl s.v3 16 ^^^ v2
  let v0 := v0 + v3
  let v3 := rotl v3 21 ^^^ v0
  let v2 := v2 + v1
  let v1 := rotl v1 17 ^^^ v2
  ⟨v0, v1, rotl v2 32, v3⟩

def rounds : Nat → SipState → SipState
  | 0, s => s
  | n + 1, s => rounds n (sipRound s)

def init (k0 k1 : UInt64) : SipState :=
  ⟨k0 ^^^ 0x736f6d6570736575, k1 ^^^ 0x646f72616e646f6d, k0 ^^^ 0x6c7967656e657261,
    k1 ^^^ 0x7465646279746573⟩

/-- The word of at most eight bytes, the first one in the lowest place. -/
def leWord : Bytes → UInt64
  | [] => 0
  | b :: bs => b.toUInt64 ||| leWord bs <<< 8

/-- One word is mixed in. -/
def compress (c : Nat) (s : SipState) (m : UInt64) : SipState :=
  let s := rounds c { s with v3 := s.v3 ^^^ m }
  { s with v0 := s.v0 ^^^ m }

/-- The words of a byte string, and the bytes that fill none. -/
def absorb (c : Nat) : SipState → Bytes → SipState × Bytes
  | s, b0 :: b1 :: b2 :: b3 :: b4 :: b5 :: b6 :: b7 :: bs =>
    absorb c (compress c s (leWord [b0, b1, b2, b3, b4, b5, b6, b7])) bs
  | s, tail => (s, tail)

def finish (c d : Nat) (length : Nat) (s : SipState) (tail : Bytes) : UInt64 :=
  let s := compress c s (UInt64.ofNat length <<< 56 ||| leWord tail)
  let s := rounds d { s with v2 := s.v2 ^^^ 0xff }
  s.v0 ^^^ s.v1 ^^^ s.v2 ^^^ s.v3

/-- SipHash-`c`-`d` of a byte string under the key of the words `k0` and `k1`. -/
def sipHash (c d : Nat) (k0 k1 : UInt64) (bs : Bytes) : UInt64 :=
  let (s, tail) := absorb c (init k0 k1) bs
  finish c d bs.length s tail

example : sipHash 2 4 0x0706050403020100 0x0f0e0d0c0b0a0908 ((List.range 15).map UInt8.ofNat) =
    0xa129ca6149be45e5 := by decide +kernel

end SipHash
