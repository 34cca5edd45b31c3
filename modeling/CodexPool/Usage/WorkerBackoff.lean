import CodexPool.Basic
import Mathlib.Algebra.Order.Ring.Nat
import Mathlib.Data.Nat.Basic

/-!
# The pauses of the usage worker

After an error the worker pauses, longer after each error that follows, up to a maximum. The pause
is spread over a range around its length by a random sample of 32 bits. The arithmetic is that of
64 bits, saturating but for two operations, which panic where they overflow.
-/

namespace CodexPool

def u64Max : Nat := 2 ^ 64 - 1

def u128Max : Nat := 2 ^ 128 - 1

def saturatingMul (limit a b : Nat) : Nat := min (a * b) limit

def saturatingAdd (limit a b : Nat) : Nat := min (a + b) limit

/-- `a - b`, which panics below zero. -/
def plainSub (a b : Nat) : Option Nat := if b ≤ a then some (a - b) else none

/-- `a + b`, which panics above the limit. -/
def plainAdd (limit a b : Nat) : Option Nat := if a + b ≤ limit then some (a + b) else none

/-- `std::time::Duration`, in nanoseconds. -/
abbrev StdDuration := Nat

def StdDuration.fromMillis (millis : Nat) : StdDuration := millis * 1000000

def durationToMillisU64 (value : StdDuration) : Nat := min (value / 1000000) u64Max

/-- The loop over the errors after the first one, which stops at the maximum. -/
def growBackoff (factor maxBackoffMs : Nat) : Nat → Nat → Nat
  | 0, backoffMs => backoffMs
  | errors + 1, backoffMs =>
    let backoffMs := min (saturatingMul u64Max backoffMs factor) maxBackoffMs
    if backoffMs = maxBackoffMs then backoffMs else growBackoff factor maxBackoffMs errors backoffMs

def computeBaseBackoffMs (errorBackoff : StdDuration) (errorBackoffFactor : Nat)
    (errorBackoffMax : StdDuration) (consecutiveErrors : Nat) : Nat :=
  if consecutiveErrors = 0 then 0
  else
    let maxBackoffMs := durationToMillisU64 errorBackoffMax
    if maxBackoffMs = 0 then 0
    else
      growBackoff errorBackoffFactor maxBackoffMs (consecutiveErrors - 1)
        (min (durationToMillisU64 errorBackoff) maxBackoffMs)

def computeJitterBoundsMs (baseBackoffMs maxBackoffMs jitterPct : Nat) : Nat × Nat :=
  let jitterPct := min jitterPct 100
  if jitterPct = 0 then
    let capped := min baseBackoffMs maxBackoffMs
    (capped, capped)
  else
    let minScale := 100 - jitterPct
    let maxScale := saturatingAdd u64Max 100 jitterPct
    (saturatingMul u64Max baseBackoffMs minScale / 100,
      min (saturatingMul u64Max baseBackoffMs maxScale / 100) maxBackoffMs)

def sampleInclusiveRange (minValue maxValue sample : Nat) : Option Nat :=
  if maxValue ≤ minValue then some minValue
  else do
    let width ← plainSub maxValue minValue
    let rangeWidth ← plainAdd u128Max width 1
    let scaled := saturatingMul u128Max sample rangeWidth / 2 ^ 32
    pure (saturatingAdd u64Max minValue (scaled % 2 ^ 64))

/-- The pause, or `none` for a panic. -/
def computeBackoffWithSample (errorBackoff : StdDuration) (errorBackoffFactor : Nat)
    (errorBackoffMax : StdDuration) (errorBackoffJitterPct consecutiveErrors jitterSample : Nat) :
    Option StdDuration :=
  let baseBackoffMs :=
    computeBaseBackoffMs errorBackoff errorBackoffFactor errorBackoffMax consecutiveErrors
  if baseBackoffMs = 0 then some 0
  else
    let bounds := computeJitterBoundsMs baseBackoffMs (durationToMillisU64 errorBackoffMax)
      errorBackoffJitterPct
    (sampleInclusiveRange bounds.1 bounds.2 jitterSample).map StdDuration.fromMillis

/-! ## The base value -/

theorem durationToMillisU64_fromMillis {millis : Nat} (h : millis < 2 ^ 64) :
    durationToMillisU64 (.fromMillis millis) = millis := by
  unfold durationToMillisU64 StdDuration.fromMillis u64Max
  rw [Nat.mul_div_cancel _ (by decide)]
  omega

theorem min_saturatingMul {limit a b cap : Nat} (hcap : cap ≤ limit) :
    min (saturatingMul limit a b) cap = min (a * b) cap := by
  unfold saturatingMul
  rw [min_assoc, min_eq_right hcap]

theorem min_mul_min {a b cap : Nat} (hb : 1 ≤ b) : min (min a cap * b) cap = min (a * b) cap := by
  rcases le_total a cap with hle | hle
  · rw [min_eq_left hle]
  · have hcap : cap ≤ cap * b := Nat.le_mul_of_pos_right cap hb
    rw [min_eq_right hle, min_eq_right hcap,
      min_eq_right (hcap.trans (Nat.mul_le_mul_right b hle))]

theorem growBackoff_eq {factor maxBackoffMs : Nat} (hfactor : 1 ≤ factor)
    (hmax : maxBackoffMs ≤ u64Max) (errors backoffMs : Nat) :
    growBackoff factor maxBackoffMs errors (min backoffMs maxBackoffMs) =
      min (backoffMs * factor ^ errors) maxBackoffMs := by
  induction errors generalizing backoffMs with
  | zero => rw [growBackoff, pow_zero, Nat.mul_one]
  | succ errors ih =>
      have hpow : backoffMs * factor ^ (errors + 1) = backoffMs * factor * factor ^ errors := by
        rw [pow_succ', ← Nat.mul_assoc]
      simp only [growBackoff]
      rw [min_saturatingMul hmax, min_mul_min hfactor, hpow]
      split
      · rename_i hcapped
        -- the loop stops, and another factor would not get below the maximum
        have hle : maxBackoffMs ≤ backoffMs * factor := min_eq_right_iff.1 hcapped
        have hgrown :=
          Nat.le_mul_of_pos_right (backoffMs * factor) (Nat.pow_pos (n := errors) hfactor)
        rw [hcapped, min_eq_right (hle.trans hgrown)]
      · exact ih (backoffMs * factor)

theorem computeBaseBackoffMs_eq {base max factor n : Nat} (hbase : base < 2 ^ 64)
    (hmax : max < 2 ^ 64) (hfactor : 1 ≤ factor) (hn : 1 ≤ n) :
    computeBaseBackoffMs (.fromMillis base) factor (.fromMillis max) n =
      min max (base * factor ^ (n - 1)) := by
  have hlimit : max ≤ u64Max := by
    unfold u64Max
    omega
  unfold computeBaseBackoffMs
  rw [durationToMillisU64_fromMillis hbase, durationToMillisU64_fromMillis hmax,
    if_neg (by omega)]
  dsimp only
  split
  · rename_i hzero
    rw [hzero, Nat.zero_min]
  · rw [growBackoff_eq hfactor hlimit, min_comm]

theorem pow_mono_base {base factor m n : Nat} (hfactor : 1 ≤ factor) (h : m ≤ n) :
    base * factor ^ (m - 1) ≤ base * factor ^ (n - 1) :=
  Nat.mul_le_mul_left base (Nat.pow_le_pow_right hfactor (Nat.sub_le_sub_right h 1))

/-! ## The range of a pause -/

section Bounds

variable {b cap : Nat}

theorem computeJitterBoundsMs_le (hcap : b ≤ cap) (jitter : Nat) :
    (computeJitterBoundsMs b cap jitter).1 ≤ (computeJitterBoundsMs b cap jitter).2 := by
  unfold computeJitterBoundsMs
  dsimp only
  split
  · exact le_refl _
  · rename_i hjitter
    have hscale : b * (100 - min jitter 100) ≤ b * saturatingAdd u64Max 100 (min jitter 100) := by
      apply Nat.mul_le_mul_left
      unfold saturatingAdd u64Max
      omega
    have hsmall : saturatingMul u64Max b (100 - min jitter 100) / 100 ≤ b := by
      apply Nat.div_le_of_le_mul
      unfold saturatingMul
      apply (min_le_left _ _).trans
      rw [Nat.mul_comm]
      exact Nat.mul_le_mul_right b (Nat.sub_le _ _)
    apply le_min
    · apply Nat.div_le_div_right
      exact min_le_min_right u64Max hscale
    · exact hsmall.trans hcap

theorem computeJitterBoundsMs_le_cap (cap jitter : Nat) :
    (computeJitterBoundsMs b cap jitter).2 ≤ cap := by
  unfold computeJitterBoundsMs
  dsimp only
  split
  · exact min_le_right _ _
  · exact min_le_right _ _

/-- Where the products fit in, the range is the one of the percentages. -/
theorem computeJitterBoundsMs_eq (hcap : b ≤ cap) (hfits : b * 200 < 2 ^ 64) (jitter : Nat) :
    computeJitterBoundsMs b cap jitter =
      (b * (100 - min jitter 100) / 100, min cap (b * (100 + min jitter 100) / 100)) := by
  have hbound : ∀ scale ≤ 200, saturatingMul u64Max b scale = b * scale := by
    intro scale hscale
    apply min_eq_left
    have hle := Nat.mul_le_mul_left b hscale
    unfold u64Max
    omega
  have hadd : saturatingAdd u64Max 100 (min jitter 100) = 100 + min jitter 100 := by
    unfold saturatingAdd u64Max
    omega
  unfold computeJitterBoundsMs
  dsimp only
  split
  · rename_i hzero
    rw [hzero, Nat.sub_zero, Nat.add_zero, Nat.mul_div_cancel _ (by decide), min_eq_left hcap,
      min_eq_right hcap]
  · rw [hadd, hbound _ (by omega), hbound _ (by omega), min_comm cap]

end Bounds

/-! ## Samples -/

/-- The value of a range that a sample is scaled to. -/
def scaledSample (lo hi sample : Nat) : Nat := lo + sample * (hi - lo + 1) / 2 ^ 32

section Samples

variable {lo hi sample : Nat}

theorem scaledSample_le (hle : lo ≤ hi) (hsample : sample < 2 ^ 32) :
    scaledSample lo hi sample ≤ hi := by
  have hlt : sample * (hi - lo + 1) < 2 ^ 32 * (hi - lo + 1) :=
    Nat.mul_lt_mul_of_pos_right hsample (Nat.succ_pos _)
  have hdiv : sample * (hi - lo + 1) / 2 ^ 32 < hi - lo + 1 := Nat.div_lt_of_lt_mul hlt
  unfold scaledSample
  omega

theorem le_scaledSample (lo hi sample : Nat) : lo ≤ scaledSample lo hi sample :=
  Nat.le_add_right lo _

theorem scaledSample_mono (lo hi : Nat) {sample sample' : Nat} (h : sample ≤ sample') :
    scaledSample lo hi sample ≤ scaledSample lo hi sample' :=
  Nat.add_le_add_left (Nat.div_le_div_right (Nat.mul_le_mul_right _ h)) lo

theorem scaledSample_zero (lo hi : Nat) : scaledSample lo hi 0 = lo := by
  simp [scaledSample]

/-- The last sample is scaled to the last value, unless there are more values than samples. -/
theorem scaledSample_last (hle : lo ≤ hi) (hwidth : hi - lo + 1 ≤ 2 ^ 32) :
    scaledSample lo hi (2 ^ 32 - 1) = hi := by
  have hdiv : (2 ^ 32 - 1) * (hi - lo + 1) / 2 ^ 32 = hi - lo := by
    apply Nat.div_eq_of_lt_le
    · rw [Nat.sub_mul]
      omega
    · rw [Nat.sub_mul]
      omega
  unfold scaledSample
  rw [hdiv]
  omega

/-- No operation overflows, saturates or cuts bits off. -/
theorem sampleInclusiveRange_eq (hle : lo ≤ hi) (hhi : hi < 2 ^ 64) (hsample : sample < 2 ^ 32) :
    sampleInclusiveRange lo hi sample = some (scaledSample lo hi sample) := by
  have hbound := scaledSample_le hle hsample
  unfold sampleInclusiveRange
  split
  · rename_i hge
    have heq : lo = hi := le_antisymm hle hge
    have hlo := le_scaledSample lo hi sample
    congr 1
    omega
  · rename_i hlt
    have hwidth : plainAdd u128Max (hi - lo) 1 = some (hi - lo + 1) := by
      apply if_pos
      unfold u128Max
      omega
    have hproduct : saturatingMul u128Max sample (hi - lo + 1) = sample * (hi - lo + 1) := by
      apply min_eq_left
      have hle : sample * (hi - lo + 1) ≤ 2 ^ 32 * 2 ^ 64 :=
        Nat.mul_le_mul hsample.le (by omega)
      unfold u128Max
      omega
    unfold scaledSample at hbound ⊢
    simp only [plainSub, if_pos hle, Option.bind_eq_bind, Option.bind_some, hwidth, hproduct,
      Option.pure_def]
    rw [Nat.mod_eq_of_lt (by omega)]
    congr 1
    apply min_eq_left
    unfold u64Max
    omega

end Samples

/-! ## The pause -/

/-- The pause after `n` errors in milliseconds. -/
def backoffMs (base max factor jitter n sample : Nat) : Nat :=
  let bounds := computeJitterBoundsMs (min max (base * factor ^ (n - 1))) max jitter
  scaledSample bounds.1 bounds.2 sample

section Pause

variable {base max factor jitter n : Nat}

theorem computeBackoffWithSample_eq (hbase : base < 2 ^ 64) (hmax : max < 2 ^ 64)
    (hfactor : 1 ≤ factor) (hn : 1 ≤ n) {sample : Nat} (hsample : sample < 2 ^ 32) :
    computeBackoffWithSample (.fromMillis base) factor (.fromMillis max) jitter n sample =
      some (.fromMillis (backoffMs base max factor jitter n sample)) := by
  have hcap : min max (base * factor ^ (n - 1)) ≤ max := min_le_left _ _
  have hbounds := computeJitterBoundsMs_le hcap jitter
  have htop := computeJitterBoundsMs_le_cap (b := min max (base * factor ^ (n - 1))) max jitter
  unfold computeBackoffWithSample backoffMs
  rw [computeBaseBackoffMs_eq hbase hmax hfactor hn, durationToMillisU64_fromMillis hmax]
  dsimp only
  split
  · rename_i hzero
    have hle := scaledSample_le hbounds hsample
    rw [computeJitterBoundsMs_eq hcap (by omega), hzero] at hle ⊢
    have hnone : scaledSample (0 * (100 - min jitter 100) / 100)
        (min max (0 * (100 + min jitter 100) / 100)) sample = 0 := by
      simpa using hle
    rw [hnone]
    rfl
  · rw [sampleInclusiveRange_eq hbounds (htop.trans_lt hmax) hsample]
    rfl

/-- The pauses of the worker: the base value is the capped power, and every sample gives a pause in
the range around it. -/
theorem computeBackoff_spec (base max factor jitter n : Nat) (hbase : base < 2 ^ 64)
    (hmax : max < 2 ^ 64) (hfactor : 1 ≤ factor) (hn : 1 ≤ n) :
    computeBaseBackoffMs (.fromMillis base) factor (.fromMillis max) n =
        min max (base * factor ^ (n - 1)) ∧
      (∀ m, n ≤ m → computeBaseBackoffMs (.fromMillis base) factor (.fromMillis max) n ≤
        computeBaseBackoffMs (.fromMillis base) factor (.fromMillis max) m) ∧
      ∃ pause : Nat → Nat,
        (∀ sample < 2 ^ 32,
          computeBackoffWithSample (.fromMillis base) factor (.fromMillis max) jitter n sample =
              some (.fromMillis (pause sample)) ∧
            pause sample ≤ max ∧
            ∀ b p, b = computeBaseBackoffMs (.fromMillis base) factor (.fromMillis max) n →
              p = min jitter 100 → b * 200 < 2 ^ 64 →
              b * (100 - p) / 100 ≤ pause sample ∧
                pause sample ≤ min max (b * (100 + p) / 100)) ∧
        Monotone pause ∧
        ∀ lo hi, (lo, hi) = computeJitterBoundsMs
            (computeBaseBackoffMs (.fromMillis base) factor (.fromMillis max) n) max jitter →
          pause 0 = lo ∧ (hi - lo + 1 ≤ 2 ^ 32 → pause (2 ^ 32 - 1) = hi) := by
  have hcap : min max (base * factor ^ (n - 1)) ≤ max := min_le_left _ _
  have hbounds := computeJitterBoundsMs_le hcap jitter
  have htop := computeJitterBoundsMs_le_cap (b := min max (base * factor ^ (n - 1))) max jitter
  refine ⟨computeBaseBackoffMs_eq hbase hmax hfactor hn, ?_,
    backoffMs base max factor jitter n, ?_, ?_, ?_⟩
  · intro m hm
    rw [computeBaseBackoffMs_eq hbase hmax hfactor hn,
      computeBaseBackoffMs_eq hbase hmax hfactor (hn.trans hm)]
    exact min_le_min_left max (pow_mono_base hfactor hm)
  · intro sample hsample
    have hpause := scaledSample_le hbounds hsample
    refine ⟨computeBackoffWithSample_eq hbase hmax hfactor hn hsample, hpause.trans htop, ?_⟩
    intro b p hb hp hfits
    rw [computeBaseBackoffMs_eq hbase hmax hfactor hn] at hb
    subst hb hp
    have hrange := computeJitterBoundsMs_eq hcap hfits jitter
    have hlow := le_scaledSample (computeJitterBoundsMs (min max (base * factor ^ (n - 1))) max
      jitter).1 (computeJitterBoundsMs (min max (base * factor ^ (n - 1))) max jitter).2 sample
    unfold backoffMs
    rw [hrange] at hlow hpause ⊢
    exact ⟨hlow, hpause⟩
  · exact fun _ _ h => scaledSample_mono _ _ h
  · intro lo hi hrange
    rw [computeBaseBackoffMs_eq hbase hmax hfactor hn] at hrange
    unfold backoffMs
    rw [← hrange] at hbounds ⊢
    exact ⟨scaledSample_zero lo hi, scaledSample_last hbounds⟩

end Pause

theorem computeBackoff_third_error :
    computeBaseBackoffMs (.fromMillis 1000) 2 (.fromMillis 60000) 3 = 4000 ∧
      ∃ pause : Nat → Nat, pause 0 = 3200 ∧ pause (2 ^ 32 - 1) = 4800 ∧
        ∀ sample < 2 ^ 32,
          computeBackoffWithSample (.fromMillis 1000) 2 (.fromMillis 60000) 20 3 sample =
              some (.fromMillis (pause sample)) ∧
            3200 ≤ pause sample ∧ pause sample ≤ 4800 := by
  obtain ⟨hbase, -, pause, hpause, -, hends⟩ :=
    computeBackoff_spec 1000 60000 2 20 3 (by decide) (by decide) (by decide) (by decide)
  have hfour : computeBaseBackoffMs (.fromMillis 1000) 2 (.fromMillis 60000) 3 = 4000 := hbase
  rw [hfour] at hpause hends
  have hrange := hends 3200 4800 (by decide)
  refine ⟨hfour, pause, hrange.1, hrange.2 (by decide), ?_⟩
  intro sample hsample
  have hsome := hpause sample hsample
  exact ⟨hsome.1, hsome.2.2 4000 20 rfl rfl (by decide)⟩

end CodexPool
