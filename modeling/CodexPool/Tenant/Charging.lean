import CodexPool.Lib.Rounding
import CodexPool.Tenant.Pricing

/-!
# What tokens cost

The cost of a request is the sum of the charges of its uncached input, its cached input and its
output. Each of them is rounded by itself and cut off at the greatest 64-bit integer.
-/

namespace CodexPool

open Saturating

def i64Max : Int := 9223372036854775807

/-- The price of tokens before rounding. What is negative counts as zero. -/
def exactCharge (tokens price : Int) : ℚ := ((max tokens 0 * max price 0 : Int) : ℚ) / 1000000

/-- The parts of a cost before rounding. No more input is cached than there is. -/
def exactCharges (inputTokens cachedInputTokens outputTokens : I64)
    (pricing : TokenPriceMicrousd) : List ℚ :=
  let input := max inputTokens.val 0
  let cached := min (max cachedInputTokens.val 0) input
  [exactCharge (input - cached) pricing.inputPriceMicrousd.val,
    exactCharge cached pricing.cachedInputPriceMicrousd.val,
    exactCharge outputTokens.val pricing.outputPriceMicrousd.val]

/-- The cost when every part is rounded by itself. -/
def roundedCost (inputTokens cachedInputTokens outputTokens : I64)
    (pricing : TokenPriceMicrousd) : Int :=
  ((exactCharges inputTokens cachedInputTokens outputTokens pricing).map round).sum

/-! ## One charge -/

theorem exactCharge_nonneg (tokens price : Int) : 0 ≤ exactCharge tokens price := by
  have hprod : 0 ≤ max tokens 0 * max price 0 :=
    mul_nonneg (le_max_right _ _) (le_max_right _ _)
  exact div_nonneg (by exact_mod_cast hprod) (by norm_num)

theorem exactCharge_mono {tokens tokens' price price' : Int} (ht : tokens ≤ tokens')
    (hp : price ≤ price') : exactCharge tokens price ≤ exactCharge tokens' price' := by
  have hprod : max tokens 0 * max price 0 ≤ max tokens' 0 * max price' 0 :=
    mul_le_mul (max_le_max_right 0 ht) (max_le_max_right 0 hp) (le_max_right _ _)
      (le_max_right _ _)
  exact div_le_div_of_nonneg_right (by exact_mod_cast hprod) (by norm_num)

theorem round_exactCharge (tokens price : Int) :
    round (exactCharge tokens price) = (max tokens 0 * max price 0 + 500000) / 1000000 := by
  have hround := Rounding.round_div (max tokens 0 * max price 0)
    (show 0 < 500000 by norm_num) (show 1000000 = 2 * 500000 by norm_num)
  rw [exactCharge]
  push_cast at hround ⊢
  exact hround

/-- The numerator of a charge fits in 128 bits. -/
theorem numerator_val (tokens price : I64) :
    (((max tokens 0).toI128.satMul (max price 0).toI128).satAdd
      (I64.toI128 (I64.ofInt (pricePerMillionTokensScale / 2)))).val =
        max tokens.val 0 * max price.val 0 + 500000 := by
  have ht : (max tokens 0).toI128.val = max tokens.val 0 := by
    rw [I64.toI128, Bounded.val_max, I64.val_zero]
  have hp : (max price 0).toI128.val = max price.val 0 := by
    rw [I64.toI128, Bounded.val_max, I64.val_zero]
  have hprod : 0 ≤ max tokens.val 0 * max price.val 0 :=
    mul_nonneg (le_max_right _ _) (le_max_right _ _)
  have hbound : max tokens.val 0 * max price.val 0 ≤ i64Max * i64Max :=
    mul_le_mul (max_le tokens.le_hi (by decide)) (max_le price.le_hi (by decide))
      (le_max_right _ _) (by decide)
  have hmul : ((max tokens 0).toI128.satMul (max price 0).toI128).val =
      max tokens.val 0 * max price.val 0 := by
    change clamp _ _ ((max tokens 0).toI128.val * (max price 0).toI128.val) = _
    rw [ht, hp, clamp_of_mem]
    · exact le_trans (by decide) hprod
    · exact le_trans hbound (by decide)
  have hhalf : (I64.toI128 (I64.ofInt (pricePerMillionTokensScale / 2))).val = 500000 := by decide
  rw [Bounded.val_satAdd, hmul, hhalf, clamp_of_mem]
  · exact le_trans (by decide) (add_le_add_left hprod 500000)
  · exact le_trans (add_le_add_left hbound 500000) (by decide)

/-- A charge is the exact one rounded half up, unless that is no 64-bit integer. -/
theorem chargeTokens_val (tokens price : I64) :
    (chargeTokensByPerMillionPrice tokens price).val =
      min i64Max (round (exactCharge tokens.val price.val)) := by
  have hround := round_exactCharge tokens.val price.val
  simp only [chargeTokensByPerMillionPrice]
  split
  next hzero =>
    have hprod : max tokens.val 0 * max price.val 0 = 0 := by
      rw [I64.toI128, I64.toI128, Bounded.val_max, Bounded.val_max, I64.val_zero] at hzero
      exact mul_eq_zero.2 hzero
    rw [hround, hprod, I64.val_zero]
    decide
  next =>
    have hnonneg : 0 ≤ round (exactCharge tokens.val price.val) :=
      Rounding.round_nonneg (exactCharge_nonneg _ _)
    rw [numerator_val, pricePerMillionTokensScale, ← hround,
      I64.val_ofInt_of_mem (le_trans (by decide) (le_clamp 0 _ _)) (clamp_le (by decide) _)]
    rw [clamp, max_eq_right (le_min (by decide) hnonneg)]
    rfl

/-! ## The sum -/

theorem satAdd_val_of_nonneg {a b : I64} (ha : 0 ≤ a.val) (hb : 0 ≤ b.val) :
    (a.satAdd b).val = min i64Max (a.val + b.val) := by
  rw [Bounded.val_satAdd, clamp, i64Max]
  omega

theorem normalizedCached_val (inputTokens cachedInputTokens : I64) :
    (min (max cachedInputTokens 0) (max inputTokens 0)).val =
      min (max cachedInputTokens.val 0) (max inputTokens.val 0) := by
  have hval : (max cachedInputTokens 0).val = max cachedInputTokens.val 0 := Bounded.val_max _ _
  have hval' : (max inputTokens 0).val = max inputTokens.val 0 := Bounded.val_max _ _
  rw [← hval, ← hval']
  rcases le_total (max cachedInputTokens 0) (max inputTokens 0) with h | h
  · rw [min_eq_left h, min_eq_left ((Bounded.le_iff_val _ _).1 h)]
  · rw [min_eq_right h, min_eq_right ((Bounded.le_iff_val _ _).1 h)]

theorem billableInput_val (inputTokens cachedInputTokens : I64) :
    ((max inputTokens 0).satSub (min (max cachedInputTokens 0) (max inputTokens 0))).val =
      max inputTokens.val 0 - min (max cachedInputTokens.val 0) (max inputTokens.val 0) := by
  have hinput : (max inputTokens 0).val = max inputTokens.val 0 := Bounded.val_max _ _
  rw [I64.val_satSub_of_nonneg, normalizedCached_val, hinput]
  · rw [hinput]
    omega
  · rw [normalizedCached_val]
    omega

/-- The cost is the sum of the rounded parts, unless that is no 64-bit integer. -/
theorem calculateEstimatedCost_val (inputTokens cachedInputTokens outputTokens : I64)
    (pricing : TokenPriceMicrousd) :
    (calculateEstimatedCostMicrousd inputTokens cachedInputTokens outputTokens pricing).val =
      min i64Max (roundedCost inputTokens cachedInputTokens outputTokens pricing) := by
  have houtput (price : Int) :
      exactCharge (max outputTokens 0).val price = exactCharge outputTokens.val price := by
    rw [exactCharge, exactCharge, Bounded.val_max, I64.val_zero, max_assoc, max_self]
  have hnonneg (tokens price : Int) : 0 ≤ round (exactCharge tokens price) :=
    Rounding.round_nonneg (exactCharge_nonneg tokens price)
  rw [calculateEstimatedCostMicrousd]
  rw [satAdd_val_of_nonneg, satAdd_val_of_nonneg]
  · simp only [chargeTokens_val, normalizedCached_val, billableInput_val, houtput]
    simp only [roundedCost, exactCharges, List.map_cons, List.map_nil, List.sum_cons,
      List.sum_nil]
    have h1 := hnonneg (max inputTokens.val 0 -
      min (max cachedInputTokens.val 0) (max inputTokens.val 0)) pricing.inputPriceMicrousd.val
    have h2 := hnonneg (min (max cachedInputTokens.val 0) (max inputTokens.val 0))
      pricing.cachedInputPriceMicrousd.val
    have h3 := hnonneg outputTokens.val pricing.outputPriceMicrousd.val
    rw [i64Max]
    omega
  · exact chargeTokensByPerMillionPrice_nonneg _ _
  · exact chargeTokensByPerMillionPrice_nonneg _ _
  · exact I64.val_satAdd_nonneg (chargeTokensByPerMillionPrice_nonneg _ _)
      (chargeTokensByPerMillionPrice_nonneg _ _)
  · exact chargeTokensByPerMillionPrice_nonneg _ _

/-! ## Order and error -/

section Order

variable {i i' c c' o o' : I64} {pricing pricing' : TokenPriceMicrousd}

/-- Prices of which none is above its counterpart. -/
structure TokenPriceMicrousd.Le (pricing pricing' : TokenPriceMicrousd) : Prop where
  input : pricing.inputPriceMicrousd ≤ pricing'.inputPriceMicrousd
  cached : pricing.cachedInputPriceMicrousd ≤ pricing'.cachedInputPriceMicrousd
  output : pricing.outputPriceMicrousd ≤ pricing'.outputPriceMicrousd

theorem roundedCost_eq (i c o : I64) (pricing : TokenPriceMicrousd) :
    roundedCost i c o pricing =
      round (exactCharge (max i.val 0 - min (max c.val 0) (max i.val 0))
          pricing.inputPriceMicrousd.val) +
        (round (exactCharge (min (max c.val 0) (max i.val 0))
            pricing.cachedInputPriceMicrousd.val) +
          round (exactCharge o.val pricing.outputPriceMicrousd.val)) := by
  simp only [roundedCost, exactCharges, List.map_cons, List.map_nil, List.sum_cons, List.sum_nil,
    add_zero]

theorem roundedCost_mono (hi : i ≤ i') (ho : o ≤ o') (hp : pricing.Le pricing') :
    roundedCost i c o pricing ≤ roundedCost i' c o' pricing' := by
  rw [Bounded.le_iff_val] at hi ho
  have hpi := (Bounded.le_iff_val _ _).1 hp.input
  have hpc := (Bounded.le_iff_val _ _).1 hp.cached
  have hpo := (Bounded.le_iff_val _ _).1 hp.output
  rw [roundedCost_eq, roundedCost_eq]
  refine add_le_add ?_ (add_le_add ?_ ?_)
  · apply Rounding.round_mono
    exact exactCharge_mono (by omega) hpi
  · apply Rounding.round_mono
    exact exactCharge_mono (by omega) hpc
  · apply Rounding.round_mono
    exact exactCharge_mono ho hpo

theorem exactCharge_add {tokens tokens' : Int} (h : 0 ≤ tokens) (h' : 0 ≤ tokens') (price : Int) :
    exactCharge (tokens + tokens') price =
      exactCharge tokens price + exactCharge tokens' price := by
  rw [exactCharge, exactCharge, exactCharge, max_eq_left h, max_eq_left h',
    max_eq_left (add_nonneg h h')]
  push_cast
  ring

/-- More cached input among the same input, at a price that is not above the one of the other. -/
theorem roundedCost_cached_le (hc : c ≤ c')
    (hp : pricing.cachedInputPriceMicrousd ≤ pricing.inputPriceMicrousd) :
    roundedCost i c' o pricing ≤ roundedCost i c o pricing + 1 := by
  rw [Bounded.le_iff_val] at hc hp
  rw [roundedCost_eq, roundedCost_eq]
  generalize hn : max i.val 0 = n
  generalize hk : min (max c.val 0) n = k
  generalize hk' : min (max c'.val 0) n = k'
  have hkk' : k' = k + (k' - k) := by omega
  have hnk : n - k = n - k' + (k' - k) := by omega
  have hmoved := Rounding.round_add_round_le
    (x := exactCharge (n - k') pricing.inputPriceMicrousd.val)
    (y := exactCharge k pricing.cachedInputPriceMicrousd.val)
    (exactCharge_mono (le_refl (k' - k)) hp)
  rw [← exactCharge_add (by omega) (by omega), ← exactCharge_add (by omega) (by omega), ← hnk,
    ← hkk'] at hmoved
  omega

end Order

/-- The costs and their parts, for all counts and prices. The numerator of a charge is exact. A
charge and a cost are their exact values with each part rounded half up, unless that is no 64-bit
integer; they are never negative. A cost grows with the input, the output and the prices. It is
off by three halves at most where it is not cut off. It rises by one at most when input turns into
cached input that is no dearer. -/
theorem charging_arithmetic :
    (∀ tokens price : I64,
      (((max tokens 0).toI128.satMul (max price 0).toI128).satAdd
        (I64.toI128 (I64.ofInt (pricePerMillionTokensScale / 2)))).val =
          max tokens.val 0 * max price.val 0 + 500000 ∧
      (chargeTokensByPerMillionPrice tokens price).val =
        min i64Max (round (exactCharge tokens.val price.val)) ∧
      0 ≤ (chargeTokensByPerMillionPrice tokens price).val) ∧
    (∀ tokens tokens' price price' : I64, tokens ≤ tokens' → price ≤ price' →
      chargeTokensByPerMillionPrice tokens price ≤ chargeTokensByPerMillionPrice tokens' price') ∧
    (∀ i c o pricing,
      (calculateEstimatedCostMicrousd i c o pricing).val =
        min i64Max (roundedCost i c o pricing) ∧
      0 ≤ (calculateEstimatedCostMicrousd i c o pricing).val ∧
      (roundedCost i c o pricing ≤ i64Max →
        |((calculateEstimatedCostMicrousd i c o pricing).val : ℚ) -
          (exactCharges i c o pricing).sum| ≤ 3 / 2)) ∧
    (∀ (i i' c o o' : I64) pricing pricing', i ≤ i' → o ≤ o' → pricing.Le pricing' →
      calculateEstimatedCostMicrousd i c o pricing ≤
        calculateEstimatedCostMicrousd i' c o' pricing') ∧
    (∀ (i c c' o : I64) pricing, c ≤ c' →
      pricing.cachedInputPriceMicrousd ≤ pricing.inputPriceMicrousd →
      (calculateEstimatedCostMicrousd i c' o pricing).val ≤
        (calculateEstimatedCostMicrousd i c o pricing).val + 1) := by
  refine ⟨?_, ?_, ?_, ?_, ?_⟩
  · intro tokens price
    exact ⟨numerator_val tokens price, chargeTokens_val tokens price,
      chargeTokensByPerMillionPrice_nonneg tokens price⟩
  · intro tokens tokens' price price' ht hp
    rw [Bounded.le_iff_val, chargeTokens_val, chargeTokens_val]
    exact min_le_min_left i64Max (Rounding.round_mono (exactCharge_mono ht hp))
  · intro i c o pricing
    refine ⟨calculateEstimatedCost_val i c o pricing,
      calculateEstimatedCostMicrousd_nonneg i c o pricing, fun hle => ?_⟩
    have herror := Rounding.abs_sum_round_sub_le (exactCharges i c o pricing)
    rw [calculateEstimatedCost_val, min_eq_right hle, roundedCost]
    exact le_trans herror (by norm_num [exactCharges])
  · intro i i' c o o' pricing pricing' hi ho hp
    rw [Bounded.le_iff_val, calculateEstimatedCost_val, calculateEstimatedCost_val]
    exact min_le_min_left i64Max (roundedCost_mono hi ho hp)
  · intro i c c' o pricing hc hp
    have hle := roundedCost_cached_le (i := i) (o := o) hc hp
    rw [calculateEstimatedCost_val, calculateEstimatedCost_val]
    omega

end CodexPool
