import QuizOverrides.Proofs.Decimals
import QuizOverrides.Number.Whole

set_option autoImplicit false

/-!
# Rounding and order

Rounding to 53 significant bits never turns the order of two numbers around. What a clock or a
setting says after rounding is therefore larger only if it was larger before.

## Main results

* `QuizOverrides.Number.nearest_mono` — rounding of natural numbers keeps their order.
* `QuizOverrides.Whole.lt_of_less_ofInt` — so does rounding of integers.
-/

namespace QuizOverrides

namespace Number

/-- A number of at least 53 bits has that many. -/
lemma le_log2_of_large {n : Nat} (h : 2 ^ 53 ≤ n) : n ≠ 0 ∧ 53 ≤ n.log2 := by
  have hn : n ≠ 0 := by
    intro hzero
    rw [hzero] at h
    exact absurd h (by decide)
  exact ⟨hn, (Nat.le_log2 hn).mpr h⟩

namespace Ratio

/-- A quotient is rounded to its whole part or to the number after it. -/
lemma round_bounds (x : Ratio) : x.num / x.den ≤ x.round ∧ x.round ≤ x.num / x.den + 1 := by
  unfold round
  dsimp only
  split_ifs <;> omega

/-- **Rounding keeps the order** of quotients with the same divisor. -/
lemma round_mono {m n : Nat} (h : m ≤ n) (d : Nat) :
    (⟨m, d⟩ : Ratio).round ≤ (⟨n, d⟩ : Ratio).round := by
  have hm := (round_bounds ⟨m, d⟩).2
  have hn := (round_bounds ⟨n, d⟩).1
  dsimp only at hm hn
  rcases Nat.lt_or_eq_of_le (Nat.div_le_div_right (c := d) h) with hlt | heq
  · omega
  · -- with the same whole part the larger number has the larger rest
    have hrest : m % d ≤ n % d := by
      have hdm := Nat.div_add_mod m d
      have hdn := Nat.div_add_mod n d
      rw [heq] at hdm
      omega
    unfold round
    dsimp only
    rw [heq]
    split_ifs with hup hup' hup' <;>
      simp only [Bool.or_eq_true, Bool.and_eq_true, decide_eq_true_eq, beq_iff_eq] at hup hup' <;>
      omega

/-- The last bit of a number of at least 53 bits. -/
lemma lastBit_ofNat_large {n : Nat} (h : 2 ^ 53 ≤ n) :
    (ofNat n).lastBit = ((n.log2 - 52 : Nat) : Int) := by
  obtain ⟨hn, hlog⟩ := le_log2_of_large h
  have hguess : ((ofNat n).num.log2 : Int) - (ofNat n).den.log2 - 52 =
      ((n.log2 - 52 : Nat) : Int) := by
    show (n.log2 : Int) - ((1 : Nat).log2 : Int) - 52 = _
    rw [show (1 : Nat).log2 = 0 by decide]
    omega
  have hlarge : ¬n / (1 * 2 ^ (n.log2 - 52)) < Nat.pow 2 52 := by
    rw [Nat.one_mul, Nat.not_lt, Nat.le_div_iff_mul_le (Nat.two_pow_pos _)]
    have hself := Nat.log2_self_le hn
    rwa [show n.log2 = 52 + (n.log2 - 52) by omega, Nat.pow_add] at hself
  unfold lastBit
  dsimp only
  rw [hguess, unscale_natCast]
  unfold floor
  rw [show (ofNat n).num = n from rfl, show (ofNat n).den = 1 from rfl, if_neg hlarge]
  omega

end Ratio

/-- A number of at least 53 bits is rounded to a multiple of a power of two. -/
lemma nearest_large {n : Nat} (h : 2 ^ 53 ≤ n) :
    nearest n = (⟨n, 2 ^ (n.log2 - 52)⟩ : Ratio).round * 2 ^ (n.log2 - 52) := by
  unfold nearest
  rw [if_neg (show ¬n < Nat.pow 2 53 from Nat.not_lt.mpr h)]
  unfold Ratio.nearest
  dsimp only
  rw [Ratio.lastBit_ofNat_large h, Ratio.unscale_natCast, Ratio.scale_natCast]
  show (⟨n, 1 * 2 ^ (n.log2 - 52)⟩ : Ratio).round * 2 ^ (n.log2 - 52) = _
  rw [Nat.one_mul]

/-- **Rounding stays between powers of two.** -/
lemma nearest_bounds {n : Nat} (h : 2 ^ 53 ≤ n) :
    2 ^ n.log2 ≤ nearest n ∧ nearest n ≤ 2 ^ (n.log2 + 1) := by
  obtain ⟨hn, hlog⟩ := le_log2_of_large h
  obtain ⟨hlow, hhigh⟩ := Ratio.round_bounds ⟨n, 2 ^ (n.log2 - 52)⟩
  dsimp only at hlow hhigh
  have hdiv : 2 ^ 52 ≤ n / 2 ^ (n.log2 - 52) := by
    rw [Nat.le_div_iff_mul_le (Nat.two_pow_pos _), ← Nat.pow_add,
      show 52 + (n.log2 - 52) = n.log2 by omega]
    exact Nat.log2_self_le hn
  have hdiv' : n / 2 ^ (n.log2 - 52) < 2 ^ 53 := by
    rw [Nat.div_lt_iff_lt_mul (Nat.two_pow_pos _), ← Nat.pow_add,
      show 53 + (n.log2 - 52) = n.log2 + 1 by omega]
    exact Nat.lt_log2_self
  rw [nearest_large h]
  constructor
  · calc 2 ^ n.log2 = 2 ^ 52 * 2 ^ (n.log2 - 52) := by
          rw [← Nat.pow_add, show 52 + (n.log2 - 52) = n.log2 by omega]
      _ ≤ _ := Nat.mul_le_mul_right _ (Nat.le_trans hdiv hlow)
  · calc (⟨n, 2 ^ (n.log2 - 52)⟩ : Ratio).round * 2 ^ (n.log2 - 52)
        ≤ 2 ^ 53 * 2 ^ (n.log2 - 52) := Nat.mul_le_mul_right _ (Nat.le_trans hhigh hdiv')
      _ = 2 ^ (n.log2 + 1) := by
          rw [← Nat.pow_add, show 53 + (n.log2 - 52) = n.log2 + 1 by omega]

/-- **Rounding keeps the order** of natural numbers. -/
theorem nearest_mono {m n : Nat} (h : m ≤ n) : nearest m ≤ nearest n := by
  by_cases hm : m < 2 ^ 53
  · have hmself : nearest m = m := if_pos hm
    by_cases hn : n < 2 ^ 53
    · have hnself : nearest n = n := if_pos hn
      omega
    · have hn := Nat.not_lt.mp hn
      have hpow : 2 ^ 53 ≤ 2 ^ n.log2 :=
        Nat.pow_le_pow_right (by decide) (le_log2_of_large hn).2
      have hlow := (nearest_bounds hn).1
      omega
  · have hm := Nat.not_lt.mp hm
    have hn := Nat.le_trans hm h
    have hle : m.log2 ≤ n.log2 :=
      (Nat.le_log2 (le_log2_of_large hn).1).mpr
        (Nat.le_trans (Nat.log2_self_le (le_log2_of_large hm).1) h)
    rcases Nat.lt_or_eq_of_le hle with hlt | heq
    · calc nearest m ≤ 2 ^ (m.log2 + 1) := (nearest_bounds hm).2
        _ ≤ 2 ^ n.log2 := Nat.pow_le_pow_right (by decide) hlt
        _ ≤ nearest n := (nearest_bounds hn).1
    · rw [nearest_large hm, nearest_large hn, heq]
      exact Nat.mul_le_mul_right _ (Ratio.round_mono h _)

end Number

namespace Whole

/-- **What is smaller after rounding was smaller before.** -/
theorem lt_of_less_ofInt {a b : Int} (h : (ofInt a).less (ofInt b) = true) : a < b := by
  refine Int.not_le.mp fun hle => ?_
  unfold ofInt at h
  dsimp only at h
  -- the sizes of numbers on the same side of zero are rounded in their order
  have hpos : 0 ≤ b → Number.nearest b.natAbs ≤ Number.nearest a.natAbs := by
    intro hb
    apply Number.nearest_mono
    omega
  have hneg : a < 0 → Number.nearest a.natAbs ≤ Number.nearest b.natAbs := by
    intro ha
    apply Number.nearest_mono
    omega
  split_ifs at h <;> simp [less] at h <;> omega

end Whole

end QuizOverrides
