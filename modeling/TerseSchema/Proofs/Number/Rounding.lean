import TerseSchema.Number.Binary64
import Mathlib.Algebra.Order.Field.Power
import Mathlib.Algebra.Order.Ring.Rat
import Mathlib.Data.Rat.Cast.Order
import Mathlib.Tactic.FieldSimp
import Mathlib.Tactic.Linarith
import Mathlib.Tactic.NormNum
import Mathlib.Tactic.Positivity
import Mathlib.Tactic.Ring
/-!
# Rounding to binary floating point

A fraction is rounded by its value alone, however it is written; and a fraction that is a number
of the format is rounded to that number.
-/

namespace TerseSchema.Binary64

/-! ## Fractions -/

theorem roundDiv_congr {n d n' d' : Nat} (hd : 0 < d) (hd' : 0 < d') (h : n * d' = n' * d) :
    roundDiv n d = roundDiv n' d' := by
  have hq : n / d = n' / d' := by
    rw [← Nat.mul_div_mul_right n d hd', h, Nat.mul_comm d d', Nat.mul_div_mul_right n' d' hd]
  have hr : n % d * d' = n' % d' * d := by
    have hn := Nat.div_add_mod n d
    have hn' := Nat.div_add_mod n' d'
    have hscaled : (d * (n / d) + n % d) * d' = (d' * (n' / d') + n' % d') * d := by
      rw [hn, hn', h]
    rw [hq] at hscaled
    linarith
  have hlt : 2 * (n % d) < d ↔ 2 * (n' % d') < d' := by
    constructor
    · intro hlow
      by_contra hnot
      nlinarith
    · intro hlow
      by_contra hnot
      nlinarith
  have hgt : d < 2 * (n % d) ↔ d' < 2 * (n' % d') := by
    constructor
    · intro hhigh
      by_contra hnot
      nlinarith
    · intro hhigh
      by_contra hnot
      nlinarith
  simp only [roundDiv, hq, hlt, hgt]

theorem roundDiv_mul {m d : Nat} (hd : 0 < d) : roundDiv (m * d) d = m := by
  simp [roundDiv, Nat.mul_div_cancel _ hd, hd]

theorem unscale_pos {den : Nat} (num : Nat) (hden : 0 < den) (e : Int) :
    0 < (unscale num den e).2 := by
  cases e with
  | ofNat k => exact Nat.mul_pos hden (Nat.pow_pos (by decide))
  | negSucc k => exact hden

/-- Scaling down divides the value of a fraction by a power of two. -/
theorem unscale_ratio {num den : Nat} (e : Int) :
    ((unscale num den e).1 : ℚ) / (unscale num den e).2 = num / den / 2 ^ e := by
  cases e with
  | ofNat k =>
      simp only [unscale, Nat.pow_eq, Nat.cast_mul, Nat.cast_pow, Nat.cast_ofNat,
        Int.ofNat_eq_natCast, zpow_natCast]
      rw [div_div]
  | negSucc k =>
      simp only [unscale, Nat.pow_eq, Nat.cast_mul, Nat.cast_pow, Nat.cast_ofNat,
        zpow_negSucc, div_inv_eq_mul]
      ring

theorem cross_mul_of_ratio {n d n' d' : Nat} (hd : 0 < d) (hd' : 0 < d')
    (h : (n : ℚ) / d = n' / d') : n * d' = n' * d := by
  have hdq : (d : ℚ) ≠ 0 := by positivity
  have hdq' : (d' : ℚ) ≠ 0 := by positivity
  rw [div_eq_div_iff hdq hdq'] at h
  exact_mod_cast h

/-! ## The leading exponent -/

theorem log2_bounds {n : Nat} (hn : 0 < n) :
    (2 : ℚ) ^ (n.log2 : Int) ≤ n ∧ (n : ℚ) < 2 ^ ((n.log2 : Int) + 1) := by
  have hlow : 2 ^ n.log2 ≤ n := Nat.log2_self_le (by omega)
  have hhigh : n < 2 ^ (n.log2 + 1) := Nat.lt_log2_self
  constructor
  · rw [zpow_natCast]
    exact_mod_cast hlow
  · rw [← Nat.cast_succ, zpow_natCast]
    exact_mod_cast hhigh

theorem leadingExponent_bounds {num den : Nat} (hnum : 0 < num) (hden : 0 < den) :
    (2 : ℚ) ^ (leadingExponent num den + 52) ≤ num / den ∧
      (num : ℚ) / den < 2 ^ (leadingExponent num den + 53) := by
  obtain ⟨hn, hn'⟩ := log2_bounds hnum
  obtain ⟨hd, hd'⟩ := log2_bounds hden
  have hdenq : (0 : ℚ) < den := by positivity
  -- The quotient of the leading powers of two is off by less than a factor of two.
  set guess : Int := (num.log2 : Int) - den.log2 - 52 with hguess
  have hlow : (2 : ℚ) ^ (guess + 51) < num / den := by
    rw [lt_div_iff₀ hdenq]
    calc (2 : ℚ) ^ (guess + 51) * den
      _ < 2 ^ (guess + 51) * 2 ^ ((den.log2 : Int) + 1) := by gcongr
      _ = 2 ^ (num.log2 : Int) := by
          rw [← zpow_add₀ (by norm_num)]
          congr 1
          omega
      _ ≤ num := hn
  have hhigh : (num : ℚ) / den < 2 ^ (guess + 53) := by
    rw [div_lt_iff₀ hdenq]
    calc (num : ℚ)
      _ < 2 ^ ((num.log2 : Int) + 1) := hn'
      _ = 2 ^ (guess + 53) * 2 ^ (den.log2 : Int) := by
          rw [← zpow_add₀ (by norm_num)]
          congr 1
          omega
      _ ≤ 2 ^ (guess + 53) * den := by gcongr
  have hpos := unscale_pos num hden guess
  have htest : (unscale num den guess).1 < (unscale num den guess).2 * Nat.pow 2 52 ↔
      (num : ℚ) / den < 2 ^ (guess + 52) := by
    have hratio := @unscale_ratio num den guess
    have hposq : (0 : ℚ) < (unscale num den guess).2 := by positivity
    have hscale : (0 : ℚ) < 2 ^ guess := by positivity
    have hcast : (unscale num den guess).1 < (unscale num den guess).2 * Nat.pow 2 52 ↔
        ((unscale num den guess).1 : ℚ) < (unscale num den guess).2 * 2 ^ 52 := by
      rw [Nat.pow_eq]
      exact_mod_cast Iff.rfl
    rw [hcast, ← div_lt_iff₀' hposq, hratio, div_lt_iff₀ hscale,
      zpow_add₀ (by norm_num), mul_comm]
    norm_num
  rw [leadingExponent]
  simp only [← hguess]
  split
  · next hless =>
      have hquotient := htest.mp hless
      constructor
      · rw [show guess - 1 + 52 = guess + 51 by ring]
        exact hlow.le
      · rwa [show guess - 1 + 53 = guess + 52 by ring]
  · next hless => exact ⟨le_of_not_gt fun hlt => hless (htest.mpr hlt), hhigh⟩

theorem exponent_le_of_bounds {q : ℚ} {e f : Int} (he : (2 : ℚ) ^ (e + 52) ≤ q)
    (hf : q < 2 ^ (f + 53)) : e ≤ f := by
  have hlt := (zpow_lt_zpow_iff_right₀ (by norm_num : (1 : ℚ) < 2)).mp (lt_of_le_of_lt he hf)
  omega

theorem leadingExponent_congr {num den num' den' : Nat} (hnum : 0 < num) (hden : 0 < den)
    (hnum' : 0 < num') (hden' : 0 < den') (h : (num : ℚ) / den = num' / den') :
    leadingExponent num den = leadingExponent num' den' := by
  obtain ⟨hlow, hhigh⟩ := leadingExponent_bounds hnum hden
  obtain ⟨hlow', hhigh'⟩ := leadingExponent_bounds hnum' hden'
  rw [h] at hlow hhigh
  exact le_antisymm (exponent_le_of_bounds hlow hhigh') (exponent_le_of_bounds hlow' hhigh)

/-! ## Rounding -/

theorem ofRatio_eq_ofRounded {negative : Bool} {num den : Nat} (hnum : num ≠ 0) :
    ofRatio negative num den =
      ofRounded negative (roundDiv
        (unscale num den (max (leadingExponent num den) leastExponent)).1
        (unscale num den (max (leadingExponent num den) leastExponent)).2)
        (max (leadingExponent num den) leastExponent) := by
  rw [ofRatio, if_neg hnum]

theorem ofRatio_congr {negative : Bool} {num den num' den' : Nat} (hden : 0 < den)
    (hden' : 0 < den') (h : (num : ℚ) / den = num' / den') :
    ofRatio negative num den = ofRatio negative num' den' := by
  have hcross := cross_mul_of_ratio hden hden' h
  by_cases hnum : num = 0
  · have hnum' : num' = 0 := by
      subst hnum
      rw [Nat.zero_mul] at hcross
      exact (Nat.mul_eq_zero.mp hcross.symm).resolve_right hden.ne'
    rw [ofRatio, ofRatio, if_pos hnum, if_pos hnum']
  · have hnum' : num' ≠ 0 := by
      rintro rfl
      rw [Nat.zero_mul] at hcross
      exact hnum ((Nat.mul_eq_zero.mp hcross).resolve_right hden'.ne')
    rw [ofRatio_eq_ofRounded hnum, ofRatio_eq_ofRounded hnum',
      leadingExponent_congr (Nat.pos_of_ne_zero hnum) hden (Nat.pos_of_ne_zero hnum') hden' h]
    set e := max (leadingExponent num' den') leastExponent
    have hpos := unscale_pos num hden e
    have hpos' := unscale_pos num' hden' e
    have hratio : ((unscale num den e).1 : ℚ) / (unscale num den e).2 =
        (unscale num' den' e).1 / (unscale num' den' e).2 := by
      rw [unscale_ratio, unscale_ratio, h]
    rw [roundDiv_congr hpos hpos' (cross_mul_of_ratio hpos hpos' hratio)]

/-- A fraction that is a number of the format is rounded to that number. -/
theorem ofRatio_eq_finite {negative : Bool} {num den m : Nat} {e : Int} (hden : 0 < den)
    (h : IsCanonical m e) (hm : m ≠ 0) (hratio : (num : ℚ) / den = m * 2 ^ e) :
    ofRatio negative num den = .finite negative m e h := by
  obtain ⟨hless, hleast, hgreatest, hnormal⟩ := id h
  rw [Nat.pow_eq] at hless hnormal
  have hmq : (0 : ℚ) < m := by
    have := Nat.pos_of_ne_zero hm
    positivity
  have hnum : 0 < num := by
    rcases Nat.eq_zero_or_pos num with rfl | hpos
    · rw [Nat.cast_zero, zero_div] at hratio
      have : (0 : ℚ) < m * 2 ^ e := by positivity
      rw [← hratio] at this
      exact absurd this (lt_irrefl _)
    · exact hpos
  obtain ⟨hlow, hhigh⟩ := leadingExponent_bounds hnum hden
  have hupper : (num : ℚ) / den < 2 ^ (e + 53) := by
    rw [hratio, zpow_add₀ (by norm_num), mul_comm]
    gcongr
    exact_mod_cast hless
  have hexponent : max (leadingExponent num den) leastExponent = e := by
    have hle := exponent_le_of_bounds hlow hupper
    rcases hnormal with hnormal | rfl
    · have hlower : (2 : ℚ) ^ (e + 52) ≤ num / den := by
        rw [hratio, zpow_add₀ (by norm_num), mul_comm]
        gcongr
        exact_mod_cast hnormal
      have hge := exponent_le_of_bounds hlower hhigh
      omega
    · omega
  have hpos := unscale_pos num hden e
  have hmul : (unscale num den e).1 = m * (unscale num den e).2 := by
    have hunscaled := @unscale_ratio num den e
    have hscale : (2 : ℚ) ^ e ≠ 0 := by positivity
    rw [hratio, mul_div_cancel_right₀ _ hscale, div_eq_iff (by positivity)] at hunscaled
    exact_mod_cast hunscaled
  have hne : m ≠ Nat.pow 2 53 := by
    rw [Nat.pow_eq]
    omega
  rw [ofRatio_eq_ofRounded hnum.ne', hexponent, hmul, roundDiv_mul hpos, ofRounded]
  simp only [if_neg hne]
  rw [dif_pos h]

end TerseSchema.Binary64
