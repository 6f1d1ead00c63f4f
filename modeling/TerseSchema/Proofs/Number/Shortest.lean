import TerseSchema.Number.Shortest
import TerseSchema.Proofs.Number.Rounding
import TerseSchema.Proofs.Text.Digit
/-!
# Shortest decimals read back

A decimal is read by its value alone, and a decimal that is a number of the binary format is read
as that number. So the shortest decimal of a number reads back as the number, whether or not one
was found among the short ones.
-/

namespace TerseSchema

def Decimal.value (d : Decimal) : ℚ := d.digits * 10 ^ d.exponent

namespace Binary64

/-! ## Reading decimals -/

def decimalFraction (digits : Nat) : Int → Nat × Nat
  | .ofNat k => (digits * Nat.pow 10 k, 1)
  | .negSucc k => (digits, Nat.pow 10 (k + 1))

theorem decimalFraction_pos (digits : Nat) (e : Int) : 0 < (decimalFraction digits e).2 := by
  cases e with
  | ofNat k => exact Nat.one_pos
  | negSucc k => exact Nat.pow_pos (by decide)

theorem decimalFraction_ratio (digits : Nat) (e : Int) :
    ((decimalFraction digits e).1 : ℚ) / (decimalFraction digits e).2 = digits * 10 ^ e := by
  cases e with
  | ofNat k => simp [decimalFraction]
  | negSucc k => simp [decimalFraction, zpow_negSucc, div_eq_mul_inv]

/-- The place behind the first digit of a decimal. -/
def decimalTop (digits : Nat) (e : Int) : Int := (Nat.toDigits 10 digits).length + e

theorem ofDecimal_eq {negative : Bool} {digits : Nat} {e : Int} (h : digits ≠ 0) :
    ofDecimal negative digits e =
      if 320 < decimalTop digits e then .infinity negative
      else if decimalTop digits e < -330 then zero negative
      else ofRatio negative (decimalFraction digits e).1 (decimalFraction digits e).2 := by
  rw [ofDecimal.eq_def, if_neg h, decimalTop]
  cases e <;> rfl

theorem ofDecimal_zero (negative : Bool) (e : Int) : ofDecimal negative 0 e = zero negative := by
  rw [ofDecimal.eq_def, if_pos rfl]

theorem decimalTop_bounds {digits : Nat} (e : Int) (h : digits ≠ 0) :
    (10 : ℚ) ^ (decimalTop digits e - 1) ≤ digits * 10 ^ e ∧
      (digits : ℚ) * 10 ^ e < 10 ^ decimalTop digits e := by
  have hlow := Text.pow_length_toDigits_le h
  have hhigh := Text.lt_pow_length_toDigits digits
  have hlength : 0 < (Nat.toDigits 10 digits).length := Nat.length_toDigits_pos
  have hten : (10 : ℚ) ≠ 0 := by norm_num
  constructor
  · have hexponent :
        decimalTop digits e - 1 = (((Nat.toDigits 10 digits).length - 1 : Nat) : Int) + e := by
      rw [decimalTop]
      omega
    rw [hexponent, zpow_add₀ hten, zpow_natCast]
    gcongr
    exact_mod_cast hlow
  · rw [decimalTop, zpow_add₀ hten, zpow_natCast]
    gcongr
    exact_mod_cast hhigh

theorem decimalTop_congr {digits digits' : Nat} {e e' : Int} (h : digits ≠ 0) (h' : digits' ≠ 0)
    (hvalue : (digits : ℚ) * 10 ^ e = digits' * 10 ^ e') :
    decimalTop digits e = decimalTop digits' e' := by
  obtain ⟨hlow, hhigh⟩ := decimalTop_bounds e h
  obtain ⟨hlow', hhigh'⟩ := decimalTop_bounds e' h'
  rw [hvalue] at hlow hhigh
  have hlt :=
    (zpow_lt_zpow_iff_right₀ (by norm_num : (1 : ℚ) < 10)).mp (lt_of_le_of_lt hlow hhigh')
  have hlt' :=
    (zpow_lt_zpow_iff_right₀ (by norm_num : (1 : ℚ) < 10)).mp (lt_of_le_of_lt hlow' hhigh)
  omega

/-- Decimals of one value are read as one number. -/
theorem ofDecimal_congr {negative : Bool} {digits digits' : Nat} {e e' : Int}
    (hvalue : (digits : ℚ) * 10 ^ e = digits' * 10 ^ e') :
    ofDecimal negative digits e = ofDecimal negative digits' e' := by
  have hpow : ∀ k : Int, (10 : ℚ) ^ k ≠ 0 := fun k => zpow_ne_zero k (by norm_num)
  have hzero : digits = 0 ↔ digits' = 0 := by
    rw [← @Nat.cast_eq_zero ℚ _ _ digits, ← @Nat.cast_eq_zero ℚ _ _ digits']
    constructor
    · intro h
      rw [h, zero_mul] at hvalue
      exact (mul_eq_zero.mp hvalue.symm).resolve_right (hpow e')
    · intro h
      rw [h, zero_mul] at hvalue
      exact (mul_eq_zero.mp hvalue).resolve_right (hpow e)
  by_cases h : digits = 0
  · rw [h, hzero.mp h, ofDecimal_zero, ofDecimal_zero]
  · have h' : digits' ≠ 0 := fun h' => h (hzero.mpr h')
    have hratio := (decimalFraction_ratio digits e).trans
      (hvalue.trans (decimalFraction_ratio digits' e').symm)
    rw [ofDecimal_eq h, ofDecimal_eq h', decimalTop_congr h h' hvalue,
      ofRatio_congr (decimalFraction_pos digits e) (decimalFraction_pos digits' e') hratio]

theorem ofRounded_eq_finite {negative sign : Bool} {n m : Nat} {f e : Int} {h : IsCanonical m e}
    (hfinite : ofRounded false n f = .finite sign m e h) :
    ofRounded negative n f = .finite negative m e h := by
  simp only [ofRounded] at hfinite ⊢
  generalize (if n = Nat.pow 2 53 then Nat.pow 2 52 else n) = significand at hfinite ⊢
  generalize (if n = Nat.pow 2 53 then f + 1 else f) = exponent at hfinite ⊢
  by_cases hcanonical : IsCanonical significand exponent
  · rw [dif_pos hcanonical] at hfinite ⊢
    cases hfinite
    rfl
  · rw [dif_neg hcanonical] at hfinite
    cases hfinite

/-- The sign of a decimal is that of the number it is read as. -/
theorem ofDecimal_eq_finite_of_false {negative sign : Bool} {digits m : Nat} {f e : Int}
    {h : IsCanonical m e} (hfinite : ofDecimal false digits f = .finite sign m e h) :
    ofDecimal negative digits f = .finite negative m e h := by
  have hzero : zero false = .finite sign m e h → zero negative = .finite negative m e h := by
    intro hz
    cases hz
    rfl
  by_cases hdigits : digits = 0
  · rw [hdigits, ofDecimal_zero] at hfinite ⊢
    exact hzero hfinite
  · rw [ofDecimal_eq hdigits] at hfinite ⊢
    split at hfinite
    · cases hfinite
    · split at hfinite
      · next htop hbottom =>
          rw [if_neg htop, if_pos hbottom]
          exact hzero hfinite
      · next htop hbottom =>
          rw [if_neg htop, if_neg hbottom]
          rw [ofRatio] at hfinite ⊢
          split at hfinite
          · next hnum =>
              rw [if_pos hnum]
              exact hzero hfinite
          · next hnum =>
              rw [if_neg hnum]
              exact ofRounded_eq_finite hfinite

/-- A decimal that is a number of the format is read as that number. -/
theorem ofDecimal_eq_finite {negative : Bool} {digits m : Nat} {f e : Int} (h : IsCanonical m e)
    (hm : m ≠ 0) (hvalue : (digits : ℚ) * 10 ^ f = m * 2 ^ e) :
    ofDecimal negative digits f = .finite negative m e h := by
  obtain ⟨hless, hleast, hgreatest, -⟩ := id h
  rw [Nat.pow_eq] at hless
  have hmq : (1 : ℚ) ≤ m := by
    exact_mod_cast Nat.one_le_iff_ne_zero.mpr hm
  have hdigits : digits ≠ 0 := by
    rintro rfl
    rw [Nat.cast_zero, zero_mul] at hvalue
    have hpos : (0 : ℚ) < m * 2 ^ e := by positivity
    rw [← hvalue] at hpos
    exact lt_irrefl _ hpos
  obtain ⟨hlow, hhigh⟩ := decimalTop_bounds f hdigits
  rw [hvalue] at hlow hhigh
  -- The numbers of the format lie between 2 ^ -1074 and 2 ^ 1024.
  have hlargest : (m : ℚ) * 2 ^ e < 10 ^ (309 : Int) := by
    calc (m : ℚ) * 2 ^ e
      _ < 2 ^ 53 * 2 ^ e := by
          gcongr
          exact_mod_cast hless
      _ ≤ 2 ^ 53 * 2 ^ (971 : Int) := by
          gcongr
          · norm_num
          · exact hgreatest
      _ < 10 ^ (309 : Int) := by
          have hpow : 2 ^ 53 * 2 ^ 971 < 10 ^ 309 := by decide +kernel
          exact_mod_cast hpow
  have hsmallest : (10 : ℚ) ^ (-324 : Int) < m * 2 ^ e := by
    calc (10 : ℚ) ^ (-324 : Int)
      _ < 2 ^ (-1074 : Int) := by
          have hpow : 2 ^ 1074 < 10 ^ 324 := by decide +kernel
          rw [zpow_neg, zpow_neg]
          refine inv_strictAnti₀ (by positivity) ?_
          exact_mod_cast hpow
      _ ≤ 2 ^ e := by
          gcongr
          · norm_num
          · exact hleast
      _ ≤ m * 2 ^ e := le_mul_of_one_le_left (by positivity) hmq
  have htop :=
    (zpow_lt_zpow_iff_right₀ (by norm_num : (1 : ℚ) < 10)).mp (lt_of_le_of_lt hlow hlargest)
  have hbottom :=
    (zpow_lt_zpow_iff_right₀ (by norm_num : (1 : ℚ) < 10)).mp (hsmallest.trans hhigh)
  rw [ofDecimal_eq hdigits, if_neg (by omega), if_neg (by omega)]
  exact ofRatio_eq_finite (decimalFraction_pos digits f) h hm
    ((decimalFraction_ratio digits f).trans hvalue)

end Binary64

/-! ## Shortest decimals -/

namespace Decimal

theorem value_trim (d : Decimal) (fuel : Nat) : (d.trim fuel).value = d.value := by
  induction fuel generalizing d with
  | zero => rfl
  | succ fuel ih =>
      rw [trim]
      split
      · next hten =>
          have hdigits : d.digits = 10 * (d.digits / 10) := by omega
          rw [ih, value, value, zpow_add_one₀ (by norm_num)]
          conv_rhs => rw [hdigits]
          push_cast
          ring
      · rfl

theorem value_exact (m : Nat) (e : Int) : (exact m e).value = m * 2 ^ e := by
  cases e with
  | ofNat k => simp [exact, value]
  | negSucc k =>
      have hten : (10 : ℚ) ^ (k + 1) = 2 ^ (k + 1) * 5 ^ (k + 1) := by
        rw [← mul_pow]
        norm_num
      have hexponent : (-((k : Int) + 1)) = Int.negSucc k := rfl
      simp only [exact, value, hexponent, zpow_negSucc, hten, Nat.pow_eq]
      push_cast
      field_simp

theorem readsBack_iff {m : Nat} {e unit : Int} {digits : Nat} (h : Binary64.IsCanonical m e) :
    readsBack m e unit digits = true ↔
      ∃ sign, Binary64.ofDecimal false digits unit = .finite sign m e h := by
  rw [readsBack]
  split
  · next sign n f hn heq =>
      simp only [Bool.and_eq_true, beq_iff_eq, heq, Binary64.finite.injEq]
      constructor
      · rintro ⟨rfl, rfl⟩
        exact ⟨sign, rfl, rfl, rfl⟩
      · rintro ⟨-, -, rfl, rfl⟩
        exact ⟨rfl, rfl⟩
  · next hnone =>
      simp only [Bool.false_eq_true, false_iff, not_exists]
      exact fun sign heq => hnone sign m e h heq

theorem readsBack_of_ofWidth? {m width : Nat} {e : Int} {d : Decimal}
    (hd : ofWidth? m e width = some d) : readsBack m e d.exponent d.digits = true := by
  rw [ofWidth?] at hd
  obtain ⟨digits, hfind, rfl⟩ := Option.map_eq_some_iff.mp hd
  exact List.find?_some hfind

/-- The shortest decimal of a number reads back as the number. -/
theorem ofDecimal_shortest {negative : Bool} {m : Nat} {e : Int} (h : Binary64.IsCanonical m e) :
    Binary64.ofDecimal negative (shortest m e).digits (shortest m e).exponent =
      .finite negative m e h := by
  rw [shortest]
  split
  · next hzero =>
      subst hzero
      obtain rfl : e = Binary64.leastExponent := by
        obtain ⟨-, -, -, hnormal⟩ := h
        exact hnormal.resolve_left (by simp)
      rfl
  · next hm =>
      split
      · next d hd =>
          obtain ⟨width, -, hwidth⟩ := List.exists_of_findSome?_eq_some hd
          obtain ⟨sign, hread⟩ := (readsBack_iff h).mp (readsBack_of_ofWidth? hwidth)
          have hvalue : ((d.trim 17).digits : ℚ) * 10 ^ (d.trim 17).exponent =
              d.digits * 10 ^ d.exponent := value_trim d 17
          rw [Binary64.ofDecimal_congr hvalue]
          exact Binary64.ofDecimal_eq_finite_of_false hread
      · exact Binary64.ofDecimal_eq_finite h hm (value_exact m e)

end Decimal
end TerseSchema
