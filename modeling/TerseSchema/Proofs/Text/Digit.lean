import TerseSchema.Text.Basic
import TerseSchema.Text.Digit
import TerseSchema.Text.Quoted
import Mathlib.Tactic.Common
import Mathlib.Tactic.Linarith
import Mathlib.Tactic.Ring
/-!
# Digits

The decimal digits of a number denote that number. Digits are read up to the
first character that is none.
-/

namespace TerseSchema.Text

/-- What is said of the characters in a list is decided by going through the list, never
through all characters. -/
instance (priority := high) decidableForallMem {p : Char → Prop} [DecidablePred p]
    (cs : List Char) :
    Decidable (∀ c, c ∈ cs → p c) :=
  List.decidableBAll p cs

/-! ## Values -/

theorem ofDigits_eq (digits : List Char) : ofDigits digits = Nat.ofDigitChars 10 digits 0 := by
  rw [Nat.ofDigitChars_eq_foldl]
  rfl

theorem ofDigits_append (digits more : List Char) :
    ofDigits (digits ++ more) = ofDigits digits * 10 ^ more.length + ofDigits more := by
  rw [ofDigits_eq, ofDigits_eq, ofDigits_eq, Nat.ofDigitChars_append,
    Nat.ofDigitChars_eq_ofDigitChars_zero, Nat.mul_comm]

@[simp] theorem ofDigits_replicate_zero (n : Nat) : ofDigits (List.replicate n '0') = 0 := by
  rw [ofDigits_eq, Nat.ofDigitChars_replicate_zero, Nat.mul_zero]

@[simp] theorem ofDigits_toDigits (n : Nat) : ofDigits (Nat.toDigits 10 n) = n := by
  rw [ofDigits_eq, Nat.ofDigitChars_ten_toDigits]

/-! ## Digits of a number -/

theorem isDigit_of_mem_toDigits {n : Nat} {c : Char} (h : c ∈ Nat.toDigits 10 n) :
    isDigit c = true :=
  Nat.isDigit_of_mem_toDigits (by decide) (by decide) h

theorem toDigits_of_lt {n : Nat} (h : n < 10) : Nat.toDigits 10 n = [Nat.digitChar n] :=
  Nat.toDigits_of_lt_base h

/-- The digits of a number do not start with zero, unless the number is zero. -/
theorem head?_toDigits_ne_zero {n : Nat} (h : n ≠ 0) : (Nat.toDigits 10 n).head? ≠ some '0' := by
  induction n using Nat.strongRecOn with
  | ind n ih =>
      by_cases hsmall : n < 10
      · rw [toDigits_of_lt hsmall]
        simpa using h
      · have hhead := ih (n / 10) (by omega) (by omega)
        obtain ⟨c, rest, hcons⟩ := List.exists_cons_of_ne_nil (@Nat.toDigits_ne_nil (n / 10) 10)
        rw [Nat.toDigits_of_base_le (by decide) (Nat.not_lt.mp hsmall), hcons]
        rwa [hcons] at hhead

theorem lt_pow_length_toDigits (n : Nat) : n < 10 ^ (Nat.toDigits 10 n).length :=
  (Nat.length_toDigits_le_iff (by decide) Nat.length_toDigits_pos).mp (Nat.le_refl _)

theorem length_toDigits_le {n k : Nat} (hk : 0 < k) (h : n < Nat.pow 10 k) :
    (Nat.toDigits 10 n).length ≤ k :=
  (Nat.length_toDigits_le_iff (by decide) hk).mpr h

theorem pow_length_toDigits_le {n : Nat} (h : n ≠ 0) :
    10 ^ ((Nat.toDigits 10 n).length - 1) ≤ n := by
  by_contra hlt
  rw [Nat.not_le] at hlt
  rcases Nat.eq_zero_or_pos ((Nat.toDigits 10 n).length - 1) with hzero | hpos
  · rw [hzero] at hlt
    omega
  · have hle := (Nat.length_toDigits_le_iff (by decide) hpos).mpr hlt
    omega

/-! ## Reading digits -/

def NotNext (p : Char → Bool) (rest : Text) : Prop :=
  ∀ c, rest.head? = some (.char c) → p c = false

theorem NotNext.mono {p q : Char → Bool} {rest : Text} (h : NotNext q rest)
    (hpq : ∀ c, p c → q c) : NotNext p rest := by
  intro c hc
  have hq := h c hc
  rw [Bool.eq_false_iff] at hq ⊢
  exact mt (hpq c) hq

theorem spanChars_append {p : Char → Bool} {cs : List Char} {rest : Text}
    (hcs : ∀ c ∈ cs, p c = true) (hrest : NotNext p rest) :
    spanChars p (cs.map .char ++ rest) = (cs, rest) := by
  induction cs with
  | nil =>
      cases rest with
      | nil => rfl
      | cons a rest =>
          cases a with
          | char c => simp [spanChars, hrest c rfl]
          | surrogate offset => rfl
  | cons c cs ih =>
      rw [List.forall_mem_cons] at hcs
      simp [spanChars, hcs.1, ih hcs.2]

/-! ## Hexadecimal digits -/

theorem length_hex (width n : Nat) : (hex width n).length = width := by
  induction width generalizing n with
  | zero => rfl
  | succ width ih => rw [hex, List.length_append, ih, List.length_singleton]

theorem hexValue?_digitChar {d : Nat} (h : d < 16) : hexValue? (Nat.digitChar d) = some d :=
  (by decide : ∀ d : Fin 16, hexValue? (Nat.digitChar d) = some d.val) ⟨d, h⟩

/-- Written digits continue the number before them, and further digits go on from there. -/
theorem hexNumber?_hex (width count n before : Nat) (rest : List Char) :
    hexNumber? (width + count) before (hex width n ++ rest) =
      hexNumber? count (before * 16 ^ width + n % 16 ^ width) rest := by
  induction width generalizing n count rest with
  | zero => simp [hex, Nat.mod_one]
  | succ width ih =>
      have hvalue : 16 * (before * 16 ^ width + n / 16 % 16 ^ width) + n % 16 =
          before * 16 ^ (width + 1) + n % 16 ^ (width + 1) := by
        rw [Nat.pow_succ', Nat.mod_mul]
        ring
      rw [hex, List.append_assoc, Nat.add_assoc, Nat.add_comm 1 count, ih, List.singleton_append,
        hexNumber?, hexValue?_digitChar (Nat.mod_lt n (by decide))]
      exact congrArg (hexNumber? count · rest) hvalue

end TerseSchema.Text
