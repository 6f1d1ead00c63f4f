import TerseSchema.Number.Shortest
import TerseSchema.Proofs.Number.Shortest
import TerseSchema.Proofs.Text.Digit
/-!
# Spellings of decimals

The text of a decimal taken apart: digits before the point, digits after it and a power of ten.
Under every layout the parts have the decimal's value, and at least one of the last two is there,
so that no text of a decimal looks like a whole number.
-/

namespace TerseSchema.Decimal

open Text

/-- The parts of a number text without sign. A number without places has no point. -/
structure Spelling where
  whole : List Char
  places : List Char
  /-- The sign and the digits of a power of ten. -/
  power : Option (Bool × List Char)

namespace Spelling

def placesText : List Char → List Char
  | [] => []
  | places => '.' :: places

def powerText : Option (Bool × List Char) → List Char
  | none => []
  | some (negative, digits) => 'e' :: (if negative then '-' else '+') :: digits

def chars (s : Spelling) : List Char := s.whole ++ (placesText s.places ++ powerText s.power)

def powerValue : Option (Bool × List Char) → Int
  | none => 0
  | some (negative, digits) => Binary64.signed negative (ofDigits digits)

def decimal (s : Spelling) : Decimal :=
  ⟨ofDigits (s.whole ++ s.places), powerValue s.power - s.places.length⟩

structure WellFormed (s : Spelling) : Prop where
  whole_ne_nil : s.whole ≠ []
  whole_digits : ∀ c ∈ s.whole, isDigit c = true
  /-- A zero in front stands alone. -/
  whole_head : s.whole = ['0'] ∨ s.whole.head? ≠ some '0'
  places_digits : ∀ c ∈ s.places, isDigit c = true
  power_ne_nil : ∀ p ∈ s.power, p.2 ≠ []
  power_digits : ∀ p ∈ s.power, ∀ c ∈ p.2, isDigit c = true
  not_whole : s.places = [] → s.power ≠ none

end Spelling

def spelling (layout : Layout) (d : Decimal) : Spelling :=
  let digits := Nat.toDigits 10 d.digits
  let place : Int := digits.length + d.exponent
  if layout.pointAfter < place ∧ place ≤ layout.pointUpTo then
    if place ≤ 0 then ⟨['0'], List.replicate (-place).toNat '0' ++ digits, none⟩
    else if digits.length ≤ place then
      ⟨digits ++ List.replicate (place - digits.length).toNat '0', ['0'], none⟩
    else ⟨digits.take place.toNat, digits.drop place.toNat, none⟩
  else
    let powerDigits := Nat.toDigits 10 (place - 1).natAbs
    ⟨digits.take 1, digits.drop 1, some (decide (place - 1 < 0),
      List.replicate (layout.exponentWidth - powerDigits.length) '0' ++ powerDigits)⟩

/-! ## The text of the parts -/

theorem toList_pushn (s : String) (c : Char) (n : Nat) :
    (s.pushn c n).toList = s.toList ++ List.replicate n c := by
  rw [String.pushn_eq_repeat_push]
  induction n with
  | zero => simp [Nat.repeat]
  | succ n ih =>
    rw [Nat.repeat, String.toList_push, ih, List.append_assoc, ← List.replicate_succ']

theorem toList_toString (n : Nat) : (toString n).toList = Nat.toDigits 10 n := by
  rw [Nat.toString_eq_ofList_toDigits, String.toList_ofList]

theorem length_toString (n : Nat) : (toString n).length = (Nat.toDigits 10 n).length := by
  rw [← String.length_toList, toList_toString]

theorem Spelling.placesText_of_ne_nil {places : List Char} (h : places ≠ []) :
    placesText places = '.' :: places := by
  cases places with
  | nil => exact absurd rfl h
  | cons c places => rfl

theorem toList_text (layout : Layout) (d : Decimal) :
    (d.text layout).toList = (d.spelling layout).chars := by
  obtain ⟨first, rest, hdigits⟩ := List.exists_cons_of_ne_nil (@Nat.toDigits_ne_nil d.digits 10)
  simp only [text, spelling, length_toString, toList_toString]
  split
  · split
    · simp [Spelling.chars, Spelling.placesText, Spelling.powerText, toList_pushn, hdigits]
    · split
      · simp [Spelling.chars, Spelling.placesText, Spelling.powerText, toList_pushn]
      · next hsplit =>
          have hdrop : (Nat.toDigits 10 d.digits).drop
              ((Nat.toDigits 10 d.digits).length + d.exponent).toNat ≠ [] := by
            rw [Ne, List.drop_eq_nil_iff]
            omega
          simp [Spelling.chars, Spelling.placesText_of_ne_nil hdrop, Spelling.powerText]
  · cases rest <;>
      simp only [hdigits, Spelling.chars, Spelling.placesText, Spelling.powerText, toList_pushn,
        toList_toString, String.toList_append, String.toList_ofList, decide_eq_true_eq] <;>
      split <;> simp

/-! ## Well-formed parts -/

theorem head?_take_toDigits {n count : Nat} (hn : n ≠ 0) (hcount : 0 < count)
    (more : List Char) : ((Nat.toDigits 10 n).take count ++ more).head? ≠ some '0' := by
  obtain ⟨first, rest, hdigits⟩ := List.exists_cons_of_ne_nil (@Nat.toDigits_ne_nil n 10)
  obtain ⟨count, rfl⟩ := Nat.exists_eq_succ_of_ne_zero (Nat.ne_of_gt hcount)
  have hhead := head?_toDigits_ne_zero hn
  rw [hdigits] at hhead ⊢
  simpa using hhead

theorem isDigit_of_mem_replicate {n : Nat} : ∀ c ∈ List.replicate n '0', isDigit c = true := by
  intro c hc
  rw [List.eq_of_mem_replicate hc]
  rfl

/-- Parts without a power of ten. -/
theorem Spelling.WellFormed.ofPlaces {whole places : List Char} (hwhole : whole ≠ [])
    (hdigits : ∀ c ∈ whole, isDigit c = true) (hhead : whole = ['0'] ∨ whole.head? ≠ some '0')
    (hplaces : places ≠ []) (hplaceDigits : ∀ c ∈ places, isDigit c = true) :
    WellFormed ⟨whole, places, none⟩ where
  whole_ne_nil := hwhole
  whole_digits := hdigits
  whole_head := hhead
  places_digits := hplaceDigits
  power_ne_nil := by simp
  power_digits := by simp
  not_whole := fun hnil => absurd hnil hplaces

theorem wellFormed_spelling {d : Decimal} (layout : Layout) (h : d.digits = 0 → d.exponent = 0) :
    (d.spelling layout).WellFormed := by
  have hdigits : ∀ c ∈ Nat.toDigits 10 d.digits, isDigit c = true :=
    fun c => isDigit_of_mem_toDigits
  have hpos := @Nat.length_toDigits_pos 10 d.digits
  rw [spelling]
  split
  · split
    · exact .ofPlaces (by simp) (by simp; decide) (.inl rfl) (by simp)
        (List.forall_mem_append.mpr ⟨isDigit_of_mem_replicate, hdigits⟩)
    · split
      · refine .ofPlaces (by simp)
          (List.forall_mem_append.mpr ⟨hdigits, isDigit_of_mem_replicate⟩) ?_
          (by simp) (by simp; decide)
        by_cases hzero : d.digits = 0
        · exact .inl (by simp [hzero, h hzero])
        · have hhead := head?_take_toDigits hzero hpos
          rw [List.take_length] at hhead
          exact .inr (hhead _)
      · next hplace hlong =>
          have hzero : d.digits ≠ 0 := by
            intro hzero
            simp [hzero, h hzero] at hlong
          have hhead := @head?_take_toDigits d.digits
            ((Nat.toDigits 10 d.digits).length + d.exponent).toNat hzero (by omega) []
          rw [List.append_nil] at hhead
          exact .ofPlaces (by simp only [ne_eq, List.take_eq_nil_iff]; simp; omega)
            (fun c hc => hdigits c (List.mem_of_mem_take hc)) (.inr hhead)
            (by rw [Ne, List.drop_eq_nil_iff]; omega)
              (fun c hc => hdigits c (List.mem_of_mem_drop hc))
  · obtain ⟨first, rest, hcons⟩ := List.exists_cons_of_ne_nil (@Nat.toDigits_ne_nil d.digits 10)
    rw [hcons, List.forall_mem_cons] at hdigits
    rw [hcons]
    exact {
      whole_ne_nil := by simp
      whole_digits := by simpa using hdigits.1
      whole_head := by
        by_cases hzero : first = '0'
        · exact .inl (by simp [hzero])
        · exact .inr (by simpa using hzero)
      places_digits := by simpa using hdigits.2
      power_ne_nil := by simp
      power_digits := by
        rintro p ⟨⟩
        exact List.forall_mem_append.mpr
          ⟨isDigit_of_mem_replicate, fun c => isDigit_of_mem_toDigits⟩
      not_whole := by simp }

/-! ## The value of the parts -/

theorem Spelling.decimal_eq {whole places : List Char} {power : Option (Bool × List Char)}
    {d : Decimal} (hdigits : ofDigits (whole ++ places) = d.digits)
    (hexponent : powerValue power - places.length = d.exponent) :
    (Spelling.mk whole places power).decimal = d := by
  rw [decimal, hdigits, hexponent]

theorem ofDigits_zeros_append (n : Nat) (digits : List Char) :
    ofDigits (List.replicate n '0' ++ digits) = ofDigits digits := by
  rw [ofDigits_append, ofDigits_replicate_zero, Nat.zero_mul, Nat.zero_add]

theorem signed_natAbs (n : Int) : Binary64.signed (decide (n < 0)) n.natAbs = n := by
  rw [Binary64.signed]
  simp only [decide_eq_true_eq]
  omega

theorem value_spelling (layout : Layout) (d : Decimal) :
    (d.spelling layout).decimal.value = d.value := by
  rw [spelling]
  split
  · split
    · refine congrArg value (Spelling.decimal_eq ?_ ?_)
      · rw [← List.append_assoc, List.singleton_append, ← List.replicate_succ,
          ofDigits_zeros_append, ofDigits_toDigits]
      · simp only [Spelling.powerValue, List.length_append, List.length_replicate]
        omega
    · split
      · next hlong =>
          obtain ⟨zeros, hzeros⟩ := Int.eq_ofNat_of_zero_le (show 0 ≤ d.exponent by omega)
          simp only [Spelling.decimal, value, hzeros, add_sub_cancel_left, Int.toNat_natCast,
            ofDigits_append, ofDigits_toDigits, ofDigits_replicate_zero, Spelling.powerValue]
          simp [ofDigits, zpow_neg]
      · next hlong =>
          refine congrArg value (Spelling.decimal_eq ?_ ?_)
          · rw [List.take_append_drop, ofDigits_toDigits]
          · simp only [Spelling.powerValue, List.length_drop]
            omega
  · refine congrArg value (Spelling.decimal_eq ?_ ?_)
    · rw [List.take_append_drop, ofDigits_toDigits]
    · have hpos := @Nat.length_toDigits_pos 10 d.digits
      rw [Spelling.powerValue, ofDigits_zeros_append, ofDigits_toDigits, signed_natAbs,
        List.length_drop]
      omega

/-! ## Spellings of binary numbers -/

theorem exponent_shortest {m : Nat} {e : Int} (h : Binary64.IsCanonical m e)
    (hdigits : (shortest m e).digits = 0) : (shortest m e).exponent = 0 := by
  have hread := @ofDecimal_shortest false _ _ h
  rw [hdigits, Binary64.ofDecimal_zero, Binary64.zero] at hread
  obtain ⟨-, rfl, -⟩ := Binary64.finite.inj hread
  rfl

theorem wellFormed_spelling_shortest {m : Nat} {e : Int} (layout : Layout)
    (h : Binary64.IsCanonical m e) :
    ((shortest m e).spelling layout).WellFormed :=
  wellFormed_spelling layout (exponent_shortest h)

/-- Under every layout the parts of a number's shortest decimal denote the number. -/
theorem ofDecimal_spelling_shortest {negative : Bool} {m : Nat} {e : Int} (layout : Layout)
    (h : Binary64.IsCanonical m e) :
    Binary64.ofDecimal negative ((shortest m e).spelling layout).decimal.digits
      ((shortest m e).spelling layout).decimal.exponent = .finite negative m e h := by
  rw [Binary64.ofDecimal_congr (value_spelling layout (shortest m e)), ofDecimal_shortest h]

end TerseSchema.Decimal
