import TerseSchema.Json.Reader
import TerseSchema.Proofs.Number.Spelling
/-!
# Numbers of JSON read back

What the writer writes for a number the reader takes for the same number, whatever comes
next but more of a number.
-/

namespace TerseSchema.Json

open TerseSchema.Text

/-- What may stand in a number after its first digit. -/
def isNumeric (c : Char) : Bool := isDigit c || c = '.' || c = 'e' || c = 'E'

theorem notNext_isDigit {rest : Text} (h : NotNext isNumeric rest) : NotNext isDigit rest :=
  h.mono fun c hc => by simp [isNumeric, hc]

/-! ## Parts of numbers -/

theorem wholeDigits_append {digits : List Char} {rest : Text} (hnil : digits ≠ [])
    (hdigits : ∀ c ∈ digits, isDigit c = true) (hhead : digits = ['0'] ∨ digits.head? ≠ some '0')
    (hrest : NotNext isDigit rest) :
    wholeDigits (digits.map .char ++ rest) = .ok (digits, rest) := by
  rcases hhead with rfl | hhead
  · rfl
  · obtain ⟨c, cs, rfl⟩ := List.exists_cons_of_ne_nil hnil
    rw [wholeDigits, spanChars_append hdigits hrest]
    simpa using hhead

theorem fraction_append {places : List Char} {rest : Text} (hnil : places ≠ [])
    (hplaces : ∀ c ∈ places, isDigit c = true) (hrest : NotNext isDigit rest) :
    fraction (.char '.' :: (places.map .char ++ rest)) = (some places, rest) := by
  obtain ⟨c, cs, rfl⟩ := List.exists_cons_of_ne_nil hnil
  rw [fraction, spanChars_append hplaces hrest]

theorem fraction_of_notNext {rest : Text} (hrest : rest.head? ≠ some (.char '.')) :
    fraction rest = (none, rest) := by
  rw [fraction.eq_def]
  split
  · simp at hrest
  · rfl

theorem exponent_append {negative : Bool} {digits : List Char} {rest : Text} (hnil : digits ≠ [])
    (hdigits : ∀ c ∈ digits, isDigit c = true) (hrest : NotNext isDigit rest) :
    exponent ((Decimal.Spelling.powerText (some (negative, digits))).map .char ++ rest) =
      (some (Binary64.signed negative (ofDigits digits)), rest) := by
  obtain ⟨c, cs, rfl⟩ := List.exists_cons_of_ne_nil hnil
  have hsign (s : Text) :
      exponentSign (.char (if negative then '-' else '+') :: s) = (negative, s) := by
    cases negative <;> rfl
  simp only [Decimal.Spelling.powerText, List.map_cons, List.cons_append, exponent,
    true_or, if_true, hsign]
  rw [← List.cons_append, ← List.map_cons, spanChars_append hdigits hrest]

theorem exponent_of_notNext {rest : Text} (hrest : NotNext isNumeric rest) :
    exponent rest = (none, rest) := by
  rw [exponent.eq_def]
  split
  · next e after =>
      have he := hrest e rfl
      rw [if_neg]
      rintro (rfl | rfl) <;> simp [isNumeric] at he
  · rfl

/-! ## Numbers -/

theorem head?_ne_point_of_notNext {rest : Text} (hrest : NotNext isNumeric rest) :
    rest.head? ≠ some (.char '.') := by
  intro hhead
  simpa [isNumeric] using hrest '.' hhead

theorem numeral_whole {negative : Bool} {digits : List Char} {rest : Text} (hnil : digits ≠ [])
    (hdigits : ∀ c ∈ digits, isDigit c = true) (hhead : digits = ['0'] ∨ digits.head? ≠ some '0')
    (hlength : digits.length ≤ mostDigits) (hrest : NotNext isNumeric rest) :
    numeral negative (digits.map .char ++ rest) =
      .ok (.int (Binary64.signed negative (ofDigits digits)), rest) := by
  rw [numeral, wholeDigits_append hnil hdigits hhead (notNext_isDigit hrest)]
  simp only [bind, Except.bind, fraction_of_notNext (head?_ne_point_of_notNext hrest),
    exponent_of_notNext hrest, if_neg (Nat.not_lt.mpr hlength)]
  rfl

theorem fraction_places {places : List Char} {rest : Text}
    (hplaces : ∀ c ∈ places, isDigit c = true) (hrest : NotNext isDigit rest)
    (hpoint : rest.head? ≠ some (.char '.')) :
    fraction ((Decimal.Spelling.placesText places).map .char ++ rest) =
      (if places = [] then none else some places, rest) := by
  cases places with
  | nil => exact fraction_of_notNext hpoint
  | cons c places => exact fraction_append (List.cons_ne_nil c places) hplaces hrest

theorem exponent_power {power : Option (Bool × List Char)} {rest : Text}
    (hnil : ∀ p ∈ power, p.2 ≠ []) (hdigits : ∀ p ∈ power, ∀ c ∈ p.2, isDigit c = true)
    (hrest : NotNext isNumeric rest) :
    exponent ((Decimal.Spelling.powerText power).map .char ++ rest) =
      (power.map fun p => Binary64.signed p.1 (ofDigits p.2), rest) := by
  cases power with
  | none => exact exponent_of_notNext hrest
  | some p => exact exponent_append (hnil p rfl) (hdigits p rfl) (notNext_isDigit hrest)

open Decimal Spelling in
theorem numeral_spelling {negative : Bool} {s : Spelling} {rest : Text} (h : s.WellFormed)
    (hrest : NotNext isNumeric rest) :
    numeral negative (s.chars.map .char ++ rest) =
      .ok (.float (Binary64.ofDecimal negative s.decimal.digits s.decimal.exponent), rest) := by
  obtain ⟨whole, places, power⟩ := s
  have hpower : NotNext isDigit ((powerText power).map .char ++ rest) ∧
      ((powerText power).map CodePoint.char ++ rest).head? ≠ some (.char '.') := by
    cases power with
    | none => exact ⟨notNext_isDigit hrest, head?_ne_point_of_notNext hrest⟩
    | some p => exact ⟨by rintro c ⟨⟩; rfl, by simp [powerText]⟩
  have hplaces : NotNext isDigit
      ((placesText places).map .char ++ ((powerText power).map .char ++ rest)) := by
    cases places with
    | nil => exact hpower.1
    | cons c places => rintro c ⟨⟩; rfl
  rw [chars, List.map_append, List.map_append, List.append_assoc, List.append_assoc, numeral,
    wholeDigits_append h.whole_ne_nil h.whole_digits h.whole_head hplaces]
  simp only [bind, Except.bind, fraction_places h.places_digits hpower.1 hpower.2,
    exponent_power h.power_ne_nil h.power_digits hrest]
  have hmarked := h.not_whole
  cases places <;> cases power <;> simp_all [decimal, powerValue, pure, Except.pure]

/-! ## Number texts -/

/-- A digit starts neither a word nor a string, and is no sign. -/
theorem ne_of_isDigit {c : Char} (h : isDigit c = true) :
    c ≠ 'n' ∧ c ≠ 't' ∧ c ≠ 'f' ∧ c ≠ 'N' ∧ c ≠ 'I' ∧ c ≠ '-' ∧ c ≠ '"' := by
  refine ⟨?_, ?_, ?_, ?_, ?_, ?_, ?_⟩ <;> (rintro rfl; revert h; decide)

theorem scalar_digit {c : Char} {s : Text} (hc : isDigit c = true) :
    scalar (.char c :: s) = numeral false (.char c :: s) := by
  have hne := ne_of_isDigit hc
  have hword : (words.findSome? fun w =>
      (afterWord? w.1.toList (.char c :: s)).map fun rest => (w.2, rest)) = none := by
    simp [words, afterWord?, hne]
  rw [scalar.eq_def, hword]
  simp only
  split
  · next heq => exact absurd (CodePoint.char.inj (List.cons.inj heq).1) hne.2.2.2.2.2.2
  · next heq => exact absurd (CodePoint.char.inj (List.cons.inj heq).1) hne.2.2.2.2.2.1
  · rfl

theorem scalar_minus_digit {c : Char} {s : Text} (hc : isDigit c = true) :
    scalar (.char '-' :: .char c :: s) = numeral true (.char c :: s) := by
  have hword :
      (words.findSome? fun w =>
        (afterWord? w.1.toList (.char '-' :: .char c :: s)).map fun rest => (w.2, rest)) =
        none := by
    simp [words, afterWord?, ne_of_isDigit hc]
  rw [scalar, hword]

def signText (negative : Bool) : List Char := if negative then ['-'] else []

/-- A text that starts with a digit after its sign is a number. -/
theorem scalar_sign {negative : Bool} {digits : List Char} {rest : Text} (hnil : digits ≠ [])
    (hdigits : ∀ c ∈ digits, isDigit c = true) :
    scalar ((signText negative).map .char ++ (digits.map .char ++ rest)) =
      numeral negative (digits.map .char ++ rest) := by
  obtain ⟨c, cs, rfl⟩ := List.exists_cons_of_ne_nil hnil
  have hc := hdigits c List.mem_cons_self
  cases negative with
  | false => exact scalar_digit hc
  | true => exact scalar_minus_digit hc

theorem scalar_sign_spelling {negative : Bool} {s : Decimal.Spelling} {rest : Text}
    (h : s.WellFormed) :
    scalar ((signText negative).map .char ++ (s.chars.map .char ++ rest)) =
      numeral negative (s.chars.map .char ++ rest) := by
  rw [Decimal.Spelling.chars, List.map_append, List.append_assoc]
  exact scalar_sign h.whole_ne_nil h.whole_digits

theorem toList_toString_int (n : Int) :
    (toString n).toList = signText (decide (n < 0)) ++ Nat.toDigits 10 n.natAbs := by
  rw [Int.toString_eq_repr, Int.repr_eq_if, signText]
  by_cases h : n < 0
  · rw [if_neg (by omega), show (-n).toNat = n.natAbs by omega, Nat.repr_eq_ofList_toDigits]
    simp [h]
  · rw [if_pos (by omega), show n.toNat = n.natAbs by omega, Nat.repr_eq_ofList_toDigits]
    simp [h]

theorem length_toDigits_le_mostDigits {n : Int} (h : isWritable n = true) :
    (Nat.toDigits 10 n.natAbs).length ≤ mostDigits := by
  rw [isWritable, decide_eq_true_eq] at h
  exact length_toDigits_le (by decide) h

theorem scalar_integer {n : Int} {w rest : Text} (h : integer n = .ok w)
    (hrest : NotNext isNumeric rest) :
    scalar (w ++ rest) = .ok (.int n, rest) := by
  rw [integer] at h
  split at h
  · next hwritable =>
      cases h
      have hdigits : ∀ c ∈ Nat.toDigits 10 n.natAbs, isDigit c = true :=
        fun c => isDigit_of_mem_toDigits
      have hhead :
          Nat.toDigits 10 n.natAbs = ['0'] ∨ (Nat.toDigits 10 n.natAbs).head? ≠ some '0' := by
        by_cases hzero : n.natAbs = 0
        · exact .inl (by rw [hzero]; rfl)
        · exact .inr (head?_toDigits_ne_zero hzero)
      rw [ofString, toList_toString_int, List.map_append, List.append_assoc,
        scalar_sign Nat.toDigits_ne_nil hdigits,
        numeral_whole Nat.toDigits_ne_nil hdigits hhead
          (length_toDigits_le_mostDigits hwritable) hrest,
        ofDigits_toDigits, Decimal.signed_natAbs]
  · cases h

theorem toList_text_finite {negative : Bool} {m : Nat} {e : Int} (h : Binary64.IsCanonical m e) :
    ((Binary64.finite negative m e h).text number).toList =
      signText negative ++ ((Decimal.shortest m e).spelling number).chars := by
  rw [Binary64.text, String.toList_append, Decimal.toList_text, signText]
  cases negative <;> rfl

/-- A number text is read as the number; what is no number gets the payload
that the reader gives it. -/
theorem scalar_float (x : Binary64) {rest : Text} (hrest : NotNext isNumeric rest) :
    scalar (ofString (x.text number) ++ rest) = .ok (.float (x.withPayload 1), rest) := by
  cases x with
  | nan payload =>
    simp [Binary64.text, number, ofString, scalar, words, afterWord?,
      Binary64.withPayload, notANumber]
  | infinity negative =>
      cases negative <;>
        simp [Binary64.text, number, ofString, scalar, words, afterWord?, Binary64.withPayload]
  | finite negative m e h =>
      have hspelling := Decimal.wellFormed_spelling_shortest number h
      rw [ofString, toList_text_finite, List.map_append, List.append_assoc,
        scalar_sign_spelling hspelling,
        numeral_spelling hspelling hrest, Decimal.ofDecimal_spelling_shortest number h]
      rfl

end TerseSchema.Json
