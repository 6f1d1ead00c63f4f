import TerseSchema.Proofs.Json.Number
import TerseSchema.Proofs.Text.Pattern
import TerseSchema.Proofs.Text.Split
import TerseSchema.Yaml.Content.Scalar
/-!
# Plain numbers

Whole numbers in decimal and floats with a point are told by their texts, and
denote what their digits say.
-/

namespace TerseSchema.Yaml

open TerseSchema.Text

theorem chars?_map (cs : List Char) : Text.chars? (cs.map .char) = some cs := by
  induction cs with
  | nil => rfl
  | cons c cs ih =>
      rw [chars?] at ih
      rw [List.map_cons, chars?, List.mapM_cons, ih]
      rfl

/-! ## Characters -/

def numeralSigns : List Char := "0123456789.e+-".toList

theorem mem_digits_of_isDigit {c : Char} (h : isDigit c = true) : c ∈ "0123456789".toList := by
  have hcode : c = Char.ofNat c.toNat := (Char.ofNat_toNat c).symm
  simp only [isDigit, Bool.and_eq_true, decide_eq_true_eq] at h
  have hlow : '0'.toNat ≤ c.toNat := h.1
  have hhigh : c.toNat ≤ '9'.toNat := h.2
  rw [hcode]
  generalize c.toNat = n at hlow hhigh
  have htable : ∀ n : Fin 10, Char.ofNat (48 + n.val) ∈ "0123456789".toList := by decide
  have hn := htable ⟨n - 48, by simp at hlow hhigh; omega⟩
  have hsum : 48 + (n - 48) = n := by simp at hlow; omega
  rwa [show 48 + (⟨n - 48, by simp at hlow hhigh; omega⟩ : Fin 10).val = n from hsum] at hn

theorem mem_numeralSigns_of_isDigit {c : Char} (h : isDigit c = true) : c ∈ numeralSigns :=
  (by decide : ∀ c ∈ "0123456789".toList, c ∈ numeralSigns) c (mem_digits_of_isDigit h)

/-- What readers of numbers make of the characters of numerals: nothing. -/
theorem numeralSigns_kept : ∀ c ∈ numeralSigns, Numeral.isMargin c = false ∧
    (match digitValue? c with | some d => Nat.digitChar d | none => c) = c ∧ c.toLower = c ∧
    c ≠ '_' ∧ c ≠ ':' ∧ c ≠ '\n' := by
  decide

variable {cs : List Char}

theorem withoutUnderscores_eq_self (h : ∀ c ∈ cs, c ∈ numeralSigns) :
    withoutUnderscores cs = cs :=
  List.filter_eq_self.mpr fun c hc => decide_eq_true (numeralSigns_kept c (h c hc)).2.2.2.1

theorem not_contains_colon (h : ∀ c ∈ cs, c ∈ numeralSigns) : cs.contains ':' = false := by
  rw [List.contains_eq_mem, decide_eq_false_iff_not]
  exact fun hmem => (numeralSigns_kept ':' (h ':' hmem)).2.2.2.2.1 rfl

theorem normalize_eq_self (h : ∀ c ∈ cs, c ∈ numeralSigns) : Numeral.normalize cs = cs := by
  have hmargin : ∀ c ∈ cs, Numeral.isMargin c = false :=
    fun c hc => (numeralSigns_kept c (h c hc)).1
  have hstart : cs.dropWhile Numeral.isMargin = cs := by
    cases cs with
    | nil => rfl
    | cons c cs => rw [List.dropWhile_cons_of_neg (by simp [hmargin c List.mem_cons_self])]
  have hend : dropEndWhile Numeral.isMargin cs = cs :=
    dropEndWhile_of_getLast? fun c hc => hmargin c (List.mem_of_getLast? hc)
  rw [Numeral.normalize, hstart, hend]
  exact (List.map_congr_left fun c hc => (numeralSigns_kept c (h c hc)).2.1).trans
    (List.map_id cs)

/-! ## Digits -/

theorem digits?_of_isDigit (h : ∀ c ∈ cs, isDigit c = true) (n : Nat) :
    Numeral.digits? 10 n cs = some (cs.foldl (fun n c => 10 * n + (c.toNat - '0'.toNat)) n) := by
  have htable :
      ∀ c ∈ "0123456789".toList, Numeral.placeValue? 10 c = some (c.toNat - '0'.toNat) := by
    decide
  induction cs generalizing n with
  | nil => rfl
  | cons c cs ih =>
      rw [List.forall_mem_cons] at h
      rw [Numeral.digits?, htable c (mem_digits_of_isDigit h.1)]
      simp only [ih h.2, List.foldl_cons, Nat.mul_comm n 10]

theorem digits?_eq_ofDigits (h : ∀ c ∈ cs, isDigit c = true) :
    Numeral.digits? 10 0 cs = some (ofDigits cs) := digits?_of_isDigit h 0

/-- A digit is no sign. -/
theorem splitSign_of_isDigit {c : Char} (h : isDigit c = true) (cs : List Char) :
    Numeral.splitSign (c :: cs) = (false, c :: cs) := by
  rw [Numeral.splitSign.eq_def]
  split
  · next heq =>
      obtain ⟨rfl, -⟩ := List.cons.inj heq
      exact absurd h (by decide)
  · next heq =>
      obtain ⟨rfl, -⟩ := List.cons.inj heq
      exact absurd h (by decide)
  · rfl

theorem tagSign_sign (negative : Bool) {c : Char} (h : isDigit c = true) (cs : List Char) :
    tagSign (Json.signText negative ++ c :: cs) = .ok (negative, c :: cs) := by
  cases negative with
  | true => rfl
  | false =>
      rw [Json.signText, if_neg Bool.false_ne_true, List.nil_append, tagSign.eq_def]
      split
      · next heq => cases heq
      · next heq =>
          obtain ⟨rfl, -⟩ := List.cons.inj heq
          exact absurd h (by decide)
      · next heq =>
          obtain ⟨rfl, -⟩ := List.cons.inj heq
          exact absurd h (by decide)
      · rfl

/-! ## Whole numbers -/

structure WholeDigits (digits : List Char) : Prop where
  ne_nil : digits ≠ []
  isDigit : ∀ c ∈ digits, Text.isDigit c = true
  /-- A zero in front stands alone. -/
  head : digits = ['0'] ∨ digits.head? ≠ some '0'

theorem wholeDigits_toDigits (n : Nat) : WholeDigits (Nat.toDigits 10 n) where
  ne_nil := Nat.toDigits_ne_nil
  isDigit _ := isDigit_of_mem_toDigits
  head := by
    by_cases hzero : n = 0
    · exact .inl (by rw [hzero]; rfl)
    · exact .inr (head?_toDigits_ne_zero hzero)

variable {digits : List Char}

theorem int?_digits (h : WholeDigits digits) (hlength : digits.length ≤ mostDigits) :
    Numeral.int? 10 digits = some (ofDigits digits : Int) := by
  obtain ⟨c, cs, rfl⟩ := List.exists_cons_of_ne_nil h.ne_nil
  have hmark : Numeral.dropBaseMark 10 (c :: cs) = c :: cs := by
    rw [Numeral.dropBaseMark.eq_def]
    split
    · next heq => simpa using heq.symm
    · rfl
  have hlong : ¬mostDigits < (c :: cs).length := Nat.not_lt.mpr hlength
  rw [Numeral.int?, normalize_eq_self fun d hd => mem_numeralSigns_of_isDigit (h.isDigit d hd),
    splitSign_of_isDigit (h.isDigit c List.mem_cons_self)]
  simp only [hmark, List.isEmpty_cons, Bool.false_or, hlong, decide_true,
    Bool.true_and, decide_false, Bool.false_eq_true, if_false, digits?_eq_ofDigits h.isDigit]
  rfl

theorem unsignedInt_digits (h : WholeDigits digits) (hlength : digits.length ≤ mostDigits) :
    unsignedInt digits = .ok (ofDigits digits : Int) := by
  rcases h.head with rfl | hhead
  · rfl
  · have hcolon := not_contains_colon fun c hc => mem_numeralSigns_of_isDigit (h.isDigit c hc)
    rw [unsignedInt.eq_def]
    split
    · exact absurd rfl h.ne_nil
    · simp at hhead
    · simp at hhead
    · simp at hhead
    · simp at hhead
    · rw [hcolon, if_neg Bool.false_ne_true, intOrFault, int?_digits h hlength]

theorem taggedInt_digits {negative : Bool} (h : WholeDigits digits)
    (hlength : digits.length ≤ mostDigits) :
    taggedInt ((Json.signText negative ++ digits).map .char) =
      .ok (Binary64.signed negative (ofDigits digits)) := by
  have hsigns : ∀ c ∈ Json.signText negative ++ digits, c ∈ numeralSigns := by
    refine List.forall_mem_append.mpr ⟨?_,
      fun c hc => mem_numeralSigns_of_isDigit (h.isDigit c hc)⟩
    cases negative <;> decide
  have hunsigned := unsignedInt_digits h hlength
  obtain ⟨c, cs, rfl⟩ := List.exists_cons_of_ne_nil h.ne_nil
  rw [taggedInt, numeralChars, chars?_map]
  simp only [withoutUnderscores_eq_self hsigns, bind, Except.bind,
    tagSign_sign negative (h.isDigit c List.mem_cons_self), hunsigned]
  cases negative <;> rfl

/-! ## Tags of numbers -/

theorem resolve_of_float {s : Text}
    (hfirst : (startingWith "-+0123456789.").contains s.head? = true)
    (h : floatPattern.matchesLine s = true) : resolve s = floatTag := by
  have hrules :
      ∃ rest, scalarRules = ⟨floatTag, startingWith "-+0123456789.", floatPattern⟩ :: rest :=
    ⟨_, rfl⟩
  obtain ⟨rest, hrules⟩ := hrules
  rw [resolve, resolveWith, hrules,
    List.find?_cons_of_pos (by simp only [hfirst, h, Bool.and_self])]

theorem resolve_of_int {s : Text}
    (hfirst : (startingWith "-+0123456789").contains s.head? = true)
    (hfloat : floatPattern.matchesLine s = false) (h : intPattern.matchesLine s = true) :
    resolve s = intTag := by
  have hrules : ∃ rest, scalarRules = ⟨floatTag, startingWith "-+0123456789.", floatPattern⟩ ::
      ⟨intTag, startingWith "-+0123456789", intPattern⟩ :: rest := ⟨_, rfl⟩
  obtain ⟨rest, hrules⟩ := hrules
  rw [resolve, resolveWith, hrules, List.find?_cons_of_neg (by simp [hfloat]),
    List.find?_cons_of_pos (by simp only [hfirst, h, Bool.and_self])]

theorem startsNumber {negative : Bool} {c : Char} (h : isDigit c = true) (cs : List Char) :
    (startingWith "-+0123456789").contains
      ((Json.signText negative ++ c :: cs).map CodePoint.char).head? = true := by
  have htable : ∀ c ∈ "0123456789".toList,
      (startingWith "-+0123456789").contains (some (.char c)) = true := by decide
  cases negative with
  | true => exact (by decide : (startingWith "-+0123456789").contains (some (.char '-')) = true)
  | false => exact htable c (mem_digits_of_isDigit h)

theorem startsFloat_of_startsNumber {first : Option CodePoint}
    (h : (startingWith "-+0123456789").contains first = true) :
    (startingWith "-+0123456789.").contains first = true := by
  rw [List.contains_eq_mem, decide_eq_true_iff] at h ⊢
  exact (by decide : ∀ x ∈ startingWith "-+0123456789", x ∈ startingWith "-+0123456789.") first h

open Pattern

theorem matches_sign (negative : Bool) : sign.Matches ((Json.signText negative).map .char) := by
  cases negative with
  | true => exact .left (@Matches.char _ (.char '-') (by decide))
  | false => exact matches_optionally_nil _

theorem inRanges_digit {c : Char} (h : isDigit c = true) : InRanges [('0', '9')] (.char c) :=
  (by decide : ∀ c ∈ "0123456789".toList, InRanges [('0', '9')] (.char c)) c
    (mem_digits_of_isDigit h)

theorem matches_digits {cs : List Char} (h : ∀ c ∈ cs, isDigit c = true) :
    (Pattern.star digitOrUnderscore).Matches (cs.map .char) := by
  have htable : ∀ c ∈ "0123456789".toList, InRanges [('0', '9'), ('_', '_')] (.char c) := by
    decide
  exact matches_star_of_all
    (List.forall_mem_map.mpr fun c hc => htable c (mem_digits_of_isDigit (h c hc)))

theorem matchesLine_of_matches {p : Pattern} {s : Text} (h : p.Matches s) :
    p.matchesLine s = true := by
  rw [matchesLine, matchesAll_iff.mpr h, Bool.true_or]

/-- The sign and the digits of a whole number are no float, as there is no point. -/
theorem floatPattern_of_no_point {cs : List Char} (h : '.' ∉ cs) :
    floatPattern.matchesLine (cs.map .char) = false := by
  have hnone : ∀ s : Text, .char '.' ∉ s → floatPattern.matchesAll s = false := by
    intro s hs
    rw [Bool.eq_false_iff]
    exact fun hmatches => hs (mem_of_requires (by decide) (matchesAll_iff.mp hmatches))
  have hpoint : CodePoint.char '.' ∉ cs.map CodePoint.char := by simpa using h
  rw [matchesLine, hnone _ hpoint,
    hnone _ fun hmem => hpoint (List.dropLast_subset _ hmem), Bool.and_false, Bool.or_self]

theorem matches_int (negative : Bool) {digits : List Char} (h : WholeDigits digits) :
    intPattern.Matches ((Json.signText negative ++ digits).map .char) := by
  rw [List.map_append]
  rcases h.head with rfl | hhead
  · refine matches_oneOfAll_of_mem (p := sequence [sign, literally "0"]) (by simp) ?_
    exact matches_sequence_cons (matches_sign negative)
      (matches_sequence_singleton (matches_literally "0"))
  · obtain ⟨c, cs, rfl⟩ := List.exists_cons_of_ne_nil h.ne_nil
    have htable :
        ∀ c ∈ "0123456789".toList, c ≠ '0' → InRanges [('1', '9')] (.char c) := by decide
    have hc :=
      htable c (mem_digits_of_isDigit (h.isDigit c List.mem_cons_self)) (by simpa using hhead)
    have hcs := matches_digits fun d hd => h.isDigit d (List.mem_cons_of_mem c hd)
    refine matches_oneOfAll_of_mem
      (p := sequence [sign, .char [('1', '9')], .star digitOrUnderscore])
      (by simp) (matches_sequence_cons (matches_sign negative) ?_)
    exact matches_sequence_cons (.char hc) (matches_sequence_singleton hcs)

theorem resolve_whole {negative : Bool} {digits : List Char} (h : WholeDigits digits) :
    resolve ((Json.signText negative ++ digits).map .char) = intTag := by
  have hpoint : '.' ∉ Json.signText negative ++ digits := by
    rw [List.mem_append, not_or]
    refine ⟨by cases negative <;> decide, fun hmem => ?_⟩
    exact absurd (h.isDigit '.' hmem) (by decide)
  have hint := matchesLine_of_matches (matches_int negative h)
  obtain ⟨c, cs, rfl⟩ := List.exists_cons_of_ne_nil h.ne_nil
  exact resolve_of_int (startsNumber (h.isDigit c List.mem_cons_self) cs)
    (floatPattern_of_no_point hpoint) hint

/-! ## Floats -/

section

open Decimal Spelling

theorem matches_power {power : Option (Bool × List Char)} (hnil : ∀ p ∈ power, p.2 ≠ [])
    (hdigits : ∀ p ∈ power, ∀ c ∈ p.2, isDigit c = true) :
    floatExponent.Matches ((powerText power).map .char) := by
  cases power with
  | none => exact matches_optionally_nil _
  | some p =>
      obtain ⟨minus, digits⟩ := p
      obtain ⟨d, ds, rfl⟩ : ∃ d ds, digits = d :: ds := List.exists_cons_of_ne_nil (hnil _ rfl)
      have hall := hdigits _ rfl
      rw [List.forall_mem_cons] at hall
      have hmore : (Pattern.star digit).Matches (ds.map .char) :=
        matches_star_of_all (List.forall_mem_map.mpr fun x hx => inRanges_digit (hall.2 x hx))
      refine .left (matches_sequence_cons (s := [.char 'e']) (.char (by decide)) ?_)
      refine matches_sequence_cons (p := oneOf "-+")
        (s := [.char (if minus then '-' else '+')]) (.char ?_) ?_
      · cases minus <;> decide
      · exact matches_sequence_singleton
          (.seq (s := [.char d]) (.char (inRanges_digit hall.1)) hmore)

variable {s : Spelling}

theorem matches_float (negative : Bool) (h : s.WellFormed) (hplaces : s.places ≠ []) :
    floatPattern.Matches ((Json.signText negative ++ s.chars).map .char) := by
  obtain ⟨c, cs, hwhole⟩ := List.exists_cons_of_ne_nil h.whole_ne_nil
  have hdigits := h.whole_digits
  rw [hwhole, List.forall_mem_cons] at hdigits
  have hpoint := @matches_literally "."
  have hpower := matches_power h.power_ne_nil h.power_digits
  have htext : (Json.signText negative ++ s.chars).map CodePoint.char =
      (Json.signText negative).map .char ++
      ([.char c] ++ (cs.map .char ++
        ([.char '.'] ++ (s.places.map .char ++ (powerText s.power).map .char)))) := by
    simp [chars, hwhole, placesText_of_ne_nil hplaces]
  rw [htext]
  refine matches_oneOfAll_of_mem
    (p := sequence [sign, digit, .star digitOrUnderscore, literally ".",
      .star digitOrUnderscore, floatExponent]) (by simp)
    (matches_sequence_cons (matches_sign negative) ?_)
  refine matches_sequence_cons (.char (inRanges_digit hdigits.1))
    (matches_sequence_cons (matches_digits hdigits.2) ?_)
  refine matches_sequence_cons hpoint (matches_sequence_cons (matches_digits h.places_digits) ?_)
  exact matches_sequence_singleton hpower

theorem mem_numeralSigns_of_mem_chars (h : s.WellFormed) : ∀ c ∈ s.chars, c ∈ numeralSigns := by
  have hdigits {cs : List Char} (hcs : ∀ c ∈ cs, isDigit c = true) :
      ∀ c ∈ cs, c ∈ numeralSigns :=
    fun c hc => mem_numeralSigns_of_isDigit (hcs c hc)
  refine List.forall_mem_append.mpr ⟨hdigits h.whole_digits, List.forall_mem_append.mpr ⟨?_, ?_⟩⟩
  · cases hplaces : s.places with
    | nil => simp [placesText]
    | cons c places =>
        exact List.forall_mem_cons.mpr ⟨by decide, hplaces ▸ hdigits h.places_digits⟩
  · cases hpower : s.power with
    | none => simp [powerText]
    | some p =>
        refine List.forall_mem_cons.mpr ⟨by decide, List.forall_mem_cons.mpr ⟨?_, ?_⟩⟩
        · cases p.1 <;> decide
        · exact hdigits (h.power_digits p hpower)

theorem resolve_spelling {negative : Bool} (h : s.WellFormed) (hplaces : s.places ≠ []) :
    resolve ((Json.signText negative ++ s.chars).map .char) = floatTag := by
  have hmatches := matchesLine_of_matches (matches_float negative h hplaces)
  obtain ⟨c, cs, hwhole⟩ := List.exists_cons_of_ne_nil h.whole_ne_nil
  have hc := h.whole_digits c (hwhole ▸ List.mem_cons_self)
  rw [chars, hwhole, List.cons_append] at hmatches ⊢
  exact resolve_of_float (startsFloat_of_startsNumber (startsNumber hc _)) hmatches

theorem exponent?_powerText {power : Option (Bool × List Char)} (hnil : ∀ p ∈ power, p.2 ≠ [])
    (hdigits : ∀ p ∈ power, ∀ c ∈ p.2, isDigit c = true) :
    Numeral.exponent? (powerText power) = some (powerValue power) := by
  cases power with
  | none => rfl
  | some p =>
      obtain ⟨minus, digits⟩ := p
      have hsign :
          Numeral.splitSign ((if minus then '-' else '+') :: digits) = (minus, digits) := by
        cases minus <;> rfl
      have hempty : digits.isEmpty = false := by simpa using hnil _ rfl
      simp only [powerText, Numeral.exponent?, hsign, hempty,
        digits?_eq_ofDigits (hdigits _ rfl)]
      rfl

theorem spanDigits_append {cs rest : List Char} (hcs : ∀ c ∈ cs, isDigit c = true)
    (hrest : ∀ c ∈ rest.head?, isDigit c = false) :
    Numeral.spanDigits (cs ++ rest) = (cs, rest) := by
  have htake : rest.takeWhile isDigit = [] ∧ rest.dropWhile isDigit = rest := by
    cases rest with
    | nil => exact ⟨rfl, rfl⟩
    | cons c rest => simp [hrest c rfl]
  rw [Numeral.spanDigits, List.takeWhile_append_of_pos hcs, List.dropWhile_append_of_pos hcs,
    htake.1, htake.2, List.append_nil]

theorem unsignedFloat?_spelling (negative : Bool) (h : s.WellFormed) (hplaces : s.places ≠ []) :
    Numeral.unsignedFloat? negative s.chars =
      some (Binary64.ofDecimal negative s.decimal.digits s.decimal.exponent) := by
  obtain ⟨c, cs, hwhole⟩ := List.exists_cons_of_ne_nil h.whole_ne_nil
  have hword : ∀ word : String, (∀ c ∈ word.toList, isDigit c = false) →
      s.chars ≠ word.toList := by
    intro word hletters heq
    have hc := h.whole_digits c (hwhole ▸ List.mem_cons_self)
    rw [hletters c (heq ▸ by simp [chars, hwhole])] at hc
    cases hc
  have hplacesSpan :
      Numeral.spanDigits (s.places ++ powerText s.power) = (s.places, powerText s.power) := by
    refine spanDigits_append h.places_digits ?_
    cases s.power <;> simp [powerText]
    decide
  have hspan :
      Numeral.spanDigits s.chars = (s.whole, '.' :: (s.places ++ powerText s.power)) := by
    rw [chars, placesText_of_ne_nil hplaces]
    exact spanDigits_append h.whole_digits (by simp; decide)
  have hempty : s.whole.isEmpty = false := by simpa using h.whole_ne_nil
  have hdigits : ∀ c ∈ s.whole ++ s.places, isDigit c = true :=
    List.forall_mem_append.mpr ⟨h.whole_digits, h.places_digits⟩
  rw [Numeral.unsignedFloat?, hspan]
  simp only [hword "inf" (by decide), hword "infinity" (by decide),
    hword "nan" (by decide), decide_false,
    Bool.or_self, Bool.false_eq_true, if_false, hplacesSpan, hempty, Bool.false_and,
    digits?_eq_ofDigits hdigits, exponent?_powerText h.power_ne_nil h.power_digits]
  rfl

theorem taggedFloat_spelling {negative : Bool} {payload : Nat} (h : s.WellFormed)
    (hplaces : s.places ≠ []) :
    taggedFloat payload ((Json.signText negative ++ s.chars).map .char) =
      .ok
        ((if negative then
          (Binary64.ofDecimal false s.decimal.digits s.decimal.exponent).negate
        else
          Binary64.ofDecimal false s.decimal.digits s.decimal.exponent).withPayload
          payload) := by
  have hchars := mem_numeralSigns_of_mem_chars h
  have hsigns : ∀ c ∈ Json.signText negative ++ s.chars, c ∈ numeralSigns :=
    List.forall_mem_append.mpr ⟨by cases negative <;> decide, hchars⟩
  have hlower :
      (Json.signText negative ++ s.chars).map Char.toLower = Json.signText negative ++ s.chars :=
    (List.map_congr_left fun c hc =>
      (numeralSigns_kept c (hsigns c hc)).2.2.1).trans (List.map_id _)
  have hfloat := unsignedFloat?_spelling false h hplaces
  obtain ⟨c, cs, hwhole⟩ := List.exists_cons_of_ne_nil h.whole_ne_nil
  have hc := h.whole_digits c (hwhole ▸ List.mem_cons_self)
  have hcons : s.chars = c :: (cs ++ (placesText s.places ++ powerText s.power)) := by
    simp [chars, hwhole]
  have hsplit := splitSign_of_isDigit hc (cs ++ (placesText s.places ++ powerText s.power))
  have htag := tagSign_sign negative hc (cs ++ (placesText s.places ++ powerText s.power))
  rw [← hcons] at hsplit htag
  have hword : ∀ word : String, word.toList.head?.map isDigit = some false →
      s.chars ≠ word.toList := by
    intro word hhead heq
    rw [← heq, hcons, List.head?_cons, Option.map_some, hc] at hhead
    cases hhead
  rw [taggedFloat, numeralChars, chars?_map]
  simp only [withoutUnderscores_eq_self hsigns, hlower, bind, Except.bind, htag,
    hword ".nan" (by decide),
    hword ".inf" (by decide), if_false, not_contains_colon hchars, Bool.false_eq_true,
    floatOrFault, Numeral.float?, normalize_eq_self hchars, hsplit, hfloat]
  rfl

end

/-! ## Numbers of JSON -/

theorem ofString_toString_int (n : Int) :
    ofString (toString n) =
      (Json.signText (decide (n < 0)) ++ Nat.toDigits 10 n.natAbs).map .char := by
  rw [ofString, Json.toList_toString_int]

/-- The JSON text of a whole number is that number as a plain scalar. -/
theorem resolve_integer {n : Int} {w : Text} (h : Json.integer n = .ok w) :
    resolve w = intTag := by
  rw [Json.integer] at h
  split at h
  · cases h
    rw [ofString_toString_int]
    exact resolve_whole (wholeDigits_toDigits _)
  · cases h

theorem taggedInt_integer {n : Int} {w : Text} (h : Json.integer n = .ok w) :
    taggedInt w = .ok n := by
  rw [Json.integer] at h
  split at h
  · next hwritable =>
      cases h
      rw [ofString_toString_int,
        taggedInt_digits (wholeDigits_toDigits _) (Json.length_toDigits_le_mostDigits hwritable),
        ofDigits_toDigits, Decimal.signed_natAbs]
  · cases h

/-- A float whose JSON text has a point. -/
def HasPoint (x : Binary64) : Prop := '.' ∈ (x.text Json.number).toList

open Decimal Spelling in
theorem places_ne_nil_of_point {s : Spelling} (h : s.WellFormed) (hpoint : '.' ∈ s.chars) :
    s.places ≠ [] := by
  have hnone {cs : List Char} (hcs : ∀ c ∈ cs, isDigit c = true) : '.' ∉ cs :=
    fun hmem => absurd (hcs _ hmem) (by decide)
  have hpower : '.' ∉ powerText s.power := by
    cases hp : s.power with
    | none => simp [powerText]
    | some p =>
        obtain ⟨minus, digits⟩ := p
        have hdigits := hnone (h.power_digits _ hp)
        cases minus <;> simp [powerText, hdigits]
  intro hplaces
  rw [chars, hplaces, placesText, List.nil_append, List.mem_append] at hpoint
  exact hpoint.elim (hnone h.whole_digits) hpower

theorem exists_spelling_of_hasPoint {x : Binary64} (h : HasPoint x) :
    ∃ negative m e, ∃ hm : Binary64.IsCanonical m e, x = .finite negative m e hm ∧
      ((Decimal.shortest m e).spelling Json.number).places ≠ [] := by
  cases x with
  | nan payload => exact absurd h (by simp [HasPoint, Binary64.text, Json.number])
  | infinity negative =>
    exact absurd h (by cases negative <;> simp [HasPoint, Binary64.text, Json.number])
  | finite negative m e hm =>
      refine ⟨negative, m, e, hm, rfl,
        places_ne_nil_of_point (Decimal.wellFormed_spelling_shortest _ hm) ?_⟩
      rw [HasPoint, Json.toList_text_finite, List.mem_append] at h
      exact h.resolve_left (by cases negative <;> decide)

/-- The JSON text of a float is that float as a plain scalar, if it has a point. -/
theorem resolve_float {x : Binary64} (h : HasPoint x) :
    resolve (ofString (x.text Json.number)) = floatTag := by
  obtain ⟨negative, m, e, hm, rfl, hplaces⟩ := exists_spelling_of_hasPoint h
  rw [ofString, Json.toList_text_finite]
  exact resolve_spelling (Decimal.wellFormed_spelling_shortest Json.number hm) hplaces

theorem taggedFloat_float {x : Binary64} (h : HasPoint x) (payload : Nat) :
    taggedFloat payload (ofString (x.text Json.number)) = .ok x := by
  obtain ⟨negative, m, e, hm, rfl, hplaces⟩ := exists_spelling_of_hasPoint h
  rw [ofString, Json.toList_text_finite,
    taggedFloat_spelling (Decimal.wellFormed_spelling_shortest Json.number hm) hplaces,
    Decimal.ofDecimal_spelling_shortest Json.number hm]
  cases negative <;> rfl

end TerseSchema.Yaml
