import TerseSchema.Proofs.Shorthand.Shape
/-!
# Spellings of property keys

Which texts spell a property key, one form of text for each form of key. Every text spells a key,
and decoding finds it: a closing parenthesis may be missing or repeated, and a wildcard may stand
without parentheses, but no text has two readings.
-/

namespace TerseSchema.Shorthand.PropertyKey

open TerseSchema.Text

/-! ## The grammar -/

def baseText (name : Text) (optional : Bool) : Text := if optional then name ++ "?" else name

def closers (count : Nat) : Text := List.replicate count (.char ')')

/-- The names of keys. No name holds a parenthesis, and one that ends in a
question mark is optional. -/
structure IsName (name : Text) (optional : Bool) : Prop where
  noParenthesis : .char '(' ∉ name
  noMark : optional = false → name.getLast? ≠ some (.char '?')

/-- The texts that spell a key. -/
inductive Spells : Text → PropertyKey → Prop where
  | bare {name : Text} {optional : Bool} (hname : IsName name optional)
      (hwildcard : baseText name optional ≠ wildcard) :
      Spells (baseText name optional) { name, optional }
  | wildcard : Spells wildcard { name := [], modifier := some wildcard }
  | modified {name modifier : Text} {optional : Bool} (hname : IsName name optional)
      (hcomma : .char ',' ∉ modifier)
      (hlast : modifier.getLast? ≠ some (.char ')')) (count : Nat) :
      Spells (baseText name optional ++ "(" ++ modifier ++ closers count)
        { name, optional, modifier := some modifier }
  | described {name modifier : Text} {optional : Bool} (hname : IsName name optional)
      (hcomma : .char ',' ∉ modifier) (description : Text) (count : Nat) :
      Spells (baseText name optional ++ "(" ++ modifier ++ "," ++ description ++ closers count)
        { name, optional, modifier := some modifier
          description := some (strip (dropEndWhile (· = .char ')') description)) }

/-- What is true of every key that a text spells. -/
structure IsSpelled (key : PropertyKey) : Prop where
  name : IsName key.name key.optional
  description : key.modifier = none → key.description = none
  modifier : ∀ modifier, key.modifier = some modifier → .char ',' ∉ modifier
  lastOfModifier : ∀ modifier, key.modifier = some modifier → key.description = none →
    modifier.getLast? ≠ some (.char ')')
  trimmed : ∀ description, key.description = some description → IsTrimmed description

/-! ## Names -/

theorem isName_nil : IsName [] false := ⟨by simp, by simp⟩

theorem not_mem_baseText {name : Text} {optional : Bool} (h : IsName name optional) :
    .char '(' ∉ baseText name optional := by
  cases optional with
  | false => exact h.noParenthesis
  | true =>
      rw [baseText, if_pos rfl, List.mem_append]
      rintro (hmem | hmem)
      · exact h.noParenthesis hmem
      · exact absurd hmem (by decide)

theorem ofBase_baseText {name : Text} {optional : Bool} (h : IsName name optional) :
    ofBase (baseText name optional) = { name, optional } := by
  cases optional with
  | false => rw [baseText, if_neg Bool.false_ne_true, ofBase, if_neg (h.noMark rfl)]
  | true =>
      have hmark : (name ++ ("?" : Text)).getLast? = some (.char '?') := List.getLast?_concat
      have hname : (name ++ ("?" : Text)).dropLast = name := List.dropLast_concat
      rw [baseText, if_pos rfl, ofBase, if_pos hmark, hname]

/-- Every text without a parenthesis is a name, as it stands or in front of a question mark. -/
theorem exists_baseText {base : Text} (hopen : .char '(' ∉ base) :
    ∃ name optional, IsName name optional ∧ base = baseText name optional := by
  by_cases hmark : base.getLast? = some (.char '?')
  · refine ⟨base.dropLast, true,
      ⟨fun hmem => hopen (List.dropLast_subset base hmem), by simp⟩, ?_⟩
    exact (List.dropLast_append_getLast? (CodePoint.char '?') hmark).symm
  · exact ⟨base, false, ⟨hopen, fun _ => hmark⟩, rfl⟩

/-! ## Parentheses -/

theorem dropEndWhile_closers (text : Text) (count : Nat) :
    dropEndWhile (· = .char ')') (text ++ closers count) = dropEndWhile (· = .char ')') text :=
  dropEndWhile_append text fun _ ha => decide_eq_true (List.eq_of_mem_replicate ha)

/-- Every text is one that does not end in a closing parenthesis, and such parentheses. -/
theorem exists_closers (text : Text) :
    ∃ kept count, kept.getLast? ≠ some (.char ')') ∧ text = kept ++ closers count := by
  obtain ⟨dropped, hsplit, hdropped⟩ := exists_dropEndWhile_append (· = .char ')') text
  have hclosers : dropped = closers dropped.length :=
    List.eq_replicate_of_mem fun a ha => of_decide_eq_true (hdropped a ha)
  refine ⟨_, dropped.length, fun hlast => ?_, hclosers ▸ hsplit⟩
  simpa using eq_false_of_mem_getLast?_dropEndWhile hlast

theorem dropEndWhile_of_last {text : Text} (h : text.getLast? ≠ some (.char ')')) :
    dropEndWhile (· = .char ')') text = text := by
  refine dropEndWhile_of_getLast? fun a ha => decide_eq_false ?_
  rintro rfl
  exact h ha

/-! ## Decoding -/

theorem decode_of_not_mem {text : Text} (hopen : .char '(' ∉ text)
    (hwildcard : text ≠ wildcard) : decode text = ofBase text := by
  rw [decode, if_neg hwildcard, splitAtFirst_of_not_mem hopen]

theorem decode_of_open {base : Text} (hopen : .char '(' ∉ base) (inner : Text) :
    decode (base ++ .char '(' :: inner) = (ofBase base).withParenthetical inner := by
  have hwildcard : base ++ .char '(' :: inner ≠ wildcard := by
    intro heq
    have hmem : CodePoint.char '(' ∈ wildcard := heq ▸ by simp
    exact absurd hmem (by decide)
  rw [decode, if_neg hwildcard, splitAtFirst_append hopen]

theorem decode_of_spells {text : Text} {key : PropertyKey} (h : Spells text key) :
    decode text = key := by
  cases h with
  | bare hname hwildcard =>
    rw [decode_of_not_mem (not_mem_baseText hname) hwildcard, ofBase_baseText hname]
  | wildcard => rfl
  | @modified name modifier optional hname hcomma hlast count =>
      have htext : baseText name optional ++ "(" ++ modifier ++ closers count =
          baseText name optional ++ .char '(' :: (modifier ++ closers count) := by
        simp [ofString]
      rw [htext, decode_of_open (not_mem_baseText hname), ofBase_baseText hname,
        withParenthetical,
        dropEndWhile_closers, dropEndWhile_of_last hlast, splitAtFirst_of_not_mem hcomma]
      rfl
  | @described name modifier optional hname hcomma description count =>
      have htext :
          baseText name optional ++ "(" ++ modifier ++ "," ++ description ++ closers count =
          baseText name optional ++ .char '(' ::
            (modifier ++ .char ',' :: description ++ closers count) := by
        simp [ofString]
      rw [htext, decode_of_open (not_mem_baseText hname), ofBase_baseText hname,
        withParenthetical,
        dropEndWhile_closers, dropEndWhile_append_cons (by decide), splitAtFirst_append hcomma]
      rfl

/-- What stands in parentheses, with all that follows the closing ones dropped, is a modifier
alone or a modifier and a description. -/
theorem exists_spells_of_open {name inner : Text} {optional : Bool}
    (hname : IsName name optional) :
    ∃ key, Spells (baseText name optional ++ .char '(' :: inner) key := by
  obtain ⟨kept, count, hlast, rfl⟩ := exists_closers inner
  rcases splitAtFirst_cases (.char ',') kept with
    ⟨hcomma, -⟩ | ⟨modifier, description, hcomma, rfl, -⟩
  · have hspells := Spells.modified hname hcomma hlast count
    exact ⟨_, by simpa [ofString] using hspells⟩
  · have hspells := Spells.described hname hcomma description count
    exact ⟨_, by simpa [ofString] using hspells⟩

/-- Every text spells a key. -/
theorem exists_spells (text : Text) : ∃ key, Spells text key := by
  by_cases hwildcard : text = wildcard
  · subst hwildcard
    exact ⟨_, .wildcard⟩
  rcases splitAtFirst_cases (.char '(') text with ⟨hopen, -⟩ | ⟨base, inner, hopen, rfl, -⟩
  · obtain ⟨name, optional, hname, rfl⟩ := exists_baseText hopen
    exact ⟨_, .bare hname hwildcard⟩
  · obtain ⟨name, optional, hname, rfl⟩ := exists_baseText hopen
    exact exists_spells_of_open hname

theorem isSpelled_of_spells {text : Text} {key : PropertyKey} (h : Spells text key) :
    key.IsSpelled := by
  cases h with
  | bare hname hwildcard => exact ⟨hname, fun _ => rfl, by simp, by simp, by simp⟩
  | wildcard =>
      have hstar :
          CodePoint.char ',' ∉ wildcard ∧ wildcard.getLast? ≠ some (.char ')') := by decide
      exact ⟨isName_nil, by simp, by simpa using hstar.1, by simpa using hstar.2, by simp⟩
  | modified hname hcomma hlast count =>
    exact ⟨hname, by simp, by simpa using hcomma, by simpa using hlast, by simp⟩
  | described hname hcomma description count =>
      refine ⟨hname, by simp, by simpa using hcomma, by simp, ?_⟩
      rintro _ ⟨⟩
      exact isTrimmed_strip _

/-- A text is decoded to the key that it spells, and to no other; what comes of it has the marks
of such a key. A wildcard is the same with parentheses and without them. -/
theorem decode_eq_iff_spells (text : Text) :
    (∀ key, decode text = key ↔ Spells text key) ∧ (decode text).IsSpelled ∧
      decode wildcard = decode "(*)" := by
  obtain ⟨spelled, hspells⟩ := exists_spells text
  have hdecode := decode_of_spells hspells
  refine ⟨fun key => ⟨?_, decode_of_spells⟩, hdecode ▸ isSpelled_of_spells hspells, rfl⟩
  rintro rfl
  rwa [hdecode]

example : decode "color?(enum, (dark) colors ))" =
    { name := "color", optional := true, modifier := some "enum",
      description := some "(dark) colors" } := by
  decide

end TerseSchema.Shorthand.PropertyKey
