import TerseSchema.Proofs.Text.Pattern
import TerseSchema.Yaml.Resolution
/-!
# Tags under other rules

The rules in force are the classic ones without those for truth values and dates, and with one
for six words after them. Rules are tried in order, so it is to be told that no rule takes over
what has been freed: a text that was a date or another word for a truth value is a string, and
all other texts keep their tags.
-/

namespace TerseSchema.Yaml

open TerseSchema.Text Pattern

/-! ## First rules -/

def ScalarRule.applies (r : ScalarRule) (text : Text) : Bool :=
  r.first.contains text.head? && r.pattern.matchesLine text

variable {text : Text} {tag : String} {r : ScalarRule} {rules before after : List ScalarRule}

@[simp] theorem resolveWith_nil (text : Text) : resolveWith [] text = strTag := rfl

theorem resolveWith_cons (r : ScalarRule) (rules : List ScalarRule) (text : Text) :
    resolveWith (r :: rules) text = if r.applies text then r.tag
      else resolveWith rules text := by
  rw [resolveWith, List.find?_cons, ← ScalarRule.applies]
  cases r.applies text <;> rfl

theorem resolveWith_append (before after : List ScalarRule) (text : Text)
    (hbefore : ∀ r ∈ before, r.applies text = false) :
    resolveWith (before ++ after) text = resolveWith after text := by
  induction before with
  | nil => rfl
  | cons r before ih =>
      rw [List.forall_mem_cons] at hbefore
      rw [List.cons_append, resolveWith_cons, hbefore.1, ih hbefore.2]
      rfl

/-- A text to which no rule applies is a string. -/
theorem resolveWith_eq_strTag (h : ∀ r ∈ rules, r.applies text = false) :
    resolveWith rules text = strTag := by
  simpa using resolveWith_append rules [] text h

/-- A tag that none of the first rules has is told by the later ones. -/
theorem not_applies_of_resolveWith (htag : ∀ r ∈ before, r.tag ≠ tag)
    (h : resolveWith (before ++ after) text = tag) : ∀ r ∈ before, r.applies text = false := by
  induction before with
  | nil => simp
  | cons r before ih =>
      rw [List.forall_mem_cons] at htag ⊢
      rw [List.cons_append, resolveWith_cons] at h
      cases happlies : r.applies text with
      | true => exact absurd (by rwa [happlies, if_pos rfl] at h) htag.1
      | false =>
          rw [happlies, if_neg Bool.false_ne_true] at h
          exact ⟨rfl, ih htag.2 h⟩

/-- Rules with other tags can be left out. -/
theorem resolveWith_filter (keep : ScalarRule → Bool)
    (htag : ∀ r ∈ rules, r.tag = resolveWith rules text → keep r = true) :
    resolveWith (rules.filter keep) text = resolveWith rules text := by
  induction rules with
  | nil => rfl
  | cons r rules ih =>
      rw [List.forall_mem_cons] at htag
      rw [resolveWith_cons] at htag ⊢
      cases happlies : r.applies text with
      | true =>
          rw [happlies, if_pos rfl] at htag
          rw [List.filter_cons_of_pos (htag.1 rfl), resolveWith_cons, happlies]
          rfl
      | false =>
          rw [happlies, if_neg Bool.false_ne_true] at htag
          rw [if_neg Bool.false_ne_true, ← ih htag.2, List.filter_cons]
          split
          · rw [resolveWith_cons, happlies, if_neg Bool.false_ne_true]
          · rfl

/-- A further rule makes no difference to a text to which it does not apply. -/
theorem resolveWith_concat (h : r.applies text = false) :
    resolveWith (rules ++ [r]) text = resolveWith rules text := by
  induction rules with
  | nil => rw [List.nil_append, resolveWith_cons, h]; rfl
  | cons first rules ih => rw [List.cons_append, resolveWith_cons, resolveWith_cons, ih]

/-- A tag that is not the one of strings is that of a rule which applies. -/
theorem exists_rule_of_resolveWith (h : resolveWith rules text = tag) (hstr : tag ≠ strTag) :
    ∃ r ∈ rules, r.applies text = true ∧ r.tag = tag := by
  induction rules with
  | nil => exact absurd h.symm hstr
  | cons r rules ih =>
      rw [resolveWith_cons] at h
      split at h
      · next happlies => exact ⟨r, List.mem_cons_self, happlies, h⟩
      · exact (ih h).imp fun _ hs => ⟨List.mem_cons_of_mem r hs.1, hs.2⟩

/-- If the rules with a tag look for words, only these words have the tag. -/
theorem mem_words_of_resolveWith {ws : List String}
    (hpattern : ∀ r ∈ rules, r.tag = tag → r.pattern = words ws) (hstr : tag ≠ strTag)
    (hline : text.getLast? ≠ some (.char '\n')) (h : resolveWith rules text = tag) :
    text ∈ ws.map ofString := by
  obtain ⟨r, hr, happlies, htag⟩ := exists_rule_of_resolveWith h hstr
  rw [ScalarRule.applies, Bool.and_eq_true, hpattern r hr htag] at happlies
  exact matches_words_iff.mp ((matchesLine_iff hline).mp happlies.2)

/-! ## Truth values -/

def truthWords : List Text := ["true", "True", "TRUE", "false", "False", "FALSE"]

/-- The words for truth values under the classic rules. -/
def classicTruthWords : List Text :=
  ["yes", "Yes", "YES", "no", "No", "NO", "true", "True", "TRUE", "false",
    "False", "FALSE", "on", "On", "ON", "off", "Off", "OFF"]

theorem resolve_eq_boolTag_iff (hline : text.getLast? ≠ some (.char '\n')) :
    resolve text = boolTag ↔ text ∈ truthWords := by
  have hwords : ∀ word ∈ truthWords, resolve word = boolTag := by decide
  have hpattern : ∀ r ∈ scalarRules, r.tag = boolTag →
      r.pattern = words ["true", "True", "TRUE", "false", "False", "FALSE"] := by decide
  exact ⟨mem_words_of_resolveWith hpattern (by decide) hline, hwords text⟩

theorem resolveWith_classicRules_eq_boolTag_iff (hline : text.getLast? ≠ some (.char '\n')) :
    resolveWith classicRules text = boolTag ↔ text ∈ classicTruthWords := by
  have hwords : ∀ word ∈ classicTruthWords, resolveWith classicRules word = boolTag := by decide
  have hpattern :
      ∀ r ∈ classicRules, r.tag = boolTag → r.pattern = words ["yes", "Yes", "YES", "no", "No",
        "NO", "true", "True", "TRUE", "false", "False", "FALSE", "on", "On", "ON", "off", "Off",
        "OFF"] := by decide
  exact ⟨mem_words_of_resolveWith hpattern (by decide) hline, hwords text⟩

/-- The other words for truth values are strings. -/
theorem resolve_of_classicTruthWord :
    ∀ word ∈ classicTruthWords, word ∉ truthWords → resolve word = strTag := by
  decide

/-! ## Dates -/

theorem resolve_ne_timestampTag (text : Text) : resolve text ≠ timestampTag := by
  have htags : ∀ r ∈ scalarRules, r.tag ≠ timestampTag := by decide
  intro h
  obtain ⟨r, hr, -, htag⟩ := exists_rule_of_resolveWith h (by decide)
  exact htags r hr htag

/-- The rules before the one for dates do not apply to a date, and those after it
look for other signs. -/
theorem resolve_of_timestamp (h : resolveWith classicRules text = timestampTag) :
    resolve text = strTag := by
  have hclassic : classicRules = classicRules.take 5 ++ classicRules.drop 5 :=
    (List.take_append_drop 5 classicRules).symm
  have htags : ∀ r ∈ classicRules.take 5, r.tag ≠ timestampTag := by decide
  have hearly := not_applies_of_resolveWith htags (hclassic ▸ h)
  obtain ⟨r, hr, happlies, htag⟩ := exists_rule_of_resolveWith h (by decide)
  have hfirst :
      ∀ r ∈ classicRules, r.tag = timestampTag → r.first = startingWith "0123456789" := by decide
  rw [ScalarRule.applies, Bool.and_eq_true, hfirst r hr htag] at happlies
  have hrules :
      scalarRules = (classicRules.take 5).drop 1 ++ (classicRules.drop 6 ++ [boolRule]) := rfl
  have hlate : ∀ r ∈ classicRules.drop 6 ++ [boolRule], ∀ c ∈ startingWith "0123456789",
      r.first.contains c = false := by decide
  rw [resolve, hrules, resolveWith_append _ _ _ fun r hr => hearly r (List.mem_of_mem_drop hr)]
  refine resolveWith_eq_strTag fun r hr => ?_
  rw [ScalarRule.applies, hlate r hr _ (List.contains_iff_mem.mp happlies.1), Bool.false_and]

/-! ## Main statement -/

/-- Only the six words are truth values and nothing is a date; dates and the other words for
truth values are strings, and all other texts have the tags of the classic rules. -/
theorem resolve_of_classic {text : Text} (hline : text.getLast? ≠ some (.char '\n')) :
    (resolve text = boolTag ↔ text ∈ truthWords) ∧ resolve text ≠ timestampTag ∧
    (resolveWith classicRules text = timestampTag → resolve text = strTag) ∧
    (resolveWith classicRules text = boolTag → text ∉ truthWords → resolve text = strTag) ∧
    (resolveWith classicRules text ≠ timestampTag → resolveWith classicRules text ≠ boolTag →
      resolve text = resolveWith classicRules text) := by
  have hclassic := resolveWith_classicRules_eq_boolTag_iff hline
  refine ⟨resolve_eq_boolTag_iff hline, resolve_ne_timestampTag text, resolve_of_timestamp,
    fun hbool => resolve_of_classicTruthWord text (hclassic.mp hbool),
    fun htimestamp hbool => ?_⟩
  -- The last rule looks for words that were truth values before.
  have hwords : boolRule.applies text = false := by
    have hmem : ∀ word ∈ truthWords, word ∈ classicTruthWords := by decide
    rw [Bool.eq_false_iff, ScalarRule.applies, Ne, Bool.and_eq_true]
    rintro ⟨-, hmatches⟩
    have hword : text ∈ truthWords := matches_words_iff.mp ((matchesLine_iff hline).mp hmatches)
    exact hbool (hclassic.mpr (hmem text hword))
  rw [resolve, scalarRules, resolveWith_concat hwords, resolveWith_filter]
  intro r _ htag
  simp [htag, hbool, htimestamp]

theorem resolve_of_classic_samples :
    resolveWith classicRules "2024-01-01" = timestampTag ∧ resolve "2024-01-01" = strTag ∧
    resolveWith classicRules "off" = boolTag ∧ resolve "off" = strTag ∧
    resolveWith classicRules "1:30" = intTag ∧ resolve "1:30" = intTag := by
  have hdate : resolveWith classicRules "2024-01-01" = timestampTag := by decide
  have hword : resolveWith classicRules "off" = boolTag := by decide
  have hnumber : resolveWith classicRules "1:30" = intTag := by decide
  obtain ⟨-, -, hstr, -, -⟩ := @resolve_of_classic "2024-01-01" (by decide)
  obtain ⟨-, -, -, hother, -⟩ := @resolve_of_classic "off" (by decide)
  obtain ⟨-, -, -, -, hsame⟩ := @resolve_of_classic "1:30" (by decide)
  refine ⟨hdate, hstr hdate, hword, hother hword (by decide), hnumber, ?_⟩
  rw [hsame (by rw [hnumber]; decide) (by rw [hnumber]; decide), hnumber]

end TerseSchema.Yaml
