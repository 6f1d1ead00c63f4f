import TerseSchema.Text.Blank
import Mathlib.Data.List.DropRight
/-!
# Cutting texts

What the parts of a cut text are in terms of the text itself.
-/

namespace TerseSchema.Text

variable {α : Type} [DecidableEq α]

theorem splitAtFirst_fst (c : α) (l : List α) :
    (splitAtFirst c l).1 = l.takeWhile (· ≠ c) := by
  induction l with
  | nil => rfl
  | cons x l ih =>
      by_cases hx : x = c
      · simp [splitAtFirst, hx]
      · simp [splitAtFirst, hx, ih]

theorem not_mem_splitAtFirst (c : α) (l : List α) : c ∉ (splitAtFirst c l).1 := by
  rw [splitAtFirst_fst]
  intro h
  have hne := List.mem_takeWhile_imp h
  simp at hne

theorem splitAtFirst_of_not_mem {c : α} {l : List α} (h : c ∉ l) :
    splitAtFirst c l = (l, none) := by
  induction l with
  | nil => rfl
  | cons x l ih =>
      rw [List.mem_cons, not_or] at h
      rw [splitAtFirst, if_neg (Ne.symm h.1), ih h.2]

theorem splitAtFirst_append {c : α} {before : List α} (h : c ∉ before) (after : List α) :
    splitAtFirst c (before ++ c :: after) = (before, some after) := by
  induction before with
  | nil => simp [splitAtFirst]
  | cons x before ih =>
      rw [List.mem_cons, not_or] at h
      rw [List.cons_append, splitAtFirst, if_neg (Ne.symm h.1), ih h.2]

/-- A list is cut in two where the element is in it, and is left as it is where it is not. -/
theorem splitAtFirst_cases (c : α) (l : List α) :
    (c ∉ l ∧ splitAtFirst c l = (l, none)) ∨
      ∃ before after, c ∉ before ∧ l = before ++ c :: after ∧
        splitAtFirst c l = (before, some after) := by
  by_cases hmem : c ∈ l
  · obtain ⟨before, after, rfl, hbefore⟩ := List.eq_append_cons_of_mem hmem
    exact .inr ⟨before, after, hbefore, rfl, splitAtFirst_append hbefore after⟩
  · exact .inl ⟨hmem, splitAtFirst_of_not_mem hmem⟩

/-! ## Ends -/

theorem eq_false_of_mem_getLast?_dropEndWhile {β : Type} {p : β → Bool} {l : List β} {a : β}
    (h : a ∈ (dropEndWhile p l).getLast?) : p a = false := by
  rw [dropEndWhile, List.getLast?_reverse] at h
  have hfirst := List.head?_dropWhile_not p l.reverse
  rw [Option.mem_def] at h
  rw [h] at hfirst
  simpa using hfirst

theorem prefix_dropEndWhile {β : Type} (p : β → Bool) (l : List β) : dropEndWhile p l <+: l :=
  List.rdropWhile_prefix p l

theorem dropEndWhile_of_getLast? {β : Type} {p : β → Bool} {l : List β}
    (h : ∀ a ∈ l.getLast?, p a = false) : dropEndWhile p l = l := by
  refine List.rdropWhile_eq_self_iff.mpr fun hne => ?_
  rw [h _ (List.getLast?_eq_getLast_of_ne_nil hne)]
  exact Bool.false_ne_true

theorem dropEndWhile_append {β : Type} {p : β → Bool} (l : List β) {dropped : List β}
    (h : ∀ a ∈ dropped, p a = true) : dropEndWhile p (l ++ dropped) = dropEndWhile p l := by
  rw [dropEndWhile, List.reverse_append,
    List.dropWhile_append_of_pos fun a ha => h a (List.mem_reverse.mp ha), dropEndWhile]

/-- Nothing is dropped from in front of an element that stays. -/
theorem dropEndWhile_append_cons {β : Type} {p : β → Bool} {a : β} (h : p a = false)
    (before after : List β) :
    dropEndWhile p (before ++ a :: after) = before ++ a :: dropEndWhile p after := by
  induction after using List.reverseRecOn with
  | nil => exact dropEndWhile_of_getLast? (by simpa using h)
  | append_singleton after b ih =>
      by_cases hb : p b = true
      · have hdropped : ∀ c ∈ [b], p c = true := by simpa using hb
        rw [← List.cons_append, ← List.append_assoc, dropEndWhile_append _ hdropped, ih,
          dropEndWhile_append _ hdropped]
      · have hlast : ∀ l : List β, dropEndWhile p (l ++ [b]) = l ++ [b] :=
          fun l => dropEndWhile_of_getLast? (by simpa using hb)
        rw [← List.cons_append, ← List.append_assoc, hlast, hlast, List.append_assoc,
          List.cons_append]

theorem exists_dropEndWhile_append {β : Type} (p : β → Bool) (l : List β) :
    ∃ dropped, l = dropEndWhile p l ++ dropped ∧ ∀ a ∈ dropped, p a = true := by
  refine ⟨(l.reverse.takeWhile p).reverse, ?_, fun a ha => ?_⟩
  · rw [dropEndWhile, ← List.reverse_append, List.takeWhile_append_dropWhile,
      List.reverse_reverse]
  · exact List.mem_takeWhile_imp (List.mem_reverse.mp ha)

structure IsTrimmed (s : Text) : Prop where
  first : ∀ a ∈ s.head?, a.any isBlank = false
  last : ∀ a ∈ s.getLast?, a.any isBlank = false

theorem isTrimmed_nil : IsTrimmed [] := ⟨by simp, by simp⟩

theorem isTrimmed_strip (s : Text) : IsTrimmed (strip s) := by
  refine ⟨fun a ha => ?_, fun a ha => eq_false_of_mem_getLast?_dropEndWhile ha⟩
  -- What is left keeps its first code point when blanks are dropped from its end.
  have hfirst := List.head?_dropWhile_not (CodePoint.any isBlank) s
  obtain ⟨dropped, happ⟩ :=
    prefix_dropEndWhile (CodePoint.any isBlank) (s.dropWhile (CodePoint.any isBlank))
  rw [← happ, List.head?_append, ← strip, Option.mem_def.mp ha] at hfirst
  simpa using hfirst

end TerseSchema.Text
