import TerseSchema.Proofs.Text.Digit
import TerseSchema.Yaml.Scalar.Plain
import Mathlib.Data.List.DropRight
import Mathlib.Tactic.Common
/-!
# Plain scalars in flow collections

The words and numbers of a JSON text are plain scalars. Such a scalar ends before the sign that
comes next, and takes the blanks and line breaks before that sign along.
-/

namespace TerseSchema.Yaml

/-! ## Gaps -/

def isGap (c : Char) : Bool := c = ' ' || c = '\n'

def afterGap (s : List Char) : List Char := s.dropWhile isGap

def closers : List Char := [',', ']', '\x7d']

def Closes (s : List Char) : Prop := ∃ x rest, afterGap s = x :: rest ∧ x ∈ closers

theorem closers_plain :
    ∀ x ∈ closers, isGap x = false ∧ isSpaceOrBreak x = false ∧ x ≠ ' ' ∧ isBreak x = false ∧
    x ≠ ':' ∧ isOneOf ",?[]\x7b\x7d" x = true ∧ x ≠ '-' ∧ x ≠ '.' ∧ x ≠ '#' := by
  decide

theorem afterGap_cons {x : Char} (h : isGap x = true) (s : List Char) :
    afterGap (x :: s) = afterGap s :=
  List.dropWhile_cons_of_pos h

theorem afterGap_eq_self {x : Char} (h : isGap x = false) (s : List Char) :
    afterGap (x :: s) = x :: s :=
  List.dropWhile_cons_of_neg (by simp [h])

theorem afterGap_append {g : List Char} (hg : ∀ x ∈ g, isGap x = true) (s : List Char) :
    afterGap (g ++ s) = afterGap s :=
  List.dropWhile_append_of_pos hg

@[simp] theorem afterGap_afterGap (s : List Char) : afterGap (afterGap s) = afterGap s :=
  List.dropWhile_idempotent isGap s

theorem length_afterGap_le (s : List Char) : (afterGap s).length ≤ s.length :=
  (List.dropWhile_sublist isGap).length_le

namespace Closes

variable {s : List Char}

/-- Either the sign comes next, or a gap before it. -/
theorem cases (h : Closes s) : (∃ x rest, s = x :: rest ∧ x ∈ closers) ∨
    (∃ rest, s = ' ' :: rest ∧ Closes rest) ∨ ∃ rest, s = '\n' :: rest ∧ Closes rest := by
  obtain ⟨x, rest, hs, hx⟩ := h
  cases s with
  | nil => cases hs
  | cons y s =>
      by_cases hy : isGap y = true
      · rw [afterGap_cons hy] at hs
        rw [isGap, Bool.or_eq_true, decide_eq_true_eq, decide_eq_true_eq] at hy
        rcases hy with rfl | rfl
        · exact .inr (.inl ⟨s, rfl, x, rest, hs, hx⟩)
        · exact .inr (.inr ⟨s, rfl, x, rest, hs, hx⟩)
      · rw [afterGap_eq_self (by simpa using hy)] at hs
        obtain ⟨rfl, rfl⟩ := List.cons.inj hs
        exact .inl ⟨y, s, rfl, hx⟩

theorem afterGap (h : Closes s) : Closes (afterGap s) := by
  rwa [Closes, afterGap_afterGap]

/-- No separator of documents stands before the sign. -/
theorem not_atSeparator (h : Closes s) : atSeparator s = false := by
  rcases h.cases with ⟨x, rest, rfl, hx⟩ | ⟨rest, rfl, -⟩ | ⟨rest, rfl, -⟩
  · obtain ⟨-, -, -, -, -, -, hdash, hdot, -⟩ := closers_plain x hx
    rw [atSeparator.eq_def]
    split
    · next heq => exact absurd (List.cons.inj heq).1 hdash
    · next heq => exact absurd (List.cons.inj heq).1 hdot
    · rfl
  · rfl
  · rfl

end Closes

/-! ## Places -/

namespace Cursor

variable {c : Cursor} {rest : List Char}

theorem rest_next {x : Char} (h : c.rest = x :: rest) : c.next.rest = rest := by
  rw [next, h]
  simp only
  split_ifs <;> rfl

theorem rest_skip (n : Nat) (c : Cursor) : (c.skip n).rest = c.rest.drop n := by
  induction n generalizing c with
  | zero => rfl
  | succ n ih =>
      rw [skip, ih]
      cases hrest : c.rest with
      | nil => rw [next, hrest]; simp [hrest]
      | cons x rest => rw [rest_next hrest, List.drop_succ_cons]

theorem rest_skipWhile (p : Char → Bool) (c : Cursor) :
    (c.skipWhile p).rest = c.rest.dropWhile p :=
  calc (c.skip (c.rest.takeWhile p).length).rest
      = (c.rest.takeWhile p ++ c.rest.dropWhile p).drop (c.rest.takeWhile p).length := by
        rw [rest_skip, List.takeWhile_append_dropWhile]
    _ = c.rest.dropWhile p := List.drop_left

theorem lineBreak_of_newline (h : c.rest = '\n' :: rest) : c.lineBreak = (['\n'], c.next) := by
  rw [lineBreak.eq_def, h]
  rfl

theorem nextIs_eq {x : Char} (h : c.rest = x :: rest) (p : Char → Bool) : c.nextIs p = p x := by
  rw [nextIs, h]
  rfl

end Cursor

/-! ## Words -/

/-- The characters of numbers, and of the words for nothing and for truth values. -/
def wordSigns : List Char := "0123456789.+-aeflnrstu".toList

theorem wordSigns_plain : ∀ x ∈ wordSigns, isSpaceOrBreak x = false ∧ x ≠ ':' ∧
    isOneOf ",?[]\x7b\x7d" x = false ∧ x ≠ '#' := by
  decide

variable {word rest : List Char} {c : Cursor}

theorem plainWord_of_closes (h : Closes rest) : plainWord true rest = [] := by
  rcases h.cases with ⟨x, rest, rfl, hx⟩ | ⟨rest, rfl, -⟩ | ⟨rest, rfl, -⟩
  · obtain ⟨-, hspace, -, -, hcolon, hsign, -⟩ := closers_plain x hx
    rw [plainWord]
    simp [hspace, hcolon, hsign]
  · rfl
  · rfl

theorem plainWord_append (hword : ∀ x ∈ word, x ∈ wordSigns) (h : Closes rest) :
    plainWord true (word ++ rest) = word := by
  induction word with
  | nil => exact plainWord_of_closes h
  | cons x word ih =>
      rw [List.forall_mem_cons] at hword
      obtain ⟨hspace, hcolon, hsign, -⟩ := wordSigns_plain x hword.1
      rw [List.cons_append, plainWord]
      simp [hspace, hcolon, hsign, ih hword.2]

/-! ## Gaps after words -/

theorem plainBreaks_of_closes (h : Closes c.rest) {fuel : Nat} (hfuel : c.rest.length < fuel) :
    ∃ breaks after, plainBreaks fuel c = (some breaks, after) ∧
    after.rest = afterGap c.rest := by
  induction fuel generalizing c with
  | zero => cases hfuel
  | succ fuel ih =>
      have hstep {x : Char} {rest : List Char} (hrest : c.rest = x :: rest) (hx : isGap x = true)
          (hcloses : Closes rest) :
          ∃ breaks after, plainBreaks fuel c.next = (some breaks, after) ∧
            after.rest = afterGap c.rest := by
        have hnext := Cursor.rest_next hrest
        rw [hrest, List.length_cons] at hfuel
        rw [hrest, afterGap_cons hx, ← hnext]
        exact ih (hnext ▸ hcloses) (by rw [hnext]; omega)
      rw [plainBreaks]
      rcases h.cases with ⟨x, rest, hrest, hx⟩ | ⟨rest, hrest, hcloses⟩ | ⟨rest, hrest, hcloses⟩
      · obtain ⟨hgap, -, hspace, hbreak, -⟩ := closers_plain x hx
        simp only [Cursor.nextIs_eq hrest, hspace, hbreak, decide_false,
          Bool.false_eq_true, if_false]
        exact ⟨[], c, rfl, by rw [hrest, afterGap_eq_self hgap]⟩
      · simp only [Cursor.nextIs_eq hrest, decide_true, if_true]
        exact hstep hrest (by decide) hcloses
      · obtain ⟨breaks, after, hread, hafter⟩ := hstep hrest (by decide) hcloses
        have hseparator : atSeparator c.next.rest = false := by
          rw [Cursor.rest_next hrest]
          exact hcloses.not_atSeparator
        simp only [Cursor.nextIs_eq hrest, show decide ('\n' = ' ') = false by decide,
          show isBreak '\n' = true by decide, Bool.false_eq_true, if_false, if_true,
          Cursor.lineBreak_of_newline hrest, hseparator, hread, Option.map_some]
        exact ⟨_, after, rfl, hafter⟩

theorem afterGap_dropWhile_blanks (s : List Char) :
    afterGap (s.dropWhile (· = ' ')) = afterGap s := by
  have hgap : ∀ x ∈ s.takeWhile (· = ' '), isGap x = true := by
    intro x hx
    have hblank := List.all_eq_true.mp List.all_takeWhile x hx
    rw [isGap, hblank, Bool.true_or]
  calc afterGap (s.dropWhile (· = ' '))
      = afterGap (s.takeWhile (· = ' ') ++ s.dropWhile (· = ' ')) :=
        (afterGap_append hgap _).symm
    _ = afterGap s := by rw [List.takeWhile_append_dropWhile]

theorem plainGap_of_closes (h : Closes c.rest) : (plainGap c).cursor.rest = afterGap c.rest := by
  have hrest := Cursor.rest_skipWhile (· = ' ') c
  have hcloses : Closes (c.skipWhile (· = ' ')).rest := by
    rwa [hrest, Closes, afterGap_dropWhile_blanks]
  have hhead := List.head?_dropWhile_not (· = ' ') c.rest
  rw [← afterGap_dropWhile_blanks c.rest, ← hrest]
  rw [← hrest] at hhead
  rw [plainGap, show c.span (· = ' ') = ((c.span (· = ' ')).1, c.skipWhile (· = ' ')) from rfl]
  simp only
  generalize c.skipWhile (· = ' ') = d at hcloses hhead
  rcases hcloses.cases with ⟨x, rest, hd, hx⟩ | ⟨rest, hd, -⟩ | ⟨rest, hd, hafter⟩
  · obtain ⟨hgap, -, -, hbreak, -⟩ := closers_plain x hx
    simp only [Cursor.nextIs_eq hd, hbreak, Bool.false_eq_true, if_false]
    rw [hd, afterGap_eq_self hgap]
  · simp [hd] at hhead
  · have hnext := Cursor.rest_next hd
    have hseparator : atSeparator d.next.rest = false := by
      rw [hnext]
      exact hafter.not_atSeparator
    obtain ⟨breaks, after, hread, hrest⟩ :=
      @plainBreaks_of_closes d.next (hnext ▸ hafter) (d.next.rest.length + 1)
        (Nat.lt_succ_self _)
    simp only [Cursor.nextIs_eq hd, show isBreak '\n' = true by decide, if_true,
      Cursor.lineBreak_of_newline hd, hseparator, Bool.false_eq_true, if_false, hread]
    rw [hrest, hnext, hd, afterGap_cons (by decide)]

/-- There is no word before a sign. -/
theorem plainWords_of_closer {done : Scanned Char} {x : Char}
    (hdone : done.cursor.rest = x :: rest) (hx : x ∈ closers) (indent : Int) (fuel : Nat)
    (gap : List Char) : plainWords true indent fuel gap done = done := by
  have hgap := (closers_plain x hx).1
  have hword : plainWord true done.cursor.rest = [] :=
    plainWord_of_closes ⟨x, rest, by rw [hdone, afterGap_eq_self hgap], hx⟩
  cases fuel with
  | zero => rfl
  | succ fuel => simp only [plainWords, hword, List.isEmpty_nil, if_true, ite_self]

/-- A word is read up to the gap after it, which is read too. -/
theorem plainScalar_word {indent : Int} (hnil : word ≠ []) (hword : ∀ x ∈ word, x ∈ wordSigns)
    (h : Closes rest) (hc : c.rest = word ++ rest) :
    (plainScalar true indent c).text = word ∧
    (plainScalar true indent c).cursor.rest = afterGap rest := by
  obtain ⟨x, more, hx⟩ := List.exists_cons_of_ne_nil hnil
  have hskip : (c.skip word.length).rest = rest := by rw [Cursor.rest_skip, hc, List.drop_left]
  have hgap := plainGap_of_closes (c := c.skip word.length) (hskip ▸ h)
  rw [hskip] at hgap
  have hfirst := (wordSigns_plain x (hword x (hx ▸ List.mem_cons_self))).2.2.2
  have hstart : c.nextIs (· = '#') = false := by
    rw [Cursor.nextIs_eq (show c.rest = x :: (more ++ rest) by rw [hc, hx]; rfl)]
    exact decide_eq_false hfirst
  obtain ⟨y, others, hclosed, hy⟩ := h
  rw [hclosed] at hgap ⊢
  have hlast :=
    @plainWords_of_closer others { plainGap (c.skip word.length) with text := [] } y
      hgap hy (indent + 1)
  rw [plainScalar, plainWords, hstart, hc, plainWord_append hword ⟨y, others, hclosed, hy⟩]
  simp only [List.isEmpty_eq_false_iff.mpr hnil, hlast, ite_self, List.nil_append,
    List.append_nil, Bool.false_eq_true, if_false, hgap, and_self]

end TerseSchema.Yaml
