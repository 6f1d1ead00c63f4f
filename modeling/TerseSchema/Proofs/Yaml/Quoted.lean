import TerseSchema.Proofs.Json.String
import TerseSchema.Yaml.Scalar.Quoted
/-!
# Quoted scalars

The string of a JSON text is a scalar between double quotes. Each escape that JSON needs is one
here too, with the same meaning; but there are no pairs of surrogates, so the characters that
JSON writes as such are left out.
-/

namespace TerseSchema.Yaml

open TerseSchema.Text Json

/-! ## Places -/

/-- The characters of ASCII that can be seen, and the blank. Each of them takes a column. -/
def isVisible (c : Char) : Bool := 0x20 ≤ c.toNat && c.toNat ≤ 0x7e

theorem not_isBreak_of_isVisible {c : Char} (h : isVisible c = true) : isBreak c = false := by
  rw [Bool.eq_false_iff]
  intro hbreak
  simp only [isBreak, Bool.or_eq_true, decide_eq_true_eq, or_assoc] at hbreak
  rcases hbreak with rfl | rfl | rfl | rfl | rfl <;> exact absurd h (by decide)

namespace Cursor

def past (n : Nat) (rest : List Char) (c : Cursor) : Cursor :=
  { rest, index := c.index + n, line := c.line, column := c.column + n }

variable {c : Cursor} {rest : List Char}

@[simp] theorem rest_past (n : Nat) : (c.past n rest).rest = rest := rfl

@[simp] theorem index_past (n : Nat) : (c.past n rest).index = c.index + n := rfl

@[simp] theorem line_past (n : Nat) : (c.past n rest).line = c.line := rfl

@[simp] theorem past_past (m n : Nat) (other : List Char) :
    (c.past m other).past n rest = c.past (m + n) rest := by
  simp [past, Nat.add_assoc]

theorem next_eq_past {x : Char} (h : c.rest = x :: rest) (hx : isVisible x = true) :
    c.next = c.past 1 rest := by
  have hmark : x ≠ '\ufeff' := by
    rintro rfl
    exact absurd hx (by decide)
  rw [next, h]
  simp [not_isBreak_of_isVisible hx, hmark, past]

theorem skip_eq_past {cs : List Char} (h : c.rest = cs ++ rest)
    (hcs : ∀ x ∈ cs, isVisible x = true) : c.skip cs.length = c.past cs.length rest := by
  induction cs generalizing c with
  | nil =>
      rw [List.nil_append] at h
      rw [List.length_nil, skip, ← h]
      rfl
  | cons x cs ih =>
      rw [List.forall_mem_cons] at hcs
      rw [List.length_cons, skip, next_eq_past h hcs.1, ih rfl hcs.2, past_past, Nat.add_comm]

end Cursor

/-! ## Escapes -/

/-- How JSON writes a code point where all that is not ASCII is escaped. -/
def escaped : CodePoint → List Char
  | .char c => (charEscape? true c).getD [c]
  | .surrogate offset => unitEscape (CodePoint.surrogate offset).code

theorem map_escaped (p : CodePoint) : (escaped p).map .char = Json.escapePoint true p := by
  cases p with
  | char c => cases h : charEscape? true c <;> simp [escaped, Json.escapePoint, h]
  | surrogate offset => rfl

theorem string_eq_map (s : Text) :
    Json.string true s = ('"' :: (s.flatMap escaped ++ ['"'])).map .char := by
  have hbody : (s.flatMap escaped).map CodePoint.char = s.flatMap (Json.escapePoint true) := by
    rw [List.map_flatMap]
    exact congrArg (List.flatMap · s) (funext map_escaped)
  rw [List.map_cons, List.map_append, hbody]
  rfl

theorem isVisible_unitEscape (n : Nat) : ∀ x ∈ unitEscape n, isVisible x = true := by
  have hdigit : ∀ d : Fin 16, isVisible (Nat.digitChar d) = true := by decide
  have hhex : ∀ width n : Nat, ∀ x ∈ hex width n, isVisible x = true := by
    intro width
    induction width with
    | zero => simp [hex]
    | succ width ih =>
        intro n
        rw [hex]
        refine List.forall_mem_append.mpr ⟨ih _, List.forall_mem_singleton.mpr ?_⟩
        exact hdigit ⟨n % 16, Nat.mod_lt n (by decide)⟩
  exact List.forall_mem_cons.mpr ⟨by decide, List.forall_mem_cons.mpr ⟨by decide, hhex 4 n⟩⟩

theorem isVisible_of_charEscape? {c : Char} {e : List Char} (h : charEscape? true c = some e) :
    ∀ x ∈ e, isVisible x = true := by
  simp only [charEscape?] at h
  split_ifs at h <;> cases h <;> try decide
  · exact isVisible_unitEscape _
  · rw [codeEscape]
    split
    · exact isVisible_unitEscape _
    · exact List.forall_mem_append.mpr ⟨isVisible_unitEscape _, isVisible_unitEscape _⟩

theorem isVisible_escaped (p : CodePoint) : ∀ x ∈ escaped p, isVisible x = true := by
  cases p with
  | surrogate offset => exact isVisible_unitEscape _
  | char c =>
      rw [escaped]
      cases h : charEscape? true c with
      | some e => exact isVisible_of_charEscape? h
      | none =>
          simp only [charEscape?] at h
          split_ifs at h with _ _ _ _ _ _ _ hcontrol hascii
          simp only [Bool.true_and, decide_eq_true_eq] at hascii
          simp only [Option.getD_none, List.forall_mem_singleton, isVisible, Bool.and_eq_true,
            decide_eq_true_eq]
          omega

/-- Two halves make up a character beyond the sixteen-bit range. -/
theorem code_of_pair? {high low : CodePoint} {c : Char} (h : pair? high low = some c) :
    0x10000 ≤ c.toNat := by
  cases high <;> cases low <;> simp only [pair?, reduceCtorEq] at h
  next high low =>
    split at h
    · next hhalves =>
        obtain rfl := Option.some.inj h
        have hvalid : (0x10000 + high.val * 0x400 + (low.val - 0x400)).isValidChar := by
          simp only [Nat.isValidChar]
          omega
        rw [Char.ofNat, dif_pos hvalid]
        show 0x10000 ≤ 0x10000 + high.val * 0x400 + (low.val - 0x400)
        omega
    · cases h

/-- A code point within sixteen bits is written as itself, by a short escape or by its number. -/
theorem escaped_cases {p : CodePoint} (hp : p.code < 0x10000) :
    (∃ c, p = .char c ∧ escaped p = [c] ∧ c ≠ '"' ∧ c ≠ '\\') ∨
      (∃ e c, (e, c) ∈ shortEscapes ∧ p = .char c ∧ escaped p = ['\\', e]) ∨
      escaped p = unitEscape p.code := by
  have hchars {cs ds : List Char} : cs.map CodePoint.char = ds.map .char → cs = ds :=
    (List.map_inj_right fun _ _ => CodePoint.char.inj).mp
  have hwritten := written_escapePoint true p
  rw [← map_escaped] at hwritten
  generalize hw : (escaped p).map CodePoint.char = w at hwritten
  cases hwritten with
  | plain hcontrol hquote hslash =>
      obtain ⟨c, hc, rfl⟩ := List.map_eq_singleton_iff.mp hw
      exact .inl ⟨c, rfl, hc, by simpa using hquote, by simpa using hslash⟩
  | @short e c he => exact .inr (.inl ⟨e, c, he, rfl, hchars hw⟩)
  | unit hcode => exact .inr (.inr (hchars hw))
  | pair hpair => exact absurd hp (Nat.not_lt.mpr (code_of_pair? hpair))

/-! ## Reading -/

variable {c : Cursor} {rest : List Char}

theorem quotedText_close (h : c.rest = '"' :: rest) (fuel : Nat) :
    quotedText true (fuel + 1) c = .ok ([], c.past 1 rest) := by
  rw [quotedText.eq_def]
  simp [h, Cursor.next_eq_past h (by decide)]

def prefixed (part : Text) (r : Text × Cursor) : Text × Cursor := (part ++ r.1, r.2)

theorem quotedText_plain {x : Char} (h : c.rest = x :: rest) (hx : isVisible x = true)
    (hquote : x ≠ '"') (hslash : x ≠ '\\') (hblank : x ≠ ' ') (fuel : Nat) :
    quotedText true (fuel + 1) c =
      (quotedText true fuel (c.past 1 rest)).map (prefixed [.char x]) := by
  have htab : x ≠ '\t' := by
    rintro rfl
    exact absurd hx (by decide)
  rw [quotedText.eq_def]
  simp only [h, Bool.not_true, Bool.false_and, Bool.false_eq_true, if_false, hquote,
    hslash, decide_false,
    Bool.and_false, isSpaceOrBreak, isSpace, hblank, htab, Bool.or_self,
    not_isBreak_of_isVisible hx, Cursor.next_eq_past h hx]
  cases quotedText true fuel (c.past 1 rest) <;> rfl

theorem quotedText_escape {part : Text} {after : Cursor} {s : List Char} (h : c.rest = '\\' :: s)
    (hescape : quotedEscape c = .ok (part, after)) (fuel : Nat) :
    quotedText true (fuel + 1) c = (quotedText true fuel after).map (prefixed part) := by
  rw [quotedText.eq_def]
  simp only [h, Bool.not_true, Bool.false_and, Bool.false_eq_true, if_false, Bool.true_and,
    show decide ('\\' = '"') = false by decide, decide_true, if_true, hescape, bind, Except.bind]
  cases quotedText true fuel after <;> rfl

theorem quotedEscape_short {e x : Char} (he : (e, x) ∈ shortEscapes)
    (h : c.rest = '\\' :: e :: rest) : quotedEscape c = .ok ([.char x], c.past 2 rest) := by
  have htable : ∀ p ∈ shortEscapes, shortEscape? p.1 = some p.2 ∧ isVisible p.1 = true := by
    decide
  obtain ⟨hshort, hvisible⟩ := htable _ he
  have hskip := @Cursor.skip_eq_past c rest ['\\', e] h (by simp [hvisible]; decide)
  rw [quotedEscape, h]
  simp only [hshort]
  exact congrArg (fun c => Except.ok ([CodePoint.char x], c)) hskip

theorem quotedEscape_unit {p : CodePoint} (hp : p.code < 0x10000)
    (h : c.rest = unitEscape p.code ++ rest) : quotedEscape c = .ok ([p], c.past 6 rest) := by
  have hskip := Cursor.skip_eq_past h (isVisible_unitEscape _)
  have hlength : (unitEscape p.code).length = 6 := by simp [unitEscape, length_hex]
  have hnumber := hexNumber?_hex 4 0 p.code 0 rest
  rw [Nat.add_zero, Nat.mod_eq_of_lt (show p.code < 16 ^ 4 from hp), Nat.zero_mul, Nat.zero_add,
    hexNumber?] at hnumber
  have hshort : shortEscape? 'u' = none := rfl
  have hwidth : escapeWidth? 'u' = some 4 := rfl
  rw [quotedEscape, h]
  simp only [unitEscape, List.cons_append, hshort, hwidth, hnumber, escapedPoint,
    CodePoint.ofCode?_code]
  rw [hlength] at hskip
  exact congrArg (fun c => Except.ok ([p], c)) hskip

theorem takeWhile_replicate_append {α : Type} {p : α → Bool} {a b : α} (ha : p a = true)
    (hb : p b = false) (n : Nat) (l : List α) :
    (List.replicate n a ++ b :: l).takeWhile p = List.replicate n a := by
  rw [List.takeWhile_append_of_pos (by simp [ha]), List.takeWhile_cons_of_neg (by simp [hb]),
    List.append_nil]

/-- Blanks are read all at once. -/
theorem quotedText_blanks {n : Nat} {x : Char} {s : List Char}
    (h : c.rest = List.replicate (n + 1) ' ' ++ x :: s) (hx : isVisible x = true)
    (hblank : x ≠ ' ') (fuel : Nat) :
    quotedText true (fuel + 1) c =
      (quotedText true fuel (c.past (n + 1) (x :: s))).map
        (prefixed (List.replicate (n + 1) (.char ' '))) := by
  have hspace : isSpace x = false := by
    have htab : x ≠ '\t' := by
      rintro rfl
      exact absurd hx (by decide)
    simp [isSpace, hblank, htab]
  have hskip := Cursor.skip_eq_past h (by simp; decide)
  rw [List.length_replicate] at hskip
  have hgap : quotedGap c = .ok (List.replicate (n + 1) ' ', c.past (n + 1) (x :: s)) := by
    rw [quotedGap, Cursor.span, h, takeWhile_replicate_append (by decide) hspace,
      List.length_replicate, hskip]
    simp [Cursor.atEnd, Cursor.nextIs, not_isBreak_of_isVisible hx]
  have hfirst : c.rest = ' ' :: (List.replicate n ' ' ++ x :: s) := h
  rw [quotedText.eq_def]
  simp only [hfirst, Bool.not_true, Bool.false_and, Bool.false_eq_true, if_false, Bool.true_and,
    show decide (' ' = '"') = false by decide, show decide (' ' = '\\') = false by decide,
    show isSpaceOrBreak ' ' = true by decide, if_true, hgap, bind, Except.bind]
  cases quotedText true fuel (c.past (n + 1) (x :: s)) <;>
    simp [prefixed, Except.map, pure, Except.pure]

/-! ## Strings -/

/-- No code point of a text is beyond the sixteen-bit range. -/
abbrev IsShort (s : Text) : Prop := ∀ p ∈ s, p.code < 0x10000

theorem exists_first_escaped {s : Text} (hs : IsShort s) (hblank : s.head? ≠ some (.char ' '))
    (rest : List Char) :
    ∃ x more, s.flatMap escaped ++ '"' :: rest = x :: more ∧ isVisible x = true ∧ x ≠ ' ' := by
  cases s with
  | nil => exact ⟨'"', rest, rfl, by decide, by decide⟩
  | cons p s =>
      have hvisible := isVisible_escaped p
      rw [List.flatMap_cons, List.append_assoc]
      rcases escaped_cases (hs p List.mem_cons_self) with ⟨c, rfl, hescaped, -⟩ |
        ⟨e, c, -, -, hescaped⟩ | hescaped
      · rw [hescaped] at hvisible ⊢
        exact ⟨c, _, rfl, hvisible c List.mem_cons_self, by simpa using hblank⟩
      all_goals
        rw [hescaped]
        exact ⟨'\\', _, rfl, by decide, by decide⟩

/-- A text as blanks and what comes after them. -/
theorem exists_blanks (s : Text) :
    ∃ n t, s = List.replicate n (.char ' ') ++ t ∧ t.head? ≠ some (.char ' ') := by
  induction s with
  | nil => exact ⟨0, [], rfl, by simp⟩
  | cons p s ih =>
      by_cases hp : p = .char ' '
      · obtain ⟨n, t, rfl, ht⟩ := ih
        exact ⟨n + 1, t, by rw [hp]; rfl, ht⟩
      · exact ⟨0, p :: s, rfl, by simpa using hp⟩

theorem quotedText_escaped {p : CodePoint} (hp : p.code < 0x10000) (hblank : p ≠ .char ' ')
    (h : c.rest = escaped p ++ rest) (fuel : Nat) : quotedText true (fuel + 1) c =
      (quotedText true fuel (c.past (escaped p).length rest)).map (prefixed [p]) := by
  have hvisible := isVisible_escaped p
  rcases escaped_cases hp with ⟨x, rfl, hx, hquote, hslash⟩ | ⟨e, x, he, rfl, hx⟩ | hx
  · rw [hx] at h hvisible ⊢
    exact quotedText_plain h (hvisible x List.mem_cons_self) hquote hslash
      (by simpa using hblank) fuel
  · rw [hx] at h ⊢
    exact quotedText_escape h (quotedEscape_short he h) fuel
  · have hlength : (unitEscape p.code).length = 6 := by simp [unitEscape, length_hex]
    rw [hx] at h ⊢
    rw [hlength]
    exact quotedText_escape h (quotedEscape_unit hp h) fuel

/-- Each step reads a code point, or all blanks up to the next one that is none. -/
theorem exists_quotedText_step {s : Text} (hs : IsShort s) (hnil : s ≠ [])
    (h : c.rest = s.flatMap escaped ++ '"' :: rest) (fuel : Nat) :
    ∃ part t, s = part ++ t ∧ part ≠ [] ∧
      quotedText true (fuel + 1) c = (quotedText true fuel
        (c.past (part.flatMap escaped).length (t.flatMap escaped ++ '"' :: rest))).map
        (prefixed part) := by
  obtain ⟨n, t, rfl, ht⟩ := exists_blanks s
  have hshort : IsShort t := fun p hp => hs p (List.mem_append_right _ hp)
  cases n with
  | succ n =>
      have hblanks : (List.replicate (n + 1) (CodePoint.char ' ')).flatMap escaped =
          List.replicate (n + 1) ' ' := by
        rw [List.flatMap_replicate, show escaped (.char ' ') = [' '] from rfl]
        simp
      obtain ⟨x, more, hfirst, hvisible, hne⟩ := exists_first_escaped hshort ht rest
      rw [List.flatMap_append, List.append_assoc, hblanks, hfirst] at h
      refine ⟨_, t, rfl, by simp, ?_⟩
      rw [hblanks, List.length_replicate, hfirst]
      exact quotedText_blanks h hvisible hne fuel
  | zero =>
      obtain ⟨p, t, rfl⟩ := List.exists_cons_of_ne_nil (show t ≠ [] from hnil)
      refine ⟨[p], t, rfl, by simp, ?_⟩
      rw [List.flatMap_singleton]
      refine quotedText_escaped (hs p List.mem_cons_self) (by simpa using ht) ?_ fuel
      simpa using h

theorem length_le_flatMap_escaped (s : Text) : s.length ≤ (s.flatMap escaped).length := by
  have hpos (p : CodePoint) : 1 ≤ (escaped p).length := by
    have hwritten := (written_escapePoint true p).length_pos
    rwa [← map_escaped, List.length_map] at hwritten
  induction s with
  | nil => exact Nat.le_refl 0
  | cons p s ih =>
      rw [List.flatMap_cons, List.length_append, List.length_cons]
      exact Nat.add_comm .. ▸ Nat.add_le_add (hpos p) ih

/-- What JSON writes between its quotes is read as the text that was written. -/
theorem quotedText_string {s : Text} (hs : IsShort s) {fuel : Nat} (hfuel : s.length < fuel)
    (h : c.rest = s.flatMap escaped ++ '"' :: rest) :
    quotedText true fuel c = .ok (s, c.past ((s.flatMap escaped).length + 1) rest) := by
  induction fuel generalizing s c with
  | zero => cases hfuel
  | succ fuel ih =>
      by_cases hnil : s = []
      · subst hnil
        exact quotedText_close h fuel
      · obtain ⟨part, t, rfl, hpart, hstep⟩ := exists_quotedText_step hs hnil h fuel
        have hpos := List.length_pos_iff.mpr hpart
        rw [List.length_append] at hfuel
        rw [hstep, ih (fun p hp => hs p (List.mem_append_right _ hp)) (by omega) rfl,
          List.flatMap_append, List.length_append]
        simp [Except.map, prefixed, Nat.add_assoc]

theorem quotedScalar_string {s : Text} (hs : IsShort s)
    (h : c.rest = '"' :: (s.flatMap escaped ++ '"' :: rest)) :
    quotedScalar true c = .ok ⟨s, c.past ((s.flatMap escaped).length + 2) rest, false⟩ := by
  have hlength := length_le_flatMap_escaped s
  have hread :=
    @quotedText_string (c.past 1 (s.flatMap escaped ++ '"' :: rest)) rest s hs c.rest.length
      (by rw [h, List.length_cons, List.length_append]; omega) rfl
  rw [quotedScalar, Cursor.next_eq_past h (by decide), hread, Cursor.past_past,
    Nat.add_comm 1, Nat.add_assoc]
  rfl

end TerseSchema.Yaml
