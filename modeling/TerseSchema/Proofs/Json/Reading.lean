import TerseSchema.Proofs.Json.Number
import TerseSchema.Proofs.Json.String
import TerseSchema.Proofs.Outcome
import TerseSchema.Proofs.Value.Parts
import TerseSchema.Proofs.Value.Texts
/-!
# JSON text read back

Writing and reading go together step by step: a value has a text exactly when it has a plain
value, the text is read as the plain value, and a value that has neither has one fault for both.
-/

namespace TerseSchema.Json

open TerseSchema.Text

/-- Whether a text is read as a value, whatever follows it but more of a number. -/
structure Reads (w : Text) (x : Value) : Prop where
  /-- Neither blank nor the end of a list comes first. -/
  starts : ∃ c s, w = .char c :: s ∧ isSpace c = false ∧ c ≠ ']'
  /-- Each step into a value takes two of the fuel. -/
  value : ∀ fuel rest, 2 * w.length ≤ fuel → NotNext isNumeric rest →
    value fuel (w ++ rest) = .ok (x, rest)

/-! ## Spaces -/

def AllSpaces (s : Text) : Prop := ∀ p ∈ s, CodePoint.any isSpace p = true

theorem skipSpaces_append {s rest : Text} (h : AllSpaces s) :
    skipSpaces (s ++ rest) = skipSpaces rest := by
  rw [skipSpaces, skipSpaces, List.dropWhile_append_of_pos h]

theorem skipSpaces_char {c : Char} {s : Text} (h : isSpace c = false) :
    skipSpaces (.char c :: s) = .char c :: s := by
  rw [skipSpaces, List.dropWhile_cons_of_neg]
  simp [CodePoint.any, h]

theorem value_append_spaces {s rest : Text} (h : AllSpaces s) (fuel : Nat) :
    Json.value fuel (s ++ rest) = Json.value fuel rest := by
  cases fuel with
  | zero => rfl
  | succ fuel => rw [Json.value, Json.value, skipSpaces_append h]

theorem notNext_append {s rest : Text} (hs : AllSpaces s) (hrest : NotNext isNumeric rest) :
    NotNext isNumeric (s ++ rest) := by
  cases s with
  | nil => exact hrest
  | cons p s =>
      rintro c ⟨⟩
      have hspace := hs _ List.mem_cons_self
      simp only [CodePoint.any, isSpace, Bool.or_eq_true, decide_eq_true_eq, or_assoc] at hspace
      rcases hspace with rfl | rfl | rfl | rfl <;> rfl

/-! ## Scalars -/

theorem value_scalar {c : Char} {s : Text} (hspace : isSpace c = false) (hlist : c ≠ '[')
    (hmap : c ≠ '\x7b') (fuel : Nat) :
    Json.value (fuel + 1) (.char c :: s) = scalar (.char c :: s) := by
  rw [Json.value, skipSpaces_char hspace]
  split
  · next heq => exact absurd (CodePoint.char.inj (List.cons.inj heq).1) hlist
  · next heq => exact absurd (CodePoint.char.inj (List.cons.inj heq).1) hmap
  · rfl

theorem Reads.ofScalar {w : Text} {x : Value}
    (hstarts : ∃ c s, w = .char c :: s ∧ isSpace c = false ∧ c ≠ '[' ∧ c ≠ '\x7b' ∧ c ≠ ']')
    (hscalar : ∀ rest, NotNext isNumeric rest → scalar (w ++ rest) = .ok (x, rest)) :
    Reads w x := by
  obtain ⟨c, s, rfl, hspace, hlist, hmap, hend⟩ := hstarts
  refine ⟨⟨c, s, rfl, hspace, hend⟩, fun fuel rest hfuel hrest => ?_⟩
  rw [List.length_cons] at hfuel
  obtain ⟨fuel, rfl⟩ := Nat.exists_eq_add_one_of_ne_zero (show fuel ≠ 0 by omega)
  rw [List.cons_append, value_scalar hspace hlist hmap]
  exact hscalar rest hrest

theorem reads_null : Reads "null" .null :=
  .ofScalar ⟨'n', "ull", rfl, by decide⟩ fun rest _ => by
    simp [ofString, scalar, words, afterWord?]

theorem reads_bool (b : Bool) : Reads (if b then "true" else "false") (.bool b) := by
  cases b
  · exact .ofScalar ⟨'f', "alse", rfl, by decide⟩ fun rest _ => by
      simp [ofString, scalar, words, afterWord?]
  · exact .ofScalar ⟨'t', "rue", rfl, by decide⟩ fun rest _ => by
      simp [ofString, scalar, words, afterWord?]

theorem reads_string (ascii : Bool) (s : Text) :
    Reads (string ascii s) (.text (denoted ascii s)) := by
  have hstring : string ascii s = .char '"' :: (s.flatMap (escapePoint ascii) ++ [.char '"']) :=
    rfl
  refine .ofScalar ⟨'"', _, hstring, by decide⟩ fun rest _ => ?_
  rw [hstring, List.cons_append, List.append_assoc, List.singleton_append]
  have hread := stringAfterQuote_string ascii s rest
  simp [scalar, words, afterWord?, hread]

/-- A number starts with its sign or a digit. -/
theorem starts_sign {negative : Bool} {digits : List Char} (hnil : digits ≠ [])
    (hdigits : ∀ c ∈ digits, isDigit c = true) (more : List Char) :
    ∃ c s, ((signText negative ++ (digits ++ more)).map .char : Text) = .char c :: s ∧
      isSpace c = false ∧ c ≠ '[' ∧ c ≠ '\x7b' ∧ c ≠ ']' := by
  obtain ⟨c, cs, rfl⟩ := List.exists_cons_of_ne_nil hnil
  have hc := hdigits c List.mem_cons_self
  cases negative with
  | true => exact ⟨'-', _, rfl, by decide⟩
  | false =>
      refine ⟨c, _, rfl, ?_, ?_, ?_, ?_⟩
      · rw [Bool.eq_false_iff]
        intro hspace
        simp only [isSpace, Bool.or_eq_true, decide_eq_true_eq, or_assoc] at hspace
        rcases hspace with rfl | rfl | rfl | rfl <;> exact absurd hc (by decide)
      all_goals
        rintro rfl
        exact absurd hc (by decide)

theorem reads_integer {n : Int} {w : Text} (h : integer n = .ok w) : Reads w (.int n) := by
  refine .ofScalar ?_ fun rest => scalar_integer h
  rw [integer] at h
  split at h
  · cases h
    have hstarts := @starts_sign (decide (n < 0)) _ Nat.toDigits_ne_nil
      (fun c => isDigit_of_mem_toDigits (n := n.natAbs)) []
    rwa [List.append_nil, ← toList_toString_int] at hstarts
  · cases h

theorem reads_float (x : Binary64) :
    Reads (ofString (x.text number)) (.float (x.withPayload 1)) := by
  refine .ofScalar ?_ fun rest => scalar_float x
  cases x with
  | nan payload => exact ⟨'N', "aN", by simp [Binary64.text, number, ofString], by decide⟩
  | infinity negative =>
      cases negative
      · exact ⟨'I', "nfinity", rfl, by decide⟩
      · exact ⟨'-', "Infinity", rfl, by decide⟩
  | finite negative m e h =>
      have hspelling := Decimal.wellFormed_spelling_shortest number h
      rw [ofString, toList_text_finite]
      exact starts_sign hspelling.whole_ne_nil hspelling.whole_digits _

/-! ## Layout -/

/-- Between its brackets a container that is not empty has spaces, and its parts with a comma and
spaces from each to the next. -/
theorem exists_enclose (style : Style) (depth : Nat) (opening closing : Text) {parts : List Text}
    (h : parts ≠ []) :
    ∃ before between after, AllSpaces before ∧ AllSpaces between ∧ AllSpaces after ∧
      enclose style depth opening closing parts =
        opening ++ (before ++ (join (.char ',' :: between) parts ++ (after ++ closing))) := by
  have hbreak (indent : Int) (depth : Nat) : AllSpaces (lineBreak indent depth) := by
    rw [lineBreak, AllSpaces, List.forall_mem_cons]
    refine ⟨rfl, fun p hp => ?_⟩
    rw [List.eq_of_mem_replicate hp]
    rfl
  rw [enclose, if_neg (by simpa using h)]
  cases style.indent with
  | none =>
      refine ⟨[], " ", [], by simp [AllSpaces],
        by simp [AllSpaces, ofString, CodePoint.any, isSpace], by simp [AllSpaces], ?_⟩
      simp [ofString]
  | some indent =>
      refine ⟨lineBreak indent (depth + 1), lineBreak indent (depth + 1),
        lineBreak indent depth, hbreak _ _, hbreak _ _, hbreak _ _, ?_⟩
      simp [ofString, List.append_assoc]

/-! ## Lists -/

/-- What comes after a part: nothing that a number goes on with. -/
theorem notNext_after {after : Text} {c : Char} {rest : Text} (hafter : AllSpaces after)
    (hc : isNumeric c = false) : NotNext isNumeric (after ++ .char c :: rest) := by
  refine notNext_append hafter ?_
  rintro _ ⟨⟩
  exact hc

theorem notNext_cons {c : Char} {rest : Text} (hc : isNumeric c = false) :
    NotNext isNumeric (.char c :: rest) := by
  rintro _ ⟨⟩
  exact hc

theorem items_append_spaces {s rest : Text} (h : AllSpaces s) (fuel : Nat) :
    items fuel (s ++ rest) = items fuel rest := by
  cases fuel with
  | zero => rfl
  | succ fuel => rw [items, items, value_append_spaces h]

theorem items_join {between after : Text} (hbetween : AllSpaces between)
    (hafter : AllSpaces after) {parts : List Text} {xs : List Value}
    (h : List.Forall₂ Reads parts xs) (hnil : parts ≠ []) (rest : Text) {fuel : Nat}
    (hfuel : 2 * (join (.char ',' :: between) parts).length + 1 ≤ fuel) :
    items fuel (join (.char ',' :: between) parts ++ (after ++ .char ']' :: rest)) =
      .ok (xs, rest) := by
  induction h generalizing fuel with
  | nil => exact absurd rfl hnil
  | @cons w x parts xs hw hparts ih =>
      obtain ⟨fuel, rfl⟩ := Nat.exists_eq_add_one_of_ne_zero (show fuel ≠ 0 by omega)
      by_cases hlast : parts = []
      · subst hlast
        cases hparts
        rw [join, List.intercalate_singleton] at hfuel ⊢
        rw [items, hw.value fuel _ (by omega) (notNext_after hafter rfl)]
        simp only [bind, Except.bind]
        rw [skipSpaces_append hafter, skipSpaces_char (by decide)]
        rfl
      · rw [join, List.intercalate_cons_of_ne_nil hlast, List.length_append, List.length_append,
          List.length_cons] at hfuel
        rw [join, List.intercalate_cons_of_ne_nil hlast, List.append_assoc, List.append_assoc,
          List.cons_append, items, hw.value fuel _ (by omega) (notNext_cons rfl)]
        simp only [bind, Except.bind]
        rw [skipSpaces_char (by decide)]
        simp only [items_append_spaces hbetween]
        have hrest := @ih hlast fuel (by rw [join]; omega)
        rw [join] at hrest
        rw [hrest]
        rfl

theorem skipSpaces_join {separator : Text} {before : Text} (hbefore : AllSpaces before)
    {parts : List Text} {xs : List Value} (h : List.Forall₂ Reads parts xs) (hnil : parts ≠ [])
    (rest after : Text) :
    skipSpaces (before ++ (join separator parts ++ rest)) ≠ .char ']' :: after := by
  cases h with
  | nil => exact absurd rfl hnil
  | @cons w x parts xs hw hparts =>
      obtain ⟨c, s, rfl, hspace, hend⟩ := hw.starts
      rw [skipSpaces_append hbefore, join, List.intercalate_cons_cons_left, List.cons_append,
        skipSpaces_char hspace]
      simp [hend]

theorem value_list {s : Text} (h : ∀ after, skipSpaces s ≠ .char ']' :: after) (fuel : Nat) :
    Json.value (fuel + 1) (.char '[' :: s) = (items fuel s).map fun r => (.list r.1, r.2) := by
  rw [Json.value, skipSpaces_char (by decide)]
  simp only
  cases items fuel s <;> rfl

theorem reads_list {style : Style} {depth : Nat} {parts : List Text} {xs : List Value}
    (h : List.Forall₂ Reads parts xs) :
    Reads (enclose style depth "[" "]" parts) (.list xs) := by
  by_cases hnil : parts = []
  · subst hnil
    cases h
    refine ⟨⟨'[', "]", rfl, by decide⟩, fun fuel rest hfuel hrest => ?_⟩
    obtain ⟨fuel, rfl⟩ :=
      Nat.exists_eq_add_one_of_ne_zero (show fuel ≠ 0 by rintro rfl; cases hfuel)
    rfl
  · obtain ⟨before, between, after, hbefore, hbetween, hafter, henclose⟩ :=
      exists_enclose style depth "[" "]" hnil
    rw [henclose]
    refine ⟨⟨'[', _, rfl, by decide⟩, fun fuel rest hfuel hrest => ?_⟩
    obtain ⟨fuel, rfl⟩ :=
      Nat.exists_eq_add_one_of_ne_zero (show fuel ≠ 0 by rintro rfl; cases hfuel)
    have htext :
        (("[" : Text) ++
          (before ++ (join (.char ',' :: between) parts ++ (after ++ "]")))) ++ rest =
        .char '[' :: (before ++ (join (.char ',' :: between) parts ++
          (after ++ .char ']' :: rest))) := by
      simp [ofString]
    have hopening : (ofString "[").length = 1 := rfl
    simp only [List.length_append, hopening] at hfuel
    rw [htext, value_list (skipSpaces_join hbefore h hnil _), items_append_spaces hbefore,
      items_join hbetween hafter h hnil rest (by omega)]
    rfl

/-! ## Maps -/

def ReadsEntry (ascii : Bool) (w : Text) (e : Text × Value) : Prop :=
  ∃ key text, w = string ascii key ++ ": " ++ text ∧ denoted ascii key = e.1 ∧ Reads text e.2

theorem members_append_spaces {s rest : Text} (h : AllSpaces s) (fuel : Nat) :
    members fuel (s ++ rest) = members fuel rest := by
  cases fuel with
  | zero => rfl
  | succ fuel => rw [members, members, skipSpaces_append h]

/-- The step over one entry: to the entries after a comma, or to the end of the map. -/
theorem members_entry {ascii : Bool} {w : Text} {e : Text × Value} (h : ReadsEntry ascii w e)
    {fuel : Nat} (hfuel : 2 * w.length ≤ fuel) {rest : Text} (hrest : NotNext isNumeric rest)
    (after : Text) :
    (skipSpaces rest = .char ',' :: after →
      members (fuel + 1) (w ++ rest) = (members fuel after).map fun r => (e :: r.1, r.2)) ∧
    (skipSpaces rest = .char '\x7d' :: after →
      members (fuel + 1) (w ++ rest) = .ok ([e], after)) := by
  obtain ⟨key, text, rfl, hkey, htext⟩ := h
  have hstring : string ascii key ++ ": " ++ text ++ rest =
      .char '"' :: (key.flatMap (escapePoint ascii) ++ .char '"' ::
        (.char ':' :: .char ' ' :: (text ++ rest))) := by
    simp [string, ofString]
  have hlength : 2 * text.length ≤ fuel := by
    refine Nat.le_trans ?_ hfuel
    simp only [List.length_append]
    omega
  rw [hstring, members, skipSpaces_char (by decide)]
  simp only [stringAfterQuote_string, bind, Except.bind]
  rw [skipSpaces_char (by decide)]
  have hvalue : Json.value fuel (.char ' ' :: (text ++ rest)) = .ok (e.2, rest) := by
    have hspace : AllSpaces [.char ' '] := by simp [AllSpaces, CodePoint.any, isSpace]
    rw [← List.singleton_append, value_append_spaces hspace, htext.value fuel rest hlength hrest]
  simp only [hvalue, hkey]
  constructor
  · intro hnext
    simp only [hnext]
    cases members fuel after <;> rfl
  · intro hnext
    simp only [hnext]
    rfl

theorem members_join {ascii : Bool} {between after : Text} (hbetween : AllSpaces between)
    (hafter : AllSpaces after) {parts : List Text} {es : Entries Value}
    (h : List.Forall₂ (ReadsEntry ascii) parts es) (hnil : parts ≠ []) (rest : Text) {fuel : Nat}
    (hfuel : 2 * (join (.char ',' :: between) parts).length + 1 ≤ fuel) :
    members fuel (join (.char ',' :: between) parts ++ (after ++ .char '\x7d' :: rest)) =
      .ok (es, rest) := by
  induction h generalizing fuel with
  | nil => exact absurd rfl hnil
  | @cons w e parts es hw hparts ih =>
      obtain ⟨fuel, rfl⟩ := Nat.exists_eq_add_one_of_ne_zero (show fuel ≠ 0 by omega)
      by_cases hlast : parts = []
      · subst hlast
        cases hparts
        rw [join, List.intercalate_singleton] at hfuel ⊢
        refine (members_entry hw (by omega) (notNext_after hafter (by decide)) rest).2 ?_
        rw [skipSpaces_append hafter, skipSpaces_char (by decide)]
      · rw [join, List.intercalate_cons_of_ne_nil hlast, List.length_append, List.length_append,
          List.length_cons] at hfuel
        have hrest := @ih hlast fuel (by rw [join]; omega)
        rw [join] at hrest
        have hcomma : ∀ s : Text, skipSpaces (.char ',' :: s) = .char ',' :: s := fun s =>
          skipSpaces_char (by decide)
        rw [join, List.intercalate_cons_of_ne_nil hlast, List.append_assoc, List.append_assoc,
          List.cons_append, (members_entry hw (by omega) (notNext_cons (by decide)) _).1
            (hcomma _)]
        simp only [members_append_spaces hbetween, hrest]
        rfl

theorem value_map {s : Text} (h : ∀ after, skipSpaces s ≠ .char '\x7d' :: after) (fuel : Nat) :
    Json.value (fuel + 1) (.char '\x7b' :: s) =
      (members fuel s).map fun r => (.ofEntries (Entries.putAll [] r.1), r.2) := by
  rw [Json.value, skipSpaces_char (by decide)]
  simp only
  cases members fuel s <;> rfl

/-- An entry starts with a quote. -/
theorem skipSpaces_join_entries {ascii : Bool} {separator before : Text}
    (hbefore : AllSpaces before) {parts : List Text} {es : Entries Value}
    (h : List.Forall₂ (ReadsEntry ascii) parts es) (hnil : parts ≠ []) (rest after : Text) :
    skipSpaces (before ++ (join separator parts ++ rest)) ≠ .char '\x7d' :: after := by
  cases h with
  | nil => exact absurd rfl hnil
  | @cons w e parts es hw hparts =>
      obtain ⟨key, text, rfl, -, -⟩ := hw
      have hstring : string ascii key ++ ": " ++ text =
          .char '"' :: (key.flatMap (escapePoint ascii) ++ .char '"' ::
            (.char ':' :: .char ' ' :: text)) := by
        simp [string, ofString]
      rw [hstring, skipSpaces_append hbefore, join, List.intercalate_cons_cons_left,
        List.cons_append, skipSpaces_char (by decide)]
      simp

theorem reads_map {ascii : Bool} {style : Style} {depth : Nat} {parts : List Text}
    {es : Entries Value} (h : List.Forall₂ (ReadsEntry ascii) parts es) :
    Reads (enclose style depth "\x7b" "\x7d" parts) (.ofEntries (Entries.putAll [] es)) := by
  by_cases hnil : parts = []
  · subst hnil
    cases h
    refine ⟨⟨'\x7b', "\x7d", rfl, by decide⟩, fun fuel rest hfuel hrest => ?_⟩
    obtain ⟨fuel, rfl⟩ :=
      Nat.exists_eq_add_one_of_ne_zero (show fuel ≠ 0 by rintro rfl; cases hfuel)
    rfl
  · obtain ⟨before, between, after, hbefore, hbetween, hafter, henclose⟩ :=
      exists_enclose style depth "\x7b" "\x7d" hnil
    rw [henclose]
    refine ⟨⟨'\x7b', _, rfl, by decide⟩, fun fuel rest hfuel hrest => ?_⟩
    obtain ⟨fuel, rfl⟩ :=
      Nat.exists_eq_add_one_of_ne_zero (show fuel ≠ 0 by rintro rfl; cases hfuel)
    have htext :
        (("\x7b" : Text) ++ (before ++
          (join (.char ',' :: between) parts ++ (after ++ "\x7d")))) ++
        rest = .char '\x7b' ::
          (before ++ (join (.char ',' :: between) parts ++
            (after ++ .char '\x7d' :: rest))) := by
      simp [ofString]
    have hopening : (ofString "\x7b").length = 1 := rfl
    simp only [List.length_append, hopening] at hfuel
    rw [htext, value_map (skipSpaces_join_entries hbefore h hnil _),
      members_append_spaces hbefore, members_join hbetween hafter h hnil rest (by omega)]
    rfl

/-! ## Values -/

theorem paired_ofString (s : String) : (ofString s).paired = ofString s := by
  rw [ofString]
  induction s.toList with
  | nil => rfl
  | cons c cs ih =>
      cases cs with
      | nil => rfl
      | cons d cs => simpa [paired] using ih

/-- A key that is no text has a text of characters. -/
theorem keyText_cases {k : Value} {key : Text} (h : keyText k = .ok key) :
    k = .text key ∨ ∃ s : String, key = ofString s := by
  cases k with
  | text s => exact .inl (congrArg Value.text (Except.ok.inj h))
  | null => exact .inr ⟨_, (Except.ok.inj h).symm⟩
  | bool b => cases b <;> exact .inr ⟨_, (Except.ok.inj h).symm⟩
  | float x => exact .inr ⟨_, (Except.ok.inj h).symm⟩
  | int n =>
      simp only [keyText, integer] at h
      split at h
      · exact .inr ⟨_, (Except.ok.inj h).symm⟩
      · cases h
  | _ => cases h

variable {ascii : Bool}

theorem denoted_keyText {k : Value} {key : Text} (h : keyText k = .ok key)
    (htext : ∀ s, k = .text s → denoted ascii s = s.paired) :
    denoted ascii key = key.paired := by
  rcases keyText_cases h with rfl | ⟨s, rfl⟩
  · exact htext key rfl
  · rw [denoted, paired_ofString, ite_self]

theorem sameEnd_items {style : Style} {around : List Nat} {depth : Nat} {items : List Value}
    (h : ∀ v ∈ items, SameEnd Reads (write style around depth v) (plainWithin around v)) :
    SameEnd (List.Forall₂ Reads) (writeItems style around depth items)
      (plainItems around items) := by
  induction items with
  | nil => exact .ok .nil
  | cons v rest ih =>
      rw [List.forall_mem_cons] at h
      rw [writeItems, plainItems]
      exact h.1.bind fun w x hw => (ih h.2).bind fun ws xs hws => .ok (.cons hw hws)

theorem sameEnd_entries {style : Style} {around : List Nat} {depth : Nat}
    {entries : List (Value × Value)}
    (hkeys : ∀ e ∈ entries, ∀ s, e.1 = .text s → denoted style.ascii s = s.paired)
    (h : ∀ e ∈ entries, SameEnd Reads (write style around depth e.2) (plainWithin around e.2)) :
    SameEnd (List.Forall₂ (ReadsEntry style.ascii)) (writeEntries style around depth entries)
      (plainEntries around entries) := by
  induction entries with
  | nil => exact .ok .nil
  | cons e rest ih =>
      obtain ⟨k, v⟩ := e
      rw [List.forall_mem_cons] at h hkeys
      rw [writeEntries, plainEntries]
      cases hkey : keyText k with
      | error fault => exact .error fault
      | ok key =>
          exact h.1.bind fun w x hw => (ih hkeys.2 h.2).bind fun ws xs hws =>
            .ok (.cons ⟨key, w, rfl, denoted_keyText hkey hkeys.1, hw⟩ hws)

theorem sameEnd_write {style : Style} {v : Value} (around : List Nat) (depth : Nat)
    (h : ∀ s ∈ v.texts, denoted style.ascii s = s.paired) :
    SameEnd Reads (write style around depth v) (plainWithin around v) := by
  induction v using Value.byParts generalizing around depth with
  | list items ih | tuple items ih =>
      simp only [Value.forall_texts_list, Value.forall_texts_tuple] at h
      rw [write, plainWithin]
      exact (sameEnd_items fun v hv => ih v hv around (depth + 1) (h v hv)).bind
        fun parts xs hparts => .ok (reads_list hparts)
  | map entries ih =>
      rw [Value.forall_texts_map] at h
      rw [write, plainWithin]
      exact (sameEnd_entries (fun e he => (h e he).1) fun e he =>
        ih e he around (depth + 1) (h e he).2).bind
        fun parts es hparts => .ok (reads_map hparts)
  | knot label container ih =>
      rw [write, plainWithin]
      split
      · exact .error _
      · exact ih _ depth h
  | leaf v hleaf =>
      cases v with
      | null => exact .ok reads_null
      | bool b => exact .ok (reads_bool b)
      | int n =>
          rw [write, plainWithin]
          cases hn : integer n with
          | error fault => exact .error fault
          | ok w => exact .ok (reads_integer hn)
      | float x => cases x <;> exact .ok (reads_float _)
      | text s =>
          rw [write, plainWithin, ← h s (by simp [Value.texts])]
          exact .ok (reads_string style.ascii s)
      | list | tuple | map | knot => cases hleaf
      | _ => exact .error _

/-! ## Texts of values -/

/-- Blanks may follow. -/
theorem Reads.read_append {w s : Text} {x : Value} (h : Reads w x) (hs : AllSpaces s) :
    Json.read (w ++ s) = .ok x := by
  have hnext : NotNext isNumeric s := by
    have hempty : NotNext isNumeric [] := by rintro c ⟨⟩
    simpa using notNext_append hs hempty
  have hend : skipSpaces s = [] := by simpa [skipSpaces] using @skipSpaces_append s [] hs
  rw [Json.read, h.value _ s (by rw [List.length_append]; omega) hnext]
  simp [hend]

theorem Reads.read {w : Text} {x : Value} (h : Reads w x) : Json.read w = .ok x := by
  have hspaces : AllSpaces [] := by simp [AllSpaces]
  simpa using h.read_append hspaces

theorem sameEnd_text {style : Style} {v : Value} (hindent : indentLimit? style v = none)
    (h : ∀ s ∈ v.texts, denoted style.ascii s = s.paired) :
    SameEnd Reads (text style v) (plain v) := by
  have htext : text style v = write style [] 0 v := by
    rw [text.eq_def, hindent]
    cases v <;> rfl
  rw [htext]
  exact sameEnd_write [] 0 h

theorem indentLimit?_eq_none_iff {indent : Int} {ascii : Bool} {room : Nat} {v : Value} :
    indentLimit? { indent := some indent, ascii, room } v = none ↔
      -lengthRange ≤ indent ∧ indent < lengthRange ∧ widestIndent indent v ≤ room := by
  simp only [indentLimit?, Bool.or_eq_true, decide_eq_true_eq]
  split_ifs with hrange hroom
  · exact iff_of_false (by simp) (by omega)
  · exact iff_of_false (by simp) (by omega)
  · exact iff_of_true rfl (by omega)

/-- Only a text is written under an indentation that is beyond the limits. -/
theorem indent_of_text {style : Style} {v : Value} {w : Text} (hw : text style v = .ok w) :
    indentLimit? style v = none ∨ ∃ s, v = .text s := by
  rw [text.eq_def] at hw
  split at hw
  · next s => exact .inr ⟨s, rfl⟩
  · cases hw
  · next hindent => exact .inl hindent

theorem reads_string_paired {ascii : Bool} {s : Text} (h : denoted ascii s = s.paired) :
    Reads (string ascii s) (.text s.paired) := h ▸ reads_string ascii s

/-- The text of a value is read as its plain value. -/
theorem reads_text {style : Style} {v : Value} {w : Text} (hw : text style v = .ok w)
    (h : ∀ s ∈ v.texts, denoted style.ascii s = s.paired) :
    ∃ x, plain v = .ok x ∧ Reads w x := by
  rcases indent_of_text hw with hindent | ⟨s, rfl⟩
  · have hend := sameEnd_text hindent h
    generalize plain v = outcome at hend
    rw [hw] at hend
    cases hend with
    | ok hreads => exact ⟨_, rfl, hreads⟩
  · obtain rfl := Except.ok.inj hw
    exact ⟨_, rfl, reads_string_paired (h s (by simp [Value.texts]))⟩

/-- A value with a plain value has a text, under every indentation within the limits. -/
theorem exists_text {style : Style} {v x : Value} (hx : plain v = .ok x)
    (hindent : indentLimit? style v = none)
    (h : ∀ s ∈ v.texts, denoted style.ascii s = s.paired) :
    ∃ w, text style v = .ok w ∧ Reads w x := by
  have hend := sameEnd_text hindent h
  generalize text style v = outcome at hend ⊢
  rw [hx] at hend
  cases hend with
  | ok hreads => exact ⟨_, rfl, hreads⟩

/-- A value that can be written in one style can be written in the other, with
the same indentation. -/
theorem exists_text_of_text {indent : Option Int} {ascii other : Bool} {room : Nat} {v x : Value}
    {w : Text} (hw : text { indent, ascii, room } v = .ok w) (hx : plain v = .ok x)
    (h : ∀ s ∈ v.texts, denoted other s = s.paired) :
    ∃ w', text { indent, ascii := other, room } v = .ok w' ∧ Reads w' x := by
  rcases indent_of_text hw with hindent | ⟨s, rfl⟩
  · exact exists_text hx hindent h
  · obtain rfl := Except.ok.inj hx
    exact ⟨_, rfl, reads_string_paired (h s (by simp [Value.texts]))⟩

end TerseSchema.Json
