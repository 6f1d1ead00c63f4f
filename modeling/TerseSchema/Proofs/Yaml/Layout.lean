import TerseSchema.Json.Writer
import TerseSchema.Proofs.Yaml.Flow
/-!
# Tokens of JSON texts

JSON texts as tokens, whatever their layout: a scalar is one token, and a container has a token
for each of its signs and one more before each of its keys.
-/

namespace TerseSchema.Yaml

open LexerState

variable {s : LexerState} {x y : Char} {w body rest : List Char} {tokens : List Token}

/-! ## Parts -/

/-- Whether a text is read as tokens wherever a value may stand in a flow collection. -/
structure Lexes (w : List Char) (tokens : List Token) : Prop where
  starts : ∃ x more, w = x :: more ∧ Starts x
  passes : ∀ (s : LexerState) (rest : List Char), s.Calm → s.depth ≠ 0 → Closes rest →
    afterGap s.cursor.rest = w ++ rest → ∃ t, Passes s t tokens rest ∧ t.depth = s.depth

/-- Whether a text is read as tokens wherever an item or an entry may stand. -/
structure LexesPart (w : List Char) (tokens : List Token) : Prop where
  starts : ∃ x more, w = x :: more ∧ Starts x
  passes : ∀ (s : LexerState) (rest : List Char), s.Calm → s.depth ≠ 0 →
    s.keyAllowed = true → Closes rest →
    afterGap s.cursor.rest = w ++ rest → ∃ t, Passes s t tokens rest ∧ t.depth = s.depth

theorem Lexes.part (h : Lexes w tokens) : LexesPart w tokens :=
  ⟨h.starts, fun s rest hs hdepth _ => h.passes s rest hs hdepth⟩

theorem lexes_word (h : LexerState.IsWord w) : Lexes w [.scalar (w.map .char) true] :=
  ⟨h.exists_starts, fun _ _ hs hdepth hrest => hs.exists_word hdepth h hrest⟩

theorem lexes_quoted {text : Text} (h : IsShort text) :
    Lexes (quoted text) [.scalar text false] :=
  ⟨⟨'"', _, rfl, by decide, by decide, by decide⟩, fun _ _ hs _ _ => hs.exists_quoted h⟩

theorem afterGap_of_starts (h : ∃ x more, w = x :: more ∧ Starts x) (rest : List Char) :
    afterGap (w ++ rest) = w ++ rest := by
  obtain ⟨x, more, rfl, hx⟩ := h
  exact afterGap_eq_self hx.not_isGap _

theorem Lexes.entry {key : Text} (h : Lexes w tokens) (hkey : IsShort key)
    (hlength : (quoted key).length ≤ 1024) :
    LexesPart (quoted key ++ ':' :: ' ' :: w) ([.key, .scalar key false, .value] ++ tokens) := by
  refine ⟨⟨'"', _, rfl, by decide, by decide, by decide⟩,
    fun s rest hs hdepth hallowed hrest htext => ?_⟩
  obtain ⟨t, ht, hdepth'⟩ := hs.exists_key hdepth hallowed hkey hlength
    (show _ = quoted key ++ ':' :: ' ' :: (w ++ rest) by rw [htext]; simp)
  have hvalue : afterGap t.cursor.rest = w ++ rest := by
    rw [ht.rest, afterGap_cons (by decide), afterGap_of_starts h.starts]
  obtain ⟨u, hu, hdepth''⟩ := h.passes t rest ht.calm (hdepth' ▸ hdepth) hrest hvalue
  exact ⟨u, ht.trans hu, hdepth''.trans hdepth'⟩

/-! ## Containers -/

/-- Whether a text is read as tokens between the brackets of a container, of which the
last is the given one. -/
def LexesBody (closing : Char) (body : List Char) (tokens : List Token) : Prop :=
  ∀ (s : LexerState) (rest : List Char), s.Calm → s.depth ≠ 0 → s.keyAllowed = true →
    afterGap s.cursor.rest = afterGap (body ++ closing :: rest) →
    ∃ t, Passes s t tokens (closing :: rest) ∧ t.depth = s.depth

theorem lexesBody_nil (closing : Char) : LexesBody closing [] [] :=
  fun s _ hs _ _ hrest => ⟨s, ⟨fun fuel hfuel => ⟨fuel, hfuel, rfl⟩, hs, rfl, hrest⟩, rfl⟩

theorem closes_append {after : List Char} (hafter : ∀ c ∈ after, isGap c = true)
    (hy : y ∈ closers) (rest : List Char) : Closes (after ++ y :: rest) :=
  ⟨y, rest, by rw [afterGap_append hafter, afterGap_eq_self (closers_plain y hy).1], hy⟩

theorem LexesBody.after_gap {before : List Char} (h : LexesBody y body tokens)
    (hbefore : ∀ c ∈ before, isGap c = true) : LexesBody y (before ++ body) tokens := by
  intro s rest hs hdepth hallowed htext
  rw [List.append_assoc, afterGap_append hbefore] at htext
  exact h s rest hs hdepth hallowed htext

theorem LexesPart.lexesBody {after : List Char} (h : LexesPart w tokens)
    (hafter : ∀ c ∈ after, isGap c = true) (hy : y ∈ closers) :
    LexesBody y (w ++ after) tokens := by
  intro s rest hs hdepth hallowed htext
  rw [List.append_assoc, afterGap_of_starts h.starts] at htext
  obtain ⟨t, ht, htdepth⟩ := h.passes s _ hs hdepth hallowed (closes_append hafter hy rest) htext
  exact ⟨t, { ht with rest := ht.rest.trans (afterGap_append hafter _) }, htdepth⟩

theorem LexesPart.lexesBody_cons {others : List Token} (h : LexesPart w tokens)
    (hbody : LexesBody y body others) :
    LexesBody y (w ++ ',' :: body) (tokens ++ .flowEntry :: others) := by
  intro s rest hs hdepth hallowed htext
  rw [List.append_assoc, afterGap_of_starts h.starts] at htext
  have hcomma : afterGap (',' :: (body ++ y :: rest)) = ',' :: (body ++ y :: rest) :=
    afterGap_eq_self (by decide) _
  obtain ⟨t, ht, htdepth⟩ := h.passes s _ hs hdepth hallowed ⟨',', _, hcomma, by decide⟩ htext
  obtain ⟨u, hu, hudepth, huallowed⟩ := ht.calm.exists_entry (ht.rest.trans hcomma)
  obtain ⟨v, hv, hvdepth⟩ := hbody u rest hu.calm (by omega) huallowed hu.rest
  exact ⟨v, ht.trans (hu.trans hv), by omega⟩

theorem lexesBody_parts {between after : List Char} {parts : List (List Char)}
    {tss : List (List Token)} (hbetween : ∀ c ∈ between, isGap c = true)
    (hafter : ∀ c ∈ after, isGap c = true) (hy : y ∈ closers)
    (h : List.Forall₂ LexesPart parts tss) (hnil : parts ≠ []) :
    LexesBody y ((',' :: between).intercalate parts ++ after)
      ([.flowEntry].intercalate tss) := by
  induction h with
  | nil => exact absurd rfl hnil
  | @cons w tokens parts tss hw hparts ih =>
      cases hparts with
      | nil =>
          rw [List.intercalate_singleton, List.intercalate_singleton]
          exact hw.lexesBody hafter hy
      | cons hv hrest =>
          have hlater := hw.lexesBody_cons ((ih (List.cons_ne_nil _ _)).after_gap hbetween)
          rw [List.intercalate_cons_cons, List.intercalate_cons_cons]
          simpa using hlater

structure Brackets (x y : Char) (opening closing : Token) : Prop where
  starts_opening : Starts x
  starts_closing : Starts y
  mem_closers : y ∈ closers
  token_opening : ∀ (t : LexerState) (rest : List Char), t.cursor.rest = x :: rest →
    t.token = t.openFlow opening
  token_closing : ∀ (t : LexerState) (rest : List Char), t.cursor.rest = y :: rest →
    t.token = t.closeFlow closing

theorem listBrackets : Brackets '[' ']' .flowSequenceStart .flowSequenceEnd :=
  ⟨⟨by decide, by decide, by decide⟩, ⟨by decide, by decide, by decide⟩, by decide,
    fun _ _ => token_openList, fun _ _ => token_closeList⟩

theorem mapBrackets : Brackets '\x7b' '\x7d' .flowMappingStart .flowMappingEnd :=
  ⟨⟨by decide, by decide, by decide⟩, ⟨by decide, by decide, by decide⟩, by decide,
    fun _ _ => token_openMap, fun _ _ => token_closeMap⟩

variable {opening closing : Token}

/-- A container is read at any depth, whatever comes after it. -/
theorem Brackets.exists_passes (hb : Brackets x y opening closing)
    (hbody : LexesBody y body tokens) (hs : s.Calm)
    (h : afterGap s.cursor.rest = x :: (body ++ y :: rest)) :
    ∃ t, Passes s t (opening :: (tokens ++ [closing])) rest ∧ t.depth = s.depth := by
  obtain ⟨t, ht, hdepth, hallowed⟩ :=
    hs.exists_open hb.starts_opening h fun t => hb.token_opening t _
  obtain ⟨u, hu, hdepth'⟩ := hbody t rest ht.calm (by omega) hallowed ht.rest
  have hclosing : afterGap u.cursor.rest = y :: rest := by
    rw [hu.rest, afterGap_eq_self hb.starts_closing.not_isGap]
  obtain ⟨v, hv, hdepth''⟩ :=
    hu.calm.exists_close hb.starts_closing hclosing fun t => hb.token_closing t _
  exact ⟨v, ht.trans (hu.trans hv), by omega⟩

theorem Brackets.lexes (hb : Brackets x y opening closing) (hbody : LexesBody y body tokens) :
    Lexes (x :: (body ++ [y])) (opening :: (tokens ++ [closing])) :=
  ⟨⟨x, _, rfl, hb.starts_opening⟩,
    fun _ _ hs _ _ h => hb.exists_passes hbody hs (by rw [h]; simp)⟩

/-! ## Whole texts -/

/-- A text that is a container and nothing else. -/
theorem Brackets.ofText (hb : Brackets x y opening closing) (hbody : LexesBody y body tokens) :
    Token.ofText (x :: (body ++ [y])) = opening :: (tokens ++ [closing, .streamEnd]) := by
  have hmark : x ≠ '\ufeff' := by
    rintro rfl
    exact absurd hb.starts_opening.visible (by decide)
  have hstart : Cursor.start (x :: (body ++ [y])) = { rest := x :: (body ++ [y]) } := by
    simp [Cursor.start, Cursor.nextIs, hmark]
  have hcalm : LexerState.Calm { cursor := { rest := x :: (body ++ [y]) } } :=
    ⟨rfl, by simp, rfl⟩
  obtain ⟨t, ht, -⟩ := hb.exists_passes hbody hcalm
    (show _ = x :: (body ++ y :: []) from afterGap_eq_self hb.starts_opening.not_isGap _)
  obtain ⟨left, hleft, hrun⟩ := ht.leads ((x :: (body ++ [y])).length + 1) (Nat.lt_succ_self _)
  rw [Token.ofText, hstart, hrun,
    ht.calm.run_of_end ht.rest (Nat.zero_lt_of_lt hleft), ht.tokens]
  simp

/-! ## Layouts -/

theorem exists_lineBreak_eq_map (indent : Int) (depth : Nat) :
    ∃ gap : List Char, (∀ c ∈ gap, isGap c = true) ∧
    Json.lineBreak indent depth = gap.map .char := by
  refine ⟨'\n' :: List.replicate (indent.toNat * depth) ' ', ?_, ?_⟩
  · refine List.forall_mem_cons.mpr ⟨by decide, fun c hc => ?_⟩
    rw [List.eq_of_mem_replicate hc]
    rfl
  · rw [Json.lineBreak, List.map_cons, List.map_replicate]

theorem join_map (separator : List Char) (parts : List (List Char)) :
    Text.join (separator.map .char) (parts.map (List.map .char)) =
      (separator.intercalate parts).map .char := by
  induction parts with
  | nil => rfl
  | cons w parts ih =>
      cases parts with
      | nil => simp [Text.join]
      | cons v parts =>
          rw [Text.join, List.map_cons] at ih
          rw [Text.join, List.map_cons, List.map_cons, List.intercalate_cons_cons,
            List.intercalate_cons_cons, ih]
          simp

theorem mem_intercalate {c : Char} {separator : List Char} {parts : List (List Char)}
    (h : c ∈ separator.intercalate parts) : c ∈ separator ∨ ∃ w ∈ parts, c ∈ w := by
  induction parts with
  | nil => cases h
  | cons w parts ih =>
      cases parts with
      | nil =>
          rw [List.intercalate_singleton] at h
          exact .inr ⟨w, List.mem_singleton_self w, h⟩
      | cons v parts =>
          rw [List.intercalate_cons_cons, List.append_assoc, List.mem_append,
            List.mem_append] at h
          rcases h with h | h | h
          · exact .inr ⟨w, List.mem_cons_self, h⟩
          · exact .inl h
          · exact (ih h).imp_right fun ⟨u, hu, hc⟩ => ⟨u, List.mem_cons_of_mem w hu, hc⟩

/-- Under every style, a container is its brackets with its parts between them. -/
theorem exists_enclose_body (style : Json.Style) (depth : Nat) (hy : y ∈ closers)
    {parts : List (List Char)} {tss : List (List Token)} (h : List.Forall₂ LexesPart parts tss) :
    ∃ body, Json.enclose style depth [.char x] [.char y] (parts.map (List.map .char)) =
        (x :: (body ++ [y])).map .char ∧ LexesBody y body ([.flowEntry].intercalate tss) ∧
      ∀ c ∈ body, isGap c = true ∨ c = ',' ∨ ∃ w ∈ parts, c ∈ w := by
  have hmem {gap last : List Char} (hgap : ∀ c ∈ gap, isGap c = true)
      (hlast : ∀ c ∈ last, isGap c = true) :
      ∀ c ∈ (',' :: gap).intercalate parts ++ last, isGap c = true ∨ c = ',' ∨
      ∃ w ∈ parts, c ∈ w := by
    intro c hc
    rcases List.mem_append.mp hc with hc | hc
    · rcases mem_intercalate hc with hc | hc
      · exact (List.mem_cons.mp hc).symm.imp (hgap c) .inl
      · exact .inr (.inr hc)
    · exact .inl (hlast c hc)
  by_cases hnil : parts = []
  · subst hnil
    cases h
    exact ⟨[], rfl, lexesBody_nil y, by simp⟩
  · have hparts : ¬(parts.map (List.map CodePoint.char)).isEmpty = true := by simpa using hnil
    rw [Json.enclose, if_neg hparts]
    cases style.indent with
    | none =>
        have hjoin := join_map [',', ' '] parts
        have hspace : ∀ c ∈ [' '], isGap c = true := by decide
        have hnone : ∀ c ∈ ([] : List Char), isGap c = true := by simp
        refine ⟨_, ?_, lexesBody_parts hspace hnone hy h hnil, hmem hspace hnone⟩
        simp only
        rw [show Text.ofString ", " = [',', ' '].map CodePoint.char from rfl, hjoin]
        simp
    | some indent =>
        obtain ⟨inner, hinner, hbefore⟩ := exists_lineBreak_eq_map indent (depth + 1)
        obtain ⟨last, hlast, hafter⟩ := exists_lineBreak_eq_map indent depth
        have hjoin := join_map (',' :: inner) parts
        refine ⟨_, ?_, (lexesBody_parts hinner hlast hy h hnil).after_gap hinner, ?_⟩
        · simp only
          rw [hbefore, hafter,
            show Text.ofString "," ++ inner.map CodePoint.char =
              (',' :: inner).map CodePoint.char from rfl, hjoin]
          simp
        · exact List.forall_mem_append.mpr ⟨fun c hc => .inl (hinner c hc), hmem hinner hlast⟩

end TerseSchema.Yaml
