import TerseSchema.Loading
import TerseSchema.Proofs.Outcome
import TerseSchema.Proofs.Schema.Document
import TerseSchema.Proofs.Yaml.Building
import TerseSchema.Proofs.Yaml.Layout
import TerseSchema.Proofs.Yaml.Number
/-!
# Loading JSON texts

The JSON text of a schema is a document that can be loaded, and what is loaded is the document
of that schema. There are limits to this: a float needs a point, a key must not be too long for
its sign to be looked for, and a character beyond the sixteen-bit range comes back as the
halves it is written by.
-/

namespace TerseSchema

namespace Yaml

open TerseSchema.Text

/-! ## Words -/

theorem isWord_of_isDigit {negative : Bool} {c : Char} {cs : List Char} (hc : isDigit c = true)
    (hcs : ∀ x ∈ cs, x ∈ numeralSigns) :
    LexerState.IsWord (Json.signText negative ++ c :: cs) := by
  have hsigns : ∀ x ∈ numeralSigns, x ∈ wordSigns := by decide
  have hdigits : ∀ x ∈ "0123456789".toList, x ∈ "0123456789fnt".toList := by decide
  have hmem := mem_digits_of_isDigit hc
  have hword : ∀ x ∈ c :: cs, x ∈ wordSigns :=
    List.forall_mem_cons.mpr ⟨hsigns c (mem_numeralSigns_of_isDigit hc),
      fun x hx => hsigns x (hcs x hx)⟩
  cases negative with
  | false => exact ⟨hword, .inl ⟨c, cs, rfl, hdigits c hmem⟩⟩
  | true => exact ⟨List.forall_mem_cons.mpr ⟨by decide, hword⟩, .inr ⟨c, cs, rfl, hmem⟩⟩

/-! ## Texts of values -/

def isWritten (c : Char) : Bool := isVisible c || c = '\n'

theorem isAllowed_of_isWritten {c : Char} (h : isWritten c = true) : isAllowed c = true := by
  rw [isWritten, Bool.or_eq_true, decide_eq_true_eq] at h
  rcases h with hvisible | rfl
  · rw [isVisible] at hvisible
    simp only [isAllowed, hvisible, Bool.true_or, Bool.or_true]
  · decide

/-- Whether a text is read as a value wherever one may stand in a flow collection. -/
def Loads (w : Text) (v : Value) : Prop :=
  ∃ cs tokens, w = cs.map .char ∧ (∀ c ∈ cs, isWritten c = true) ∧
    Lexes cs tokens ∧ Parses tokens v

theorem loads_word (word : List Char) (tag : String) {v : Value} (hword : LexerState.IsWord word)
    (htag : resolve (word.map .char) = tag) (hmem : tag ∈ scalarTags)
    (hvalue : ∀ mark, scalarValue mark tag (word.map .char) = .ok v) :
    Loads (word.map .char) v :=
  ⟨word, _, rfl, fun c hc =>
    (by decide : ∀ c ∈ wordSigns, isWritten c = true) c (hword.signs c hc),
    lexes_word hword, parses_scalar true htag hmem hvalue⟩

theorem scalarValue_bool {text : Text} {b : Bool} (h : taggedBool text = .ok b) (mark : Nat) :
    scalarValue mark boolTag text = .ok (.bool b) := by
  show (taggedBool text).map Value.bool = _
  rw [h]
  rfl

theorem scalarValue_int {text : Text} {n : Int} (h : taggedInt text = .ok n) (mark : Nat) :
    scalarValue mark intTag text = .ok (.int n) := by
  show (taggedInt text).map Value.int = _
  rw [h]
  rfl

theorem scalarValue_float {text : Text} {x : Binary64}
    (h : ∀ payload, taggedFloat payload text = .ok x) (mark : Nat) :
    scalarValue mark floatTag text = .ok (.float x) := by
  show (taggedFloat mark text).map Value.float = _
  rw [h]
  rfl

theorem loads_null : Loads "null" .null :=
  loads_word "null".toList nullTag ⟨by decide, .inl ⟨'n', _, rfl, by decide⟩⟩ (by decide +kernel)
    (by decide) fun _ => rfl

theorem loads_bool (b : Bool) : Loads (if b then "true" else "false") (.bool b) := by
  cases b
  · exact loads_word "false".toList boolTag ⟨by decide, .inl ⟨'f', _, rfl, by decide⟩⟩
      (by decide +kernel) (by decide) (scalarValue_bool rfl)
  · exact loads_word "true".toList boolTag ⟨by decide, .inl ⟨'t', _, rfl, by decide⟩⟩
      (by decide +kernel) (by decide) (scalarValue_bool rfl)

theorem loads_int {n : Int} {w : Text} (h : Json.integer n = .ok w) : Loads w (.int n) := by
  have hresolve := resolve_integer h
  have hvalue := scalarValue_int (taggedInt_integer h)
  rw [Json.integer] at h
  split at h
  · cases h
    obtain ⟨c, cs, hdigits⟩ := List.exists_cons_of_ne_nil (@Nat.toDigits_ne_nil n.natAbs 10)
    have hall : ∀ x ∈ c :: cs, isDigit x = true :=
      fun x hx => isDigit_of_mem_toDigits (hdigits ▸ hx)
    rw [ofString_toString_int, hdigits] at hresolve hvalue ⊢
    rw [List.forall_mem_cons] at hall
    exact loads_word _ _ (isWord_of_isDigit hall.1 fun x hx =>
      mem_numeralSigns_of_isDigit (hall.2 x hx)) hresolve
      (by decide) hvalue
  · cases h

theorem loads_float {x : Binary64} (h : HasPoint x) :
    Loads (ofString (x.text Json.number)) (.float x) := by
  have hresolve := resolve_float h
  have hvalue := scalarValue_float (taggedFloat_float h)
  obtain ⟨negative, m, e, hm, rfl, -⟩ := exists_spelling_of_hasPoint h
  have hspelling := Decimal.wellFormed_spelling_shortest Json.number hm
  have hsigns := mem_numeralSigns_of_mem_chars hspelling
  obtain ⟨c, cs, hwhole⟩ := List.exists_cons_of_ne_nil hspelling.whole_ne_nil
  have hc := hspelling.whole_digits c (hwhole ▸ List.mem_cons_self)
  rw [Decimal.Spelling.chars, hwhole, List.cons_append, List.forall_mem_cons] at hsigns
  rw [ofString, Json.toList_text_finite, Decimal.Spelling.chars, hwhole,
    List.cons_append] at hresolve hvalue ⊢
  exact loads_word _ _ (isWord_of_isDigit hc hsigns.2) hresolve (by decide) hvalue

theorem isWritten_quoted (s : Text) : ∀ c ∈ LexerState.quoted s, isWritten c = true := by
  refine List.forall_mem_cons.mpr ⟨by decide,
    List.forall_mem_append.mpr ⟨fun c hc => ?_, by decide⟩⟩
  obtain ⟨p, -, hp⟩ := List.mem_flatMap.mp hc
  rw [isWritten, isVisible_escaped p c hp, Bool.true_or]

theorem loads_string {s : Text} (h : IsShort s) : Loads (Json.string true s) (.text s) :=
  ⟨LexerState.quoted s, _, string_eq_map s, isWritten_quoted s, lexes_quoted h,
    parses_scalar false (show _ = strTag from rfl) (by decide) fun _ => rfl⟩

/-! ## Containers -/

/-- Whether a text is read as tokens wherever a part of a container may stand, and
these are as `Q` says. -/
def LoadsPart {α : Type} (Q : List Token → α → Prop) (w : Text) (a : α) : Prop :=
  ∃ cs tokens, w = cs.map .char ∧ (∀ c ∈ cs, isWritten c = true) ∧
    LexesPart cs tokens ∧ Q tokens a

theorem Loads.part {w : Text} {v : Value} (h : Loads w v) : LoadsPart Parses w v := by
  obtain ⟨cs, tokens, hcs, hwritten, hlexes, hparses⟩ := h
  exact ⟨cs, tokens, hcs, hwritten, hlexes.part, hparses⟩

theorem Loads.entry {w : Text} {v : Value} (h : Loads w v) (key : Text) (hkey : IsShort key)
    (hlength : (LexerState.quoted key).length ≤ 1024) :
    LoadsPart ParsesEntry (Json.string true key ++ ": " ++ w) (key, v) := by
  obtain ⟨cs, tokens, rfl, hwritten, hlexes, hparses⟩ := h
  refine ⟨LexerState.quoted key ++ ':' :: ' ' :: cs, _, ?_, ?_, hlexes.entry hkey hlength,
    tokens, rfl, hparses⟩
  · rw [string_eq_map, LexerState.quoted]
    simp [ofString]
  · refine List.forall_mem_append.mpr ⟨isWritten_quoted key, ?_⟩
    exact List.forall_mem_cons.mpr ⟨by decide, List.forall_mem_cons.mpr ⟨by decide, hwritten⟩⟩

theorem exists_parts {α : Type} {Q : List Token → α → Prop} {parts : List Text} {xs : List α}
    (h : List.Forall₂ (LoadsPart Q) parts xs) : ∃ css tss, parts = css.map (List.map .char) ∧
      (∀ cs ∈ css, ∀ c ∈ cs, isWritten c = true) ∧ List.Forall₂ LexesPart css tss ∧
      List.Forall₂ Q tss xs := by
  induction h with
  | nil => exact ⟨[], [], rfl, by simp, .nil, .nil⟩
  | cons hw _ ih =>
      obtain ⟨cs, tokens, rfl, hwritten, hlexes, hq⟩ := hw
      obtain ⟨css, tss, rfl, hall, hlexesAll, hqs⟩ := ih
      exact ⟨cs :: css, tokens :: tss, rfl, List.forall_mem_cons.mpr ⟨hwritten, hall⟩,
        .cons hlexes hlexesAll, .cons hq hqs⟩

variable (style : Json.Style) (depth : Nat)

/-- A container whose parts are read is read, and is also a document of its own. -/
theorem exists_container {α : Type} {Q : List Token → α → Prop} {parts : List Text} {xs : List α}
    {x y : Char} {opening closing : Token} (hb : Brackets x y opening closing)
    (h : List.Forall₂ (LoadsPart Q) parts xs) :
    ∃ body tss, Json.enclose style depth [.char x] [.char y] parts =
      (x :: (body ++ [y])).map .char ∧
      (∀ c ∈ x :: (body ++ [y]), isWritten c = true) ∧
      LexesBody y body ([.flowEntry].intercalate tss) ∧ List.Forall₂ Q tss xs := by
  obtain ⟨css, tss, rfl, hwritten, hlexes, hq⟩ := exists_parts h
  obtain ⟨body, henclose, hbody, hmem⟩ :=
    exists_enclose_body (x := x) style depth hb.mem_closers hlexes
  have hstarts {z : Char} (hz : LexerState.Starts z) : isWritten z = true := by
    rw [isWritten, hz.visible, Bool.true_or]
  refine ⟨body, tss, henclose, ?_, hbody, hq⟩
  refine List.forall_mem_cons.mpr ⟨hstarts hb.starts_opening,
    List.forall_mem_append.mpr ⟨fun c hc => ?_,
      List.forall_mem_singleton.mpr (hstarts hb.starts_closing)⟩⟩
  rcases hmem c hc with hgap | rfl | ⟨cs, hcs, hc⟩
  · rw [isGap, Bool.or_eq_true, decide_eq_true_eq, decide_eq_true_eq] at hgap
    rcases hgap with rfl | rfl <;> decide
  · decide
  · exact hwritten cs hcs c hc

def LoadsWhole (w : Text) (v : Value) : Prop :=
  ∃ cs tokens, w = cs.map .char ∧ (∀ c ∈ cs, isWritten c = true) ∧
    Token.ofText cs = tokens ++ [.streamEnd] ∧ Parses tokens v

theorem LoadsWhole.load {w : Text} {v : Value} (h : LoadsWhole w v) (marks : Nat) :
    Yaml.load marks w = .ok v := by
  obtain ⟨cs, tokens, rfl, hwritten, htokens, hparses⟩ := h
  obtain ⟨nodes, hnodes, hrepresents⟩ := hparses.ofTokens
  have hallowed : cs.all isAllowed = true :=
    List.all_eq_true.mpr fun c hc => isAllowed_of_isWritten (hwritten c hc)
  rw [Yaml.load, chars?_map]
  simp only [hallowed, if_true, htokens, hnodes, bind, Except.bind,
    value_of_represents hrepresents marks]

theorem loads_list {parts : List Text} {vs : List Value} (h : List.Forall₂ Loads parts vs) :
    Loads (Json.enclose style depth "[" "]" parts) (.list vs) ∧
      LoadsWhole (Json.enclose style depth "[" "]" parts) (.list vs) := by
  obtain ⟨body, tss, henclose, hwritten, hbody, hparses⟩ :=
    exists_container style depth listBrackets (h.imp fun _ _ => Loads.part)
  exact ⟨⟨_, _, henclose, hwritten, listBrackets.lexes hbody, parses_list hparses⟩,
    ⟨_, _, henclose, hwritten, by rw [listBrackets.ofText hbody]; simp, parses_list hparses⟩⟩

theorem loads_map {parts : List Text} {es : Entries Value}
    (h : List.Forall₂ (LoadsPart ParsesEntry) parts es) (hnames : es.names.Nodup) :
    Loads (Json.enclose style depth "\x7b" "\x7d" parts) (.ofEntries es) ∧
      LoadsWhole (Json.enclose style depth "\x7b" "\x7d" parts) (.ofEntries es) := by
  obtain ⟨body, tss, henclose, hwritten, hbody, hparses⟩ :=
    exists_container style depth mapBrackets h
  exact ⟨⟨_, _, henclose, hwritten, mapBrackets.lexes hbody, parses_map hparses hnames⟩,
    ⟨_, _, henclose, hwritten, by rw [mapBrackets.ofText hbody]; simp,
      parses_map hparses hnames⟩⟩

end Yaml

/-! ## Values -/

/-- Whether the JSON text of a value can be loaded. -/
inductive Value.IsPortable : Value → Prop
  | null : IsPortable .null
  | bool (b : Bool) : IsPortable (.bool b)
  | int (n : Int) : IsPortable (.int n)
  | float {x : Binary64} (h : Yaml.HasPoint x) : IsPortable (.float x)
  | text {s : Text} (h : Yaml.IsShort s) : IsPortable (.text s)
  | list {items : List Value} (h : ∀ v ∈ items, IsPortable v) : IsPortable (.list items)
  | map {es : Entries Value} (hnames : es.names.Nodup)
      (hkeys : ∀ e ∈ es, Yaml.IsShort e.1 ∧ (Yaml.LexerState.quoted e.1).length ≤ 1024)
      (h : ∀ e ∈ es, IsPortable e.2) : IsPortable (.ofEntries es)

namespace Yaml

variable {indent : Option Int} {room : Nat} {around : List Nat} {depth : Nat}

theorem forall₂_writeItems {items : List Value} {parts : List Text}
    (h : ∀ v ∈ items, ∀ w, Json.write { indent, room } around depth v = .ok w → Loads w v)
    (hparts : Json.writeItems { indent, room } around depth items = .ok parts) :
    List.Forall₂ Loads parts items := by
  induction items generalizing parts with
  | nil =>
      cases hparts
      exact .nil
  | cons v items ih =>
      rw [List.forall_mem_cons] at h
      simp only [Json.writeItems, bind_eq_ok_iff] at hparts
      obtain ⟨w, hw, ws, hws, hcons⟩ := hparts
      cases hcons
      exact .cons (h.1 w hw) (ih h.2 hws)

theorem forall₂_writeEntries {es : Entries Value} {parts : List Text}
    (hkeys : ∀ e ∈ es, IsShort e.1 ∧ (LexerState.quoted e.1).length ≤ 1024)
    (h : ∀ e ∈ es, ∀ w, Json.write { indent, room } around depth e.2 = .ok w → Loads w e.2)
    (hparts : Json.writeEntries { indent, room } around depth
      (es.map fun e => (.text e.1, e.2)) = .ok parts) :
    List.Forall₂ (LoadsPart ParsesEntry) parts es := by
  induction es generalizing parts with
  | nil =>
      cases hparts
      exact .nil
  | cons e es ih =>
      rw [List.forall_mem_cons] at h hkeys
      simp only [List.map_cons, Json.writeEntries, Json.keyText, bind_eq_ok_iff,
        Except.ok.injEq] at hparts
      obtain ⟨key, rfl, w, hw, ws, hws, hcons⟩ := hparts
      cases hcons
      exact .cons ((h.1 w hw).entry e.1 hkeys.1.1 hkeys.1.2) (ih hkeys.2 h.2 hws)

theorem loads_write {v : Value} {w : Text} (h : v.IsPortable)
    (hw : Json.write { indent, room } around depth v = .ok w) :
    Loads w v ∧ (v.isContainer = true → LoadsWhole w v) := by
  induction h generalizing around depth w with
  | null =>
      cases hw
      exact ⟨loads_null, nofun⟩
  | bool b =>
      cases hw
      exact ⟨loads_bool b, nofun⟩
  | int n => exact ⟨loads_int hw, nofun⟩
  | float hpoint =>
      cases hw
      exact ⟨loads_float hpoint, nofun⟩
  | text hshort =>
      cases hw
      exact ⟨loads_string hshort, nofun⟩
  | list h ih =>
      simp only [Json.write, bind_eq_ok_iff] at hw
      obtain ⟨parts, hparts, henclose⟩ := hw
      cases henclose
      have hloads := loads_list { indent, room } depth
        (forall₂_writeItems (fun v hv w hvw => (ih v hv hvw).1) hparts)
      exact ⟨hloads.1, fun _ => hloads.2⟩
  | map hnames hkeys h ih =>
      simp only [Value.ofEntries, Json.write, bind_eq_ok_iff] at hw
      obtain ⟨parts, hparts, henclose⟩ := hw
      cases henclose
      have hloads := loads_map { indent, room } depth
        (forall₂_writeEntries hkeys (fun e he w hew => (ih e he hew).1) hparts) hnames
      exact ⟨hloads.1, fun _ => hloads.2⟩

/-- The JSON text of a list or a map, under every indentation, is read as that list or map. -/
theorem load_text {v : Value} {w : Text} (hw : Json.text { indent, room } v = .ok w)
    (h : v.IsPortable) (hcontainer : v.isContainer = true) (marks : Nat) :
    Yaml.load marks w = .ok v := by
  rw [Json.text.eq_def] at hw
  split at hw
  · cases hcontainer
  · cases hw
  · exact ((loads_write h hw).2 hcontainer).load marks

end Yaml

/-! ## Main statement -/

theorem Schema.isContainer_document (s : Schema) : s.document.isContainer = true := by
  rw [document_eq_putAll]
  rfl

/-- The JSON text of a schema, under every indentation, is loaded as the
document of the schema. -/
theorem loadText_json {s : Schema} {indent : Option Int} {room : Nat} {w : Text}
    (hw : s.json indent room = .ok w) (hportable : s.document.IsPortable) :
    loadText w = .ok s.document := by
  rw [loadText, Yaml.load_text (mapError_eq_ok_iff.mp hw) hportable s.isContainer_document]

def half : Binary64 := .finite false 0x10000000000000 (-53) (by decide)

def escapedSchema : Schema :=
  { type := "object"
    description := "a \"tab\"\t and \u00e9"
    required := ["left side", "\\"]
    extras := [("default", .list [.null, .bool true, .float half, .map []])] }

theorem loadText_json_escaped :
    ∃ w, escapedSchema.json (some 2) = .ok w ∧ escapedSchema.document.IsPortable ∧
    loadText w = .ok escapedSchema.document := by
  obtain ⟨w, hw⟩ : ∃ w, escapedSchema.json (some 2) = .ok w := ⟨_, rfl⟩
  have hdocument : escapedSchema.document = .ofEntries [
      ("type", .text "object"), ("description", .text "a \"tab\"\t and \u00e9"),
      ("required", .list [.text "left side", .text "\\"]),
      ("default", .list [.null, .bool true, .float half, .ofEntries []])] := rfl
  have hhalf : Yaml.HasPoint half := by
    have hpoint : '.' ∈ (half.text Json.number).toList := by decide +kernel
    exact hpoint
  have hportable : escapedSchema.document.IsPortable := by
    rw [hdocument]
    refine .map (by decide) (by decide +kernel) ?_
    simp only [List.forall_mem_cons, List.not_mem_nil, false_imp_iff, implies_true, and_true]
    refine ⟨.text (by decide), .text (by decide), .list ?_, .list ?_⟩
    · simp only [List.forall_mem_cons, List.not_mem_nil, false_imp_iff, implies_true, and_true]
      exact ⟨.text (by decide), .text (by decide)⟩
    · simp only [List.forall_mem_cons, List.not_mem_nil, false_imp_iff, implies_true, and_true]
      exact ⟨.null, .bool true, .float hhalf, .map .nil (by simp) (by simp)⟩
  exact ⟨w, hw, hportable, loadText_json hw hportable⟩

def tenPower : Binary64 := .finite false 5000000000000000 1 (by decide)

def tenPowerSchema : Schema := { type := "number", extras := [("default", .float tenPower)] }

/-- Not every JSON text of a schema is loaded as its document: a float without a point
comes back as a text. -/
theorem not_loadText_json_tenPower : ∃ w, tenPowerSchema.json none = .ok w ∧
    loadText w = .ok (.ofEntries [("type", .text "number"), ("default", .text "1e+16")]) ∧
    tenPowerSchema.document =
      .ofEntries [("type", .text "number"), ("default", .float tenPower)] := by
  have htext : Text.ofString (tenPower.text Json.number) = ("1e+16" : Text) :=
    congrArg Text.ofString (show tenPower.text Json.number = "1e+16" by decide +kernel)
  have hdefault : Yaml.Loads (Text.ofString (tenPower.text Json.number)) (.text "1e+16") := by
    rw [htext]
    exact Yaml.loads_word "1e+16".toList Yaml.strTag ⟨by decide, .inl ⟨'1', _, rfl, by decide⟩⟩
      (by decide +kernel) (by decide) fun _ => rfl
  have htype := Yaml.loads_string (s := "number") (by decide)
  have hloads := (Yaml.loads_map {} 0 (.cons (htype.entry "type" (by decide) (by decide +kernel))
    (.cons (hdefault.entry "default" (by decide) (by decide +kernel)) .nil)) (by decide)).2
  refine ⟨_, rfl, ?_, rfl⟩
  rw [loadText, hloads.load]

end TerseSchema
