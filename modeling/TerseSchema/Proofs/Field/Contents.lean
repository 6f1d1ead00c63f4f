import TerseSchema.Proofs.Pairing
import TerseSchema.Proofs.Schema.WellFormed
import Mathlib.Data.List.Induction
/-!
# Contents of a document

The reading of a schema document as a whole: each entry has a content of its own, and the schema
has in each of its places what the content of one field tells. In which order the fields were
given shows in the extra fields alone.
-/

namespace TerseSchema

/-! ## Reading -/

/-- What reading makes of an entry: a known field, and the content of its value. -/
def EntryReads (entry : Value × Value) (read : Text × Content) : Prop :=
  entry.1 = .text read.1 ∧ Shape.ofField? read.1 = some read.2.shape ∧
    readField read.1 read.2.shape entry.2 = .ok read.2

def Schema.assignAll (s : Schema) (contents : Entries Content) : Schema :=
  contents.foldl (fun s e => s.assign e.1 e.2) s

theorem readFields_eq_ok_iff {s t : Schema} {entries : List (Value × Value)} :
    readFields s entries = .ok t ↔
      ∃ contents, List.Forall₂ EntryReads entries contents ∧ t = s.assignAll contents := by
  induction entries generalizing s with
  | nil => simp [readFields, Schema.assignAll, @eq_comm _ t]
  | cons e rest ih =>
      rw [readFields_cons_eq_ok_iff]
      constructor
      · rintro ⟨field, shape, c, hkey, hshape, hread, hrest⟩
        obtain ⟨contents, hcontents, rfl⟩ := ih.mp hrest
        obtain rfl := shape_of_readField hread
        exact ⟨(field, c) :: contents, .cons ⟨hkey, hshape, hread⟩ hcontents, rfl⟩
      · rintro ⟨_, hcontents, rfl⟩
        obtain ⟨⟨field, c⟩, contents, ⟨hkey, hshape, hread⟩, hrest, rfl⟩ :=
          List.forall₂_cons_left_iff.mp hcontents
        exact ⟨field, c.shape, c, hkey, hshape, hread, ih.mpr ⟨contents, hrest, rfl⟩⟩

/-- Distinct keys that are texts are distinct names. -/
theorem nodup_names_of_distinctKeys {α : Type} {entries : List (Value × Value)} {es : Entries α}
    (hkeys : distinctKeys entries = true)
    (h : List.Forall₂ (fun e f => e.1 = .text f.1) entries es) : (Entries.names es).Nodup := by
  induction h with
  | nil => simp
  | @cons e f entries es hkey hrest ih =>
      rw [Entries.names_cons, List.nodup_cons]
      obtain ⟨k, v⟩ := e
      obtain rfl : k = .text f.1 := hkey
      refine ⟨fun hmem => ?_, ih ?_⟩
      · obtain ⟨g, hg, hname⟩ := List.mem_map.mp hmem
        obtain ⟨⟨k, w⟩, he, hother⟩ := exists_left_of_forall₂ hrest hg
        obtain rfl : k = .text g.1 := hother
        rw [hname] at he
        exact Value.not_mem_of_distinctKeys hkeys he
      · rw [distinctKeys, Bool.and_eq_true] at hkeys
        exact hkeys.2

def SchemaReads (entry : Value × Value) (read : Text × Schema) : Prop :=
  entry.1 = .text read.1 ∧ readSchema? entry.2 = some (.ok read.2)

/-- A map of schemas under texts is read entry by entry. -/
theorem readSchemaMap_eq_ok_iff {field : Text} {done ss : Entries Schema}
    {entries : List (Value × Value)} (hkeys : distinctKeys entries = true)
    (htexts : ∀ e ∈ entries, ∃ name, e.1 = .text name ∧ name ∉ Entries.names done) :
    readSchemaMap field done entries = .ok ss ↔
      ∃ read, List.Forall₂ SchemaReads entries read ∧ ss = done ++ read := by
  induction entries generalizing done with
  | nil => simp [readSchemaMap, @eq_comm _ done]
  | cons e rest ih =>
      obtain ⟨k, v⟩ := e
      rw [List.forall_mem_cons] at htexts
      obtain ⟨⟨name, hname, hnew⟩, hrest⟩ := htexts
      obtain rfl : k = .text name := hname
      have hlater := fun w => Value.not_mem_of_distinctKeys (w := w) hkeys
      rw [distinctKeys, Bool.and_eq_true] at hkeys
      have hput : ∀ s, Entries.put name s done = done ++ [(name, s)] :=
        fun s => Entries.put_of_not_mem s hnew
      have hfresh : ∀ s : Schema, ∀ e ∈ rest, ∃ other, e.1 = .text other ∧
          other ∉ Entries.names (done ++ [(name, s)]) := by
        intro s e he
        obtain ⟨other, hother, hnot⟩ := hrest e he
        refine ⟨other, hother, ?_⟩
        simp only [Entries.names_append, Entries.names_cons, Entries.names_nil, List.mem_append,
          List.mem_singleton, not_or]
        refine ⟨hnot, ?_⟩
        rintro rfl
        exact hlater e.2 (hother ▸ he)
      rw [readSchemaMap_cons_eq_ok_iff]
      constructor
      · rintro ⟨-, s, hs, hread⟩
        rw [Value.keyText, hput, ih hkeys.2 (hfresh s)] at hread
        obtain ⟨read, hreads, rfl⟩ := hread
        exact ⟨(name, s) :: read, .cons ⟨rfl, hs⟩ hreads, by simp⟩
      · rintro ⟨_, hreads, rfl⟩
        obtain ⟨⟨other, s⟩, read, ⟨hother, hs⟩, hlaterReads, rfl⟩ :=
          List.forall₂_cons_left_iff.mp hreads
        obtain rfl : name = other := Value.text.inj hother
        refine ⟨rfl, s, hs, ?_⟩
        rw [Value.keyText, hput, ih hkeys.2 (hfresh s)]
        exact ⟨read, hlaterReads, by simp⟩

theorem nodup_names_of_entryReads {entries : List (Value × Value)} {contents : Entries Content}
    (hkeys : distinctKeys entries = true) (h : List.Forall₂ EntryReads entries contents) :
    (Entries.names contents).Nodup :=
  nodup_names_of_distinctKeys hkeys (h.imp fun _ _ hread => hread.1)

/-! ## Places -/

theorem Text.ofString_inj {s t : String} : Text.ofString s = Text.ofString t ↔ s = t := by
  constructor
  · intro h
    have hchar : Function.Injective CodePoint.char := fun _ _ => CodePoint.char.inj
    exact String.toList_inj.mp (hchar.list_map h)
  · rintro rfl
    rfl

namespace Content

def text? : Content → Option Text
  | .string s => some s
  | _ => none

def allowed? : Content → Option Value
  | .any v => v.nonNull
  | _ => none

def properties? : Content → Option (Entries Schema)
  | .schemaMap ss => some ss
  | _ => none

def item? : Content → Option Schema
  | .schema s => some s
  | _ => none

def names? : Content → Option (List Text)
  | .strings names => some names
  | _ => none

def additional? : Content → Option Additional
  | .additional a => some a
  | _ => none

end Content

/-- A schema has in each of its places what the contents of fields tell, whatever the order in
which these were given. -/
structure Schema.Gathers (s : Schema) (contents : Entries Content) : Prop where
  type : s.type = ((Entries.get? "type" contents).bind Content.text?).getD []
  description :
    s.description = ((Entries.get? "description" contents).bind Content.text?).getD []
  enum : s.enum = (Entries.get? "enum" contents).bind Content.allowed?
  properties : s.properties = (Entries.get? "properties" contents).bind Content.properties?
  items : s.items = (Entries.get? "items" contents).bind Content.item?
  required : s.required = ((Entries.get? "required" contents).bind Content.names?).getD []
  additional :
    s.additional = (Entries.get? "additionalProperties" contents).bind Content.additional?
  extras : s.extras =
    (contents.filter fun e => e.1 ∉ ownFieldNames).map fun e => (e.1, e.2.extra)

theorem gathers_assignAll {contents : Entries Content} (hnames : (Entries.names contents).Nodup)
    (hshapes : ∀ e ∈ contents, Shape.ofField? e.1 = some e.2.shape) :
    (Schema.assignAll {} contents).Gathers contents := by
  induction contents using List.reverseRecOn with
  | nil => constructor <;> simp [Schema.assignAll, Entries.get?]
  | append_singleton before e ih =>
      obtain ⟨field, c⟩ := e
      have hnew : field ∉ Entries.names before := by
        intro hmem
        rw [Entries.names_append, List.nodup_append] at hnames
        exact hnames.2.2 field hmem field (by simp) rfl
      have hbefore : (Entries.names before).Nodup := by
        rw [Entries.names_append] at hnames
        exact hnames.of_append_left
      have hs := ih hbefore fun e he => hshapes e (List.mem_append_left _ he)
      have hshape : Shape.ofField? field = some c.shape := hshapes (field, c) (by simp)
      have happ : Schema.assignAll {} (before ++ [(field, c)]) =
          (Schema.assignAll {} before).assign field c := by
        simp [Schema.assignAll, List.foldl_append]
      have hextra : field ∉ Entries.names (Schema.assignAll {} before).extras := by
        rw [hs.extras, Entries.names_map (fun e : Text × Content => e.2.extra)]
        exact fun hmem => hnew (List.Sublist.subset (List.filter_sublist.map Prod.fst) hmem)
      rw [happ]
      have hassigned := assigned_assign (Schema.assignAll {} before) hshape
      generalize (Schema.assignAll {} before).assign field c = after at hassigned ⊢
      cases hassigned with
      | extra c hown =>
          have hplace : ∀ name ∈ ownFieldNames,
              Entries.get? name (before ++ [(field, c)]) = Entries.get? name before := by
            intro name hname
            rw [Entries.get?_append_singleton hnew, if_neg]
            rintro rfl
            exact hown hname
          constructor
          · rw [hplace _ (by decide), ← hs.type]
          · rw [hplace _ (by decide), ← hs.description]
          · rw [hplace _ (by decide), ← hs.enum]
          · rw [hplace _ (by decide), ← hs.properties]
          · rw [hplace _ (by decide), ← hs.items]
          · rw [hplace _ (by decide), ← hs.required]
          · rw [hplace _ (by decide), ← hs.additional]
          · rw [Entries.put_of_not_mem _ hextra, hs.extras]
            simp [hown]
      -- One of the seven places has been filled.
      | _ =>
          constructor <;>
            simp [Entries.get?_append_singleton hnew, Text.ofString_inj, ownFieldNames,
              Content.text?, Content.allowed?, Content.properties?, Content.item?,
              Content.names?, Content.additional?, hs.type, hs.description, hs.enum,
              hs.properties, hs.items, hs.required, hs.additional, hs.extras]

theorem ofField?_of_entryReads {entries : List (Value × Value)} {contents : Entries Content}
    (h : List.Forall₂ EntryReads entries contents) {e : Text × Content} (he : e ∈ contents) :
    Shape.ofField? e.1 = some e.2.shape := by
  obtain ⟨_, -, -, hshape, -⟩ := exists_left_of_forall₂ h he
  exact hshape

/-- A document is read entry by entry, and its schema has in each place what an entry tells. -/
theorem exists_gathers_of_readFields {entries : List (Value × Value)} {s : Schema}
    (hkeys : distinctKeys entries = true) (h : readFields {} entries = .ok s) :
    ∃ contents, List.Forall₂ EntryReads entries contents ∧ (Entries.names contents).Nodup ∧
      s.Gathers contents := by
  obtain ⟨contents, hcontents, rfl⟩ := readFields_eq_ok_iff.mp h
  have hnames := nodup_names_of_entryReads hkeys hcontents
  exact ⟨contents, hcontents, hnames,
    gathers_assignAll hnames fun e he => ofField?_of_entryReads hcontents he⟩

end TerseSchema
