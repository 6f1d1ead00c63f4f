import TerseSchema.Proofs.Entries
import TerseSchema.Proofs.Value.Parts
/-!
# Plain data

What a document can hold before anything has been made of it: no node of a schema, no mark for
rejected properties, and in a map no key twice.
-/

namespace TerseSchema

def distinctKeys : List (Value × Value) → Bool
  | [] => true
  | (k, _) :: rest => rest.all (fun e => !k.alike e.1) && distinctKeys rest

mutual

/-- Whether a value is data alone. Keys and members of sets are never schemas. -/
def Value.isPlain : Value → Bool
  | .list items => arePlain items
  | .tuple items => arePlain items
  | .map entries => distinctKeys entries && entriesPlain entries
  | .forbidden => false
  | .schema _ => false
  | .knot _ container => container.isPlain
  | _ => true
termination_by structural v => v

def arePlain : List Value → Bool
  | [] => true
  | v :: rest => v.isPlain && arePlain rest
termination_by structural vs => vs

def entriesPlain : List (Value × Value) → Bool
  | [] => true
  | (_, v) :: rest => v.isPlain && entriesPlain rest
termination_by structural es => es

end

theorem arePlain_iff {items : List Value} :
    arePlain items = true ↔ ∀ v ∈ items, v.isPlain = true := by
  induction items with
  | nil => simp [arePlain]
  | cons v rest ih => simp [arePlain, ih]

theorem entriesPlain_iff {entries : List (Value × Value)} :
    entriesPlain entries = true ↔ ∀ e ∈ entries, e.2.isPlain = true := by
  induction entries with
  | nil => simp [entriesPlain]
  | cons e rest ih => simp [entriesPlain, ih]

namespace Value

@[simp] theorem isPlain_list_iff {items : List Value} :
    (Value.list items).isPlain = true ↔ ∀ v ∈ items, v.isPlain = true := by
  rw [isPlain, arePlain_iff]

@[simp] theorem isPlain_tuple_iff {items : List Value} :
    (Value.tuple items).isPlain = true ↔ ∀ v ∈ items, v.isPlain = true := by
  rw [isPlain, arePlain_iff]

@[simp] theorem isPlain_map_iff {entries : List (Value × Value)} :
    (Value.map entries).isPlain = true ↔
      distinctKeys entries = true ∧ ∀ e ∈ entries, e.2.isPlain = true := by
  rw [isPlain, Bool.and_eq_true, entriesPlain_iff]

theorem isPlain_untied {v : Value} (h : v.isPlain = true) : v.untied.isPlain = true := by
  induction v using byParts with
  | knot label container ih => exact ih h
  | leaf v hleaf => rwa [untied_of_not_container hleaf]
  | _ => exact h

theorem isPlain_item {v w : Value} {items : List Value} (h : v.isPlain = true)
    (hitems : v.items? = some items) (hw : w ∈ items) : w.isPlain = true := by
  have hinside := isPlain_untied h
  rw [items?] at hitems
  split at hitems
  · next hlist =>
      cases hitems
      rw [hlist] at hinside
      exact isPlain_list_iff.mp hinside w hw
  · next htuple =>
      cases hitems
      rw [htuple] at hinside
      exact isPlain_tuple_iff.mp hinside w hw
  · cases hitems

theorem isPlain_of_untied_map {v : Value} {entries : List (Value × Value)} (h : v.isPlain = true)
    (hmap : v.untied = .map entries) :
    distinctKeys entries = true ∧ ∀ e ∈ entries, e.2.isPlain = true := by
  have hinside := isPlain_untied h
  rw [hmap] at hinside
  exact isPlain_map_iff.mp hinside

/-- Induction over what lies in plain data, which is plain in its turn. -/
theorem byPlainContents {P : Value → Prop}
    (step : ∀ v : Value, v.isPlain = true → (∀ items, v.items? = some items → ∀ w ∈ items, P w) →
      (∀ entries, v.untied = .map entries → ∀ e ∈ entries, P e.2) → P v)
    {v : Value} (hplain : v.isPlain = true) : P v := by
  induction v using byContents with
  | step v ihItems ihEntries =>
      refine step v hplain (fun items hitems w hw => ?_) fun entries hmap e he => ?_
      · exact ihItems items hitems w hw (isPlain_item hplain hitems hw)
      · exact ihEntries entries hmap e he ((isPlain_of_untied_map hplain hmap).2 e he)

theorem isPlain_of_reaches {v w : Value} (h : v.isPlain = true) (hreaches : v.Reaches w) :
    w.isPlain = true := by
  induction hreaches with
  | refl => exact h
  | tail _ hpart ih =>
      cases hpart with
      | item hmem => exact isPlain_list_iff.mp ih _ hmem
      | component hmem => exact isPlain_tuple_iff.mp ih _ hmem
      | entry hmem => exact (isPlain_map_iff.mp ih).2 _ hmem
      | inside => exact ih

theorem not_isPlain_schema (s : Schema) : ¬(Value.schema s).isPlain = true := by
  simp [isPlain]

/-! ## Keys -/

abbrev IsText (k : Value) : Prop := ∃ s, k = .text s

theorem alike_text (s t : Text) : (Value.text s).alike (.text t) = decide (s = t) := by
  simp [alike, isIdentical, label?, same]

/-- Texts are distinct keys when no text is there twice. -/
theorem distinctKeys_iff_nodup {entries : List (Value × Value)}
    (htexts : ∀ e ∈ entries, e.1.IsText) :
    distinctKeys entries = true ↔ (entries.map Prod.fst).Nodup := by
  induction entries with
  | nil => simp [distinctKeys]
  | cons e rest ih =>
      obtain ⟨k, v⟩ := e
      rw [List.forall_mem_cons] at htexts
      obtain ⟨s, rfl⟩ : k.IsText := htexts.1
      have hlater : rest.all (fun e => !(Value.text s).alike e.1) = true ↔
          .text s ∉ rest.map Prod.fst := by
        simp only [List.all_eq_true, Bool.not_eq_true', List.mem_map, not_exists, not_and]
        refine forall₂_congr fun e he => ?_
        obtain ⟨t, ht⟩ := htexts.2 e he
        simp [ht, alike_text, @eq_comm _ s]
      rw [distinctKeys, Bool.and_eq_true, ih htexts.2, hlater, List.map_cons, List.nodup_cons]

theorem isPlain_ofEntries_iff {es : Entries Value} :
    (Value.ofEntries es).isPlain = true ↔
      (Entries.names es).Nodup ∧ ∀ e ∈ es, e.2.isPlain = true := by
  have htexts : ∀ e ∈ es.map fun e => (Value.text e.1, e.2), e.1.IsText :=
    List.forall_mem_map.mpr fun e _ => ⟨e.1, rfl⟩
  have hkeys :
      (es.map fun e => (Value.text e.1, e.2)).map Prod.fst = (Entries.names es).map .text := by
    simp [Entries.names]
  rw [ofEntries, isPlain_map_iff, distinctKeys_iff_nodup htexts, hkeys,
    List.nodup_map_iff fun s t => Value.text.inj, List.forall_mem_map]

/-- A text that is a key of a map without repeated keys is none of its later keys. -/
theorem not_mem_of_distinctKeys {name : Text} {v w : Value} {rest : List (Value × Value)}
    (hkeys : distinctKeys ((.text name, v) :: rest) = true) : (.text name, w) ∉ rest := by
  simp only [distinctKeys, Bool.and_eq_true, List.all_eq_true, Bool.not_eq_true'] at hkeys
  intro hmem
  have halike := hkeys.1 _ hmem
  simp [alike_text] at halike

end Value
end TerseSchema
