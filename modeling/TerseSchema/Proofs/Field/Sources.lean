import TerseSchema.Proofs.Field.Contents
/-!
# Where allowed values come from

The allowed values of every node that a reading builds are a part of the value that is read.
-/

namespace TerseSchema

/-- The allowed values of all nodes of a schema are parts of a value. -/
def Schema.EnumsFrom (v : Value) (s : Schema) : Prop :=
  s.Everywhere fun t => ∀ allowed, t.enum = some allowed → v.Reaches allowed

theorem Schema.EnumsFrom.of_reaches {v w : Value} {s : Schema} (h : s.EnumsFrom w)
    (hreaches : v.Reaches w) : s.EnumsFrom v :=
  h.imp fun _ ht allowed hallowed => hreaches.trans (ht allowed hallowed)

theorem enumsFrom_empty (v : Value) : ({} : Schema).EnumsFrom v := by
  refine Schema.everywhere_iff.mpr ⟨by simp, fun t hchild => ?_⟩
  exact absurd hchild (Schema.not_child rfl rfl rfl (List.forall_mem_nil _) t)

structure ReadsParts (v : Value) : Prop where
  field : ∀ field shape c, readField field shape v = .ok c → ∀ t ∈ c.nested, t.EnumsFrom v
  schema : ∀ s, readSchema? v = some (.ok s) → s.EnumsFrom v

/-- The children of a schema lie in the contents that it has gathered. -/
theorem Schema.Gathers.exists_nested {s t : Schema} {contents : Entries Content}
    (hs : s.Gathers contents) (hfits : ∀ e ∈ contents, e.2.Fits) (h : s.Child t) :
    ∃ e ∈ contents, t ∈ e.2.nested := by
  cases h with
  | property hproperties hmem =>
      rw [hs.properties] at hproperties
      obtain ⟨c, hc, hss⟩ := Option.bind_eq_some_iff.mp hproperties
      cases c <;> cases hss
      exact ⟨_, Entries.mem_of_get? hc, List.mem_map_of_mem (f := Prod.snd) hmem⟩
  | items hitems =>
      rw [hs.items] at hitems
      obtain ⟨c, hc, hitem⟩ := Option.bind_eq_some_iff.mp hitems
      cases c <;> cases hitem
      exact ⟨_, Entries.mem_of_get? hc, List.mem_singleton_self _⟩
  | additional hadditional =>
      rw [hs.additional] at hadditional
      obtain ⟨c, hc, ha⟩ := Option.bind_eq_some_iff.mp hadditional
      cases c <;> cases ha
      exact ⟨_, Entries.mem_of_get? hc, List.mem_singleton_self _⟩
  | extra hextra hholds =>
      rw [hs.extras] at hextra
      obtain ⟨e, he, heq⟩ := List.mem_map.mp hextra
      cases heq
      have hmem := List.mem_of_mem_filter he
      exact ⟨e, hmem, nested_of_holds_extra (hfits e hmem) hholds⟩

variable {v : Value}

theorem enumsFrom_of_entries {s : Schema} (hv : v.isPlain = true)
    (hentries : ∀ entries, v.untied = .map entries → ∀ e ∈ entries, ReadsParts e.2)
    (h : readSchema? v = some (.ok s)) : s.EnumsFrom v := by
  obtain ⟨entries, hmap, hread⟩ := readSchema?_eq_ok_iff.mp h
  obtain ⟨hkeys, hplain⟩ := Value.isPlain_of_untied_map hv hmap
  obtain ⟨contents, hcontents, -, hgathers⟩ := exists_gathers_of_readFields hkeys hread
  have hfits : ∀ f ∈ contents, f.2.Fits := by
    intro f hf
    obtain ⟨e, he, -, -, hfield⟩ := exists_left_of_forall₂ hcontents hf
    exact ((readsWell_of_isPlain (hplain e he)).field _ _ _ hfield).2
  refine Schema.everywhere_iff.mpr ⟨fun allowed hallowed => ?_, fun t hchild => ?_⟩
  · rw [hgathers.enum] at hallowed
    obtain ⟨c, hc, hnonNull⟩ := Option.bind_eq_some_iff.mp hallowed
    obtain ⟨e, he, -, -, hfield⟩ := exists_left_of_forall₂ hcontents (Entries.mem_of_get? hc)
    cases c with
    | any w =>
        obtain rfl : w = allowed := by cases w <;> cases hnonNull <;> rfl
        rw [Content.shape, readField_any] at hfield
        obtain rfl : e.2 = w := Content.any.inj (Except.ok.inj hfield)
        exact Value.reaches_value hmap he
    | _ => cases hnonNull
  · obtain ⟨f, hf, hnested⟩ := hgathers.exists_nested hfits hchild
    obtain ⟨e, he, -, -, hfield⟩ := exists_left_of_forall₂ hcontents hf
    exact ((hentries entries hmap e he).field _ _ _ hfield t hnested).of_reaches
      (Value.reaches_value hmap he)

/-- What is read from a value has its allowed values from there, when this is so of
its items and entries. -/
theorem readsParts_of_parts (hv : v.isPlain = true)
    (hitems : ∀ items, v.items? = some items → ∀ w ∈ items, ReadsParts w)
    (hentries : ∀ entries, v.untied = .map entries → ∀ e ∈ entries, ReadsParts e.2) :
    ReadsParts v := by
  have hschema : ∀ s, readSchema? v = some (.ok s) → s.EnumsFrom v :=
    fun s => enumsFrom_of_entries hv hentries
  refine ⟨fun field shape c hc t ht => ?_, hschema⟩
  cases nestedIn_of_readField hc ht with
  | empty h => exact h ▸ enumsFrom_empty v
  | whole h => exact hschema t h
  | item h hw hread =>
    exact ((hitems _ h _ hw).schema t hread).of_reaches (Value.reaches_item h hw)
  | entry h he hread =>
    exact ((hentries _ h _ he).schema t hread).of_reaches (Value.reaches_value h he)

/-- Reading takes allowed values from plain data as they are. -/
theorem readsParts_of_isPlain (hv : v.isPlain = true) : ReadsParts v :=
  Value.byPlainContents (fun _ => readsParts_of_parts) hv

end TerseSchema
