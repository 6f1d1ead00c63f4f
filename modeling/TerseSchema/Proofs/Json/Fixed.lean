import TerseSchema.Proofs.Json.Plain
import TerseSchema.Proofs.Value.Texts
/-!
# Plain values stay as they are

A value that JSON text denotes is its own plain value: its keys are texts, no two the same, and
no halves of a pair follow each other in its texts.
-/

namespace TerseSchema

namespace Text

theorem paired_char_cons (c : Char) (s : Text) :
    paired (.char c :: s) = .char c :: paired s := by
  cases s <;> rfl

/-- The first code point stays, or is the character that it is the first half of. -/
theorem head?_paired {a : CodePoint} {s : Text} {b : CodePoint}
    (h : (paired (a :: s)).head? = some b) : b = a ∨ ∃ c, b = .char c := by
  cases s with
  | nil => exact .inl (Option.some.inj h).symm
  | cons d s =>
      rw [paired] at h
      split at h
      · exact .inr ⟨_, (Option.some.inj h).symm⟩
      · exact .inl (Option.some.inj h).symm

theorem paired_paired (s : Text) : s.paired.paired = s.paired := by
  fun_induction paired s with
  | case1 => rfl
  | case2 => rfl
  | case3 a b rest c hpair ih => rw [paired_char_cons, ih]
  | case4 a b rest hpair ih =>
      cases hrest : paired (b :: rest) with
      | nil => rfl
      | cons d t =>
          rw [hrest] at ih
          have hnone : pair? a d = none := by
            rcases head?_paired (b := d) (by rw [hrest]; rfl) with rfl | ⟨c, rfl⟩
            · exact hpair
            · cases a <;> rfl
          rw [paired, hnone, ih]

end Text

namespace Json

/-- What JSON text denotes. -/
inductive IsDenoted : Value → Prop where
  | null : IsDenoted .null
  | bool (b : Bool) : IsDenoted (.bool b)
  | int {n : Int} (h : isWritable n = true) : IsDenoted (.int n)
  | float {x : Binary64} (h : x.withPayload 1 = x) : IsDenoted (.float x)
  | text {s : Text} (h : s.paired = s) : IsDenoted (.text s)
  | list {items : List Value} (h : ∀ v ∈ items, IsDenoted v) : IsDenoted (.list items)
  | map {es : Entries Value} (hnames : es.names.Nodup) (hpaired : ∀ e ∈ es, e.1.paired = e.1)
      (h : ∀ e ∈ es, IsDenoted e.2) : IsDenoted (.ofEntries es)

variable {around : List Nat} {v x : Value}

theorem isDenoted_of_plainWithin (h : plainWithin around v = .ok x) : IsDenoted x := by
  induction v using Value.byParts generalizing around x with
  | list items ih | tuple items ih =>
      obtain ⟨others, hothers, rfl⟩ := plainWithin_list_eq_ok_iff.mp h
      refine .list fun w hw => ?_
      obtain ⟨v, hv, hvw⟩ := exists_left_of_forall₂ hothers hw
      exact ih v hv hvw
  | map entries ih =>
      obtain ⟨es, hes, rfl⟩ := plainWithin_map_eq_ok_iff.mp h
      have hentry : ∀ e ∈ Entries.putAll [] es, e.1.paired = e.1 ∧ IsDenoted e.2 := by
        intro e he
        rcases Entries.mem_putAll he with hnil | he
        · cases hnil
        · obtain ⟨f, hf, key, -, hpaired, hplain⟩ := exists_left_of_forall₂ hes he
          exact ⟨hpaired ▸ Text.paired_paired key, ih f hf hplain⟩
      exact .map (Entries.nodup_names_putAll es List.nodup_nil) (fun e he => (hentry e he).1)
        fun e he => (hentry e he).2
  | knot label container ih =>
      rw [plainWithin] at h
      split at h
      · cases h
      · exact ih h
  | leaf v hleaf =>
      cases v with
      | null => cases h; exact .null
      | bool b => cases h; exact .bool b
      | int n =>
          simp only [plainWithin, integer] at h
          split at h
          · next hwritable => cases h; exact .int hwritable
          · cases h
      | float y => cases y <;> cases h <;> exact .float rfl
      | text s => cases h; exact .text (Text.paired_paired s)
      | list | tuple | map | knot => cases hleaf
      | _ => cases h

theorem plainWithin_of_isDenoted (h : IsDenoted x) : plainWithin around x = .ok x := by
  induction h with
  | null => rfl
  | bool b => rfl
  | int hwritable =>
      rw [plainWithin, integer, if_pos hwritable]
      rfl
  | @float x hx => cases x <;> first | rfl | (cases hx; rfl)
  | text hpaired => rw [plainWithin, hpaired]
  | @list items h ih =>
      exact plainWithin_list_eq_ok_iff.mpr ⟨items, List.forall₂_same.mpr ih, rfl⟩
  | @map es hnames hpaired h ih =>
      refine plainWithin_map_eq_ok_iff.mpr ⟨es, ?_, ?_⟩
      · rw [List.forall₂_map_left_iff, List.forall₂_same]
        exact fun e he => ⟨e.1, rfl, hpaired e he, ih e he⟩
      · rw [@Entries.putAll_of_nodup _ [] es hnames, List.nil_append]

/-- A plain value is its own plain value. -/
theorem plain_plain (h : plain v = .ok x) : plain x = .ok x :=
  plainWithin_of_isDenoted (isDenoted_of_plainWithin h)

theorem IsDenoted.paired_texts (h : IsDenoted x) : ∀ s ∈ x.texts, s.paired = s := by
  induction h with
  | text hpaired => simpa [Value.texts] using hpaired
  | list h ih => exact Value.forall_texts_list.mpr ih
  | map hnames hpaired h ih =>
      refine Value.forall_texts_map.mpr ?_
      intro e he
      obtain ⟨f, hf, rfl⟩ := List.mem_map.mp he
      refine ⟨?_, ih f hf⟩
      rintro _ ⟨⟩
      exact hpaired f hf
  | _ => simp [Value.texts]

theorem IsDenoted.isPlain (h : IsDenoted x) : x.isPlain = true := by
  induction h with
  | list h ih => exact Value.isPlain_list_iff.mpr ih
  | map hnames hpaired h ih => exact Value.isPlain_ofEntries_iff.mpr ⟨hnames, ih⟩
  | _ => rfl

end Json
end TerseSchema
