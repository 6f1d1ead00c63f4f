import TerseSchema.Json.Writer
import TerseSchema.Proofs.Outcome
import TerseSchema.Proofs.Value.Parts
import TerseSchema.Proofs.Value.Texts
/-!
# Characters of JSON text

The JSON text of a value whose texts are free of surrogates consists of characters, even where
only what JSON needs is escaped.
-/

namespace TerseSchema

namespace Text

def isChars (s : Text) : Bool := s.all fun p => p.char?.isSome

@[simp] theorem isChars_nil : isChars [] = true := rfl

@[simp] theorem isChars_char_cons (c : Char) (s : Text) :
    isChars (.char c :: s) = isChars s := rfl

@[simp] theorem isChars_append (s t : Text) : isChars (s ++ t) = (isChars s && isChars t) :=
  List.all_append

@[simp] theorem isChars_map (cs : List Char) : isChars (cs.map .char) = true := by
  simp [isChars, CodePoint.char?]

@[simp] theorem isChars_ofString (s : String) : isChars (ofString s) = true :=
  isChars_map s.toList

theorem isChars_join {separator : Text} {parts : List Text}
    (hseparator : separator.isChars = true) (h : ∀ w ∈ parts, isChars w = true) :
    (join separator parts).isChars = true := by
  induction parts with
  | nil => rfl
  | cons w parts ih =>
      rw [List.forall_mem_cons] at h
      by_cases hlast : parts = []
      · rw [hlast, join, List.intercalate_singleton]
        exact h.1
      · rw [join, List.intercalate_cons_of_ne_nil hlast, isChars_append, isChars_append,
          h.1, hseparator]
        exact ih h.2

/-- A text free of surrogates is a list of characters. -/
theorem exists_chars_of_isChars {s : Text} (h : s.isChars = true) :
    ∃ cs, s.chars? = some cs ∧ s = cs.map .char := by
  induction s with
  | nil => exact ⟨[], rfl, rfl⟩
  | cons p s ih =>
      cases p with
      | surrogate offset => cases h
      | char c =>
          obtain ⟨cs, hchars, rfl⟩ := ih h
          refine ⟨c :: cs, ?_, rfl⟩
          rw [chars?] at hchars
          rw [chars?, List.mapM_cons, hchars]
          rfl

end Text

namespace Json

open Text

theorem isChars_escapePoint {ascii : Bool} {p : CodePoint} (h : p.char?.isSome = true) :
    (escapePoint ascii p).isChars = true := by
  cases p with
  | surrogate offset => cases h
  | char c =>
      rw [escapePoint]
      split
      · exact isChars_map _
      · rfl

theorem isChars_string {ascii : Bool} {s : Text} (h : s.isChars = true) :
    (string ascii s).isChars = true := by
  have hpoints : isChars (s.flatMap (escapePoint ascii)) = true := by
    rw [isChars, List.all_flatMap]
    exact List.all_eq_true.mpr fun p hp => isChars_escapePoint (List.all_eq_true.mp h p hp)
  simp [string, hpoints]

theorem isChars_lineBreak (indent : Int) (depth : Nat) :
    (lineBreak indent depth).isChars = true := by
  rw [lineBreak, isChars_char_cons, ← List.map_replicate, isChars_map]

theorem isChars_enclose {style : Style} {depth : Nat} {opening closing : Text}
    {parts : List Text} (hopening : opening.isChars = true) (hclosing : closing.isChars = true)
    (h : ∀ w ∈ parts, isChars w = true) :
    (enclose style depth opening closing parts).isChars = true := by
  rw [enclose]
  split
  · simp [hopening, hclosing]
  · split
    · simp [hopening, hclosing, isChars_join _ h]
    · simp [hopening, hclosing, isChars_lineBreak, isChars_join _ h]

theorem isChars_integer {n : Int} {w : Text} (h : integer n = .ok w) : w.isChars = true := by
  rw [integer] at h
  split at h
  · cases h
    exact isChars_ofString _
  · cases h

theorem isChars_keyText {k : Value} {key : Text} (h : keyText k = .ok key)
    (htext : ∀ s, k = .text s → s.isChars = true) : key.isChars = true := by
  cases k with
  | text s => cases h; exact htext _ rfl
  | int n => exact isChars_integer h
  | null => cases h; rfl
  | bool b => cases h; cases b <;> rfl
  | float x => cases h; exact isChars_ofString _
  | _ => cases h

variable {style : Style} {around : List Nat} {depth : Nat}

theorem isChars_writeItems {items : List Value} {parts : List Text}
    (h : ∀ v ∈ items, ∀ w, write style around depth v = .ok w → w.isChars = true)
    (hparts : writeItems style around depth items = .ok parts) :
    ∀ w ∈ parts, isChars w = true := by
  induction items generalizing parts with
  | nil =>
      cases hparts
      simp
  | cons v rest ih =>
      rw [List.forall_mem_cons] at h
      simp only [writeItems, bind_eq_ok_iff] at hparts
      obtain ⟨w, hw, ws, hws, hcons⟩ := hparts
      cases hcons
      exact List.forall_mem_cons.mpr ⟨h.1 w hw, ih h.2 hws⟩

theorem isChars_writeEntries {entries : List (Value × Value)} {parts : List Text}
    (hkeys : ∀ e ∈ entries, ∀ s, e.1 = .text s → s.isChars = true)
    (h : ∀ e ∈ entries, ∀ w, write style around depth e.2 = .ok w → w.isChars = true)
    (hparts : writeEntries style around depth entries = .ok parts) :
    ∀ w ∈ parts, isChars w = true := by
  induction entries generalizing parts with
  | nil =>
      cases hparts
      simp
  | cons e rest ih =>
      obtain ⟨k, v⟩ := e
      rw [List.forall_mem_cons] at h hkeys
      simp only [writeEntries, bind_eq_ok_iff] at hparts
      obtain ⟨key, hkey, w, hw, ws, hws, hcons⟩ := hparts
      cases hcons
      refine List.forall_mem_cons.mpr ⟨?_, ih hkeys.2 h.2 hws⟩
      simp [isChars_string (isChars_keyText hkey hkeys.1), h.1 w hw]

theorem isChars_write {v : Value} {w : Text} (h : ∀ s ∈ v.texts, s.isChars = true)
    (hw : write style around depth v = .ok w) : w.isChars = true := by
  induction v using Value.byParts generalizing around depth w with
  | list items ih | tuple items ih =>
      simp only [Value.forall_texts_list, Value.forall_texts_tuple] at h
      simp only [write, bind_eq_ok_iff] at hw
      obtain ⟨parts, hparts, henclose⟩ := hw
      cases henclose
      exact isChars_enclose rfl rfl
        (isChars_writeItems (fun v hv w hvw => ih v hv (h v hv) hvw) hparts)
  | map entries ih =>
      rw [Value.forall_texts_map] at h
      simp only [write, bind_eq_ok_iff] at hw
      obtain ⟨parts, hparts, henclose⟩ := hw
      cases henclose
      exact isChars_enclose rfl rfl (isChars_writeEntries (fun e he => (h e he).1)
        (fun e he w hew => ih e he (h e he).2 hew) hparts)
  | knot label container ih =>
      rw [write] at hw
      split at hw
      · cases hw
      · exact ih h hw
  | leaf v hleaf =>
      cases v with
      | null => cases hw; rfl
      | bool b => cases hw; cases b <;> rfl
      | int n => exact isChars_integer hw
      | float x => cases hw; exact isChars_ofString _
      | text s => cases hw; exact isChars_string (h s (by simp [Value.texts]))
      | list | tuple | map | knot => cases hleaf
      | _ => cases hw

/-- The JSON text of a value without surrogates consists of characters. -/
theorem isChars_text {v : Value} {w : Text} (h : ∀ s ∈ v.texts, s.isChars = true)
    (hw : text style v = .ok w) : w.isChars = true := by
  rw [text.eq_def] at hw
  split at hw
  · next s =>
      cases hw
      exact isChars_string (h s (by simp [Value.texts]))
  · cases hw
  · exact isChars_write h hw

end Json
end TerseSchema
