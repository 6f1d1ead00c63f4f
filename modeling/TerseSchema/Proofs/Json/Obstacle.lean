import TerseSchema.Proofs.Schema.Settled
/-!
# What JSON has no text for

A value has a JSON text exactly when nothing that it is made of stands in the way: a value of a
kind that JSON does not have, a key that is neither a text nor written as one, a number of too
many digits, or a container that lies inside of itself.
-/

namespace TerseSchema.Json

variable {v w : Value} {around : List Nat}

/-- The keys that are written as a text: null, truth values and numbers besides texts. -/
inductive IsKey : Value → Prop where
  | null : IsKey .null
  | bool (b : Bool) : IsKey (.bool b)
  | int {n : Int} (h : isWritable n = true) : IsKey (.int n)
  | float (x : Binary64) : IsKey (.float x)
  | text (s : Text) : IsKey (.text s)

/-- What no JSON text is made of. -/
inductive IsObstacle : Value → Prop where
  | set (members : List Value) : IsObstacle (.set members)
  | bytes (octets : List UInt8) : IsObstacle (.bytes octets)
  | date (d : Date) : IsObstacle (.date d)
  | moment (t : Moment) : IsObstacle (.moment t)
  | forbidden : IsObstacle .forbidden
  | schema (s : Schema) : IsObstacle (.schema s)
  /-- A number of more digits than are ever written. -/
  | int {n : Int} (h : isWritable n = false) : IsObstacle (.int n)
  | key {entries : List (Value × Value)} {k v : Value} (hmem : (k, v) ∈ entries)
      (hkey : ¬IsKey k) :
      IsObstacle (.map entries)
  /-- A container that is met again inside of itself. -/
  | knot {label : Nat} {container other : Value} (h : container.Reaches (.knot label other)) :
      IsObstacle (.knot label container)
  | cut (label : Nat) (container : Container) : IsObstacle (.cut label container)

theorem exists_integer_iff {n : Int} : (∃ w, integer n = .ok w) ↔ isWritable n = true := by
  rw [integer]
  split <;> simp_all

theorem exists_keyText_iff {k : Value} : (∃ key, keyText k = .ok key) ↔ IsKey k := by
  cases k with
  | null => exact iff_of_true ⟨_, rfl⟩ .null
  | bool b => exact iff_of_true ⟨_, rfl⟩ (.bool b)
  | float x => exact iff_of_true ⟨_, rfl⟩ (.float x)
  | text s => exact iff_of_true ⟨_, rfl⟩ (.text s)
  | int n =>
      refine exists_integer_iff.trans ⟨.int, fun h => ?_⟩
      cases h with
      | int h => exact h
  | _ => exact iff_of_false (by rintro ⟨_, ⟨⟩⟩) (by rintro ⟨⟩)

/-! ## Parts -/

def Clear (around : List Nat) (v : Value) : Prop :=
  ∀ w, v.Reaches w → ¬IsObstacle w ∧
    ∀ label container, w = .knot label container → label ∉ around

theorem clear_iff_of_parts {parts : List Value}
    (hknot : ∀ label container, v ≠ .knot label container)
    (hparts : ∀ u, v.Reaches u ↔ u = v ∨ ∃ w ∈ parts, w.Reaches u) :
    Clear around v ↔ ¬IsObstacle v ∧ ∀ w ∈ parts, Clear around w := by
  simp only [Clear, hparts]
  constructor
  · exact fun h => ⟨(h v (.inl rfl)).1, fun w hw u hu => h u (.inr ⟨w, hw, hu⟩)⟩
  · rintro ⟨hv, h⟩ u (rfl | ⟨w, hw, hu⟩)
    · exact ⟨hv, fun label container heq => absurd heq (hknot label container)⟩
    · exact h w hw u hu

theorem clear_list_iff {items : List Value} :
    Clear around (.list items) ↔ ∀ v ∈ items, Clear around v :=
  (clear_iff_of_parts (by simp) fun _ => Value.reaches_list_iff).trans
    (and_iff_right (by rintro ⟨⟩))

theorem clear_tuple_iff {items : List Value} :
    Clear around (.tuple items) ↔ ∀ v ∈ items, Clear around v :=
  (clear_iff_of_parts (by simp) fun _ => Value.reaches_tuple_iff).trans
    (and_iff_right (by rintro ⟨⟩))

theorem clear_map_iff {entries : List (Value × Value)} :
    Clear around (.map entries) ↔ ∀ e ∈ entries, IsKey e.1 ∧ Clear around e.2 := by
  have hmap : ¬IsObstacle (.map entries) ↔ ∀ e ∈ entries, IsKey e.1 := by
    constructor
    · intro h e he
      by_contra hkey
      exact h (.key he hkey)
    · intro h hobstacle
      cases hobstacle with
      | key hmem hkey => exact hkey (h _ hmem)
  have hparts : ∀ u, (Value.map entries).Reaches u ↔
      u = .map entries ∨ ∃ w ∈ entries.map Prod.snd, w.Reaches u := by
    simp only [Value.reaches_map_iff, List.mem_map, exists_exists_and_eq_and, implies_true]
  rw [clear_iff_of_parts (by simp) hparts, hmap, List.forall_mem_map]
  exact forall₂_and.symm

theorem clear_knot_iff {label : Nat} {container : Value} :
    Clear around (.knot label container) ↔
    label ∉ around ∧ Clear (label :: around) container := by
  simp only [Clear, Value.reaches_knot_iff, List.mem_cons, not_or]
  constructor
  · intro h
    obtain ⟨hknot, hlabel⟩ := h _ (.inl rfl)
    refine ⟨hlabel label container rfl, fun w hw => ⟨(h w (.inr hw)).1, ?_⟩⟩
    rintro other inner rfl
    refine ⟨?_, (h _ (.inr hw)).2 other inner rfl⟩
    rintro rfl
    exact hknot (.knot hw)
  · rintro ⟨hlabel, h⟩ w (rfl | hw)
    · refine ⟨?_, fun _ _ heq => by cases heq; exact hlabel⟩
      rintro ⟨⟩
      next hreaches => exact ((h _ hreaches).2 _ _ rfl).1 rfl
    · exact ⟨(h w hw).1, fun other inner heq => ((h w hw).2 other inner heq).2⟩

theorem clear_leaf_iff (hleaf : v.isContainer = false) : Clear around v ↔ ¬IsObstacle v := by
  simp only [Clear, Value.reaches_leaf_iff hleaf, forall_eq]
  refine and_iff_left ?_
  rintro label container rfl
  cases hleaf

theorem exists_plainWithin_list_iff {items : List Value} :
    (∃ x, plainWithin around (.list items) = .ok x) ↔
      ∀ v ∈ items, ∃ x, plainWithin around v = .ok x := by
  simp only [plainWithin_list_eq_ok_iff]
  rw [← exists_forall₂_iff]
  constructor
  · rintro ⟨-, others, hothers, -⟩
    exact ⟨others, hothers⟩
  · rintro ⟨others, hothers⟩
    exact ⟨_, others, hothers, rfl⟩

theorem exists_plainWithin_map_iff {entries : List (Value × Value)} :
    (∃ x, plainWithin around (.map entries) = .ok x) ↔
      ∀ e ∈ entries, IsKey e.1 ∧ ∃ x, plainWithin around e.2 = .ok x := by
  have hentry : ∀ e : Value × Value,
      (∃ f, PlainEntry around e f) ↔ IsKey e.1 ∧ ∃ x, plainWithin around e.2 = .ok x := by
    intro e
    rw [← exists_keyText_iff]
    constructor
    · rintro ⟨f, key, hkey, -, hvalue⟩
      exact ⟨⟨key, hkey⟩, f.2, hvalue⟩
    · rintro ⟨⟨key, hkey⟩, x, hx⟩
      exact ⟨(key.paired, x), key, hkey, rfl, hx⟩
  simp only [plainWithin_map_eq_ok_iff, ← hentry]
  rw [← exists_forall₂_iff]
  constructor
  · rintro ⟨-, es, hes, -⟩
    exact ⟨es, hes⟩
  · rintro ⟨es, hes⟩
    exact ⟨_, es, hes, rfl⟩

theorem exists_plainWithin_int_iff {n : Int} :
    (∃ x, plainWithin around (.int n) = .ok x) ↔ isWritable n = true := by
  rw [← exists_integer_iff]
  simp only [plainWithin, bind_eq_ok_iff]
  constructor
  · rintro ⟨-, w, hw, -⟩
    exact ⟨w, hw⟩
  · rintro ⟨w, hw⟩
    exact ⟨_, w, hw, rfl⟩

/-- Inside of a knot its label is one more that is not to be met, so the
labels are carried along. -/
theorem exists_plainWithin_iff_clear : (∃ x, plainWithin around v = .ok x) ↔ Clear around v := by
  induction v using Value.byParts generalizing around with
  | list items ih =>
      rw [exists_plainWithin_list_iff, clear_list_iff]
      exact forall₂_congr fun v hv => ih v hv
  | tuple items ih =>
      rw [plainWithin_tuple, exists_plainWithin_list_iff, clear_tuple_iff]
      exact forall₂_congr fun v hv => ih v hv
  | map entries ih =>
      rw [exists_plainWithin_map_iff, clear_map_iff]
      exact forall₂_congr fun e he => and_congr_right fun _ => ih e he
  | knot label container ih =>
      rw [clear_knot_iff, ← ih, plainWithin]
      split <;> simp_all
  | leaf v hleaf =>
      rw [clear_leaf_iff hleaf]
      cases v with
      | int n =>
          rw [exists_plainWithin_int_iff, ← Bool.not_eq_false, not_iff_not]
          exact ⟨.int, fun h => by cases h; assumption⟩
      | null => exact iff_of_true ⟨_, rfl⟩ (by rintro ⟨⟩)
      | bool b => exact iff_of_true ⟨_, rfl⟩ (by rintro ⟨⟩)
      | text s => exact iff_of_true ⟨_, rfl⟩ (by rintro ⟨⟩)
      | float x => exact iff_of_true (by cases x <;> exact ⟨_, rfl⟩) (by rintro ⟨⟩)
      | set members => exact iff_of_false (by rintro ⟨_, ⟨⟩⟩) (not_not_intro (.set members))
      | bytes octets => exact iff_of_false (by rintro ⟨_, ⟨⟩⟩) (not_not_intro (.bytes octets))
      | date d => exact iff_of_false (by rintro ⟨_, ⟨⟩⟩) (not_not_intro (.date d))
      | moment t => exact iff_of_false (by rintro ⟨_, ⟨⟩⟩) (not_not_intro (.moment t))
      | forbidden => exact iff_of_false (by rintro ⟨_, ⟨⟩⟩) (not_not_intro .forbidden)
      | schema s => exact iff_of_false (by rintro ⟨_, ⟨⟩⟩) (not_not_intro (.schema s))
      | cut label container =>
        exact iff_of_false (by rintro ⟨_, ⟨⟩⟩) (not_not_intro (.cut label container))
      | list | tuple | map | knot => cases hleaf

/-- There is JSON text of a value exactly when none of its parts stands in the way. -/
theorem encodable_iff : Encodable v ↔ ∀ w, v.Reaches w → ¬IsObstacle w := by
  have hclear : Clear [] v ↔ ∀ w, v.Reaches w → ¬IsObstacle w := by simp [Clear]
  rw [← hclear, ← exists_plainWithin_iff_clear]
  rfl

end TerseSchema.Json
