import Mathlib.Data.List.Forall2
import Mathlib.Logic.Relation
import Mathlib.Tactic.Common
/-!
# Lists paired off

Two lists are paired off by a relation when their elements are, one by one. What holds of each
element of the one then has its counterpart in the other.
-/

namespace TerseSchema

variable {α β : Type} {R : α → β → Prop}

/-- A list can be paired off exactly when each of its elements can. -/
theorem exists_forall₂_iff {xs : List α} :
    (∃ ys, List.Forall₂ R xs ys) ↔ ∀ x ∈ xs, ∃ y, R x y := by
  induction xs with
  | nil => simp
  | cons x rest ih =>
      rw [List.forall_mem_cons, ← ih]
      constructor
      · rintro ⟨ys, hys⟩
        obtain ⟨y, after, hxy, hrest, rfl⟩ := List.forall₂_cons_left_iff.mp hys
        exact ⟨⟨y, hxy⟩, after, hrest⟩
      · rintro ⟨⟨y, hxy⟩, after, hrest⟩
        exact ⟨y :: after, .cons hxy hrest⟩

theorem exists_right_of_forall₂ {xs : List α} {ys : List β} {x : α} (h : List.Forall₂ R xs ys)
    (hx : x ∈ xs) : ∃ y ∈ ys, R x y := by
  induction h with
  | nil => simp at hx
  | cons hxy _ ih =>
      rcases List.mem_cons.mp hx with rfl | hx
      · exact ⟨_, List.mem_cons_self, hxy⟩
      · obtain ⟨y, hy, hR⟩ := ih hx
        exact ⟨y, List.mem_cons_of_mem _ hy, hR⟩

theorem exists_left_of_forall₂ {xs : List α} {ys : List β} {y : β} (h : List.Forall₂ R xs ys)
    (hy : y ∈ ys) : ∃ x ∈ xs, R x y := by
  obtain ⟨x, hx, hR⟩ := exists_right_of_forall₂ (R := flip R) h.flip hy
  exact ⟨x, hx, hR⟩

theorem forall₂_imp_of_mem {S : α → β → Prop} {xs : List α} {ys : List β}
    (h : List.Forall₂ R xs ys) (himp : ∀ x ∈ xs, ∀ y ∈ ys, R x y → S x y) :
    List.Forall₂ S xs ys := by
  induction h with
  | nil => exact .nil
  | cons hxy _ ih =>
      refine .cons (himp _ List.mem_cons_self _ List.mem_cons_self hxy) (ih fun x hx y hy => ?_)
      exact himp x (List.mem_cons_of_mem _ hx) y (List.mem_cons_of_mem _ hy)

theorem forall₂_append_left_iff {xs more : List α} {ys : List β} :
    List.Forall₂ R (xs ++ more) ys ↔
      ∃ us vs, List.Forall₂ R xs us ∧ List.Forall₂ R more vs ∧ ys = us ++ vs := by
  constructor
  · intro h
    induction xs generalizing ys with
    | nil => exact ⟨[], ys, .nil, h, rfl⟩
    | cons x rest ih =>
        obtain ⟨y, after, hxy, hrest, rfl⟩ := List.forall₂_cons_left_iff.mp h
        obtain ⟨us, vs, hus, hvs, rfl⟩ := ih hrest
        exact ⟨y :: us, vs, .cons hxy hus, hvs, rfl⟩
  · rintro ⟨us, vs, hus, hvs, rfl⟩
    exact List.rel_append hus hvs

/-- A list whose elements are all paired off with images is paired off with a list of images. -/
theorem exists_forall₂_map {γ : Type} {Q : α → γ → Prop} {g : γ → β} {xs : List α} {ys : List β}
    (h : List.Forall₂ R xs ys) (hone : ∀ x ∈ xs, ∀ y, R x y → ∃ z, Q x z ∧ y = g z) :
    ∃ zs, List.Forall₂ Q xs zs ∧ ys = zs.map g := by
  induction h with
  | nil => exact ⟨[], .nil, rfl⟩
  | cons hxy _ ih =>
      rw [List.forall_mem_cons] at hone
      obtain ⟨z, hz, rfl⟩ := hone.1 _ hxy
      obtain ⟨zs, hzs, rfl⟩ := ih hone.2
      exact ⟨z :: zs, .cons hz hzs, rfl⟩

theorem exists_eq_some_of_rel {x : Option α} {y : β} (h : Option.Rel R x (some y)) :
    ∃ z, x = some z ∧ R z y := by
  cases h with
  | some hR => exact ⟨_, rfl, hR⟩

theorem optionRel_refl {T : α → α → Prop} (h : ∀ x, T x x) (x : Option α) :
    Option.Rel T x x := by
  cases x with
  | none => exact .none
  | some x => exact .some (h x)

/-- Lists that are paired off have last elements that are, or none. -/
theorem getLast?_rel {xs : List α} {ys : List β} (h : List.Forall₂ R xs ys) :
    Option.Rel R xs.getLast? ys.getLast? := by
  have hreverse := List.rel_reverse h
  rw [← List.head?_reverse, ← List.head?_reverse]
  generalize xs.reverse = us, ys.reverse = vs at hreverse
  cases hreverse with
  | nil => exact .none
  | cons hR _ => exact .some hR

/-- In a list that is paired off, an element is replaced along with its partner. -/
theorem exists_forall₂_replace {S : β → β → Prop} (hrefl : ∀ y, S y y) {before after : List α}
    {x z : α} (hone : ∀ y, R x y → ∃ w, S y w ∧ R z w) {ys : List β}
    (h : List.Forall₂ R (before ++ x :: after) ys) :
    ∃ ws, List.Forall₂ S ys ws ∧ List.Forall₂ R (before ++ z :: after) ws := by
  induction before generalizing ys with
  | nil =>
      obtain ⟨y, rest, hxy, hrest, rfl⟩ := List.forall₂_cons_left_iff.mp h
      obtain ⟨w, hyw, hzw⟩ := hone y hxy
      exact ⟨w :: rest, .cons hyw (List.forall₂_same.mpr fun y _ => hrefl y), .cons hzw hrest⟩
  | cons first before ih =>
      obtain ⟨y, rest, hxy, hrest, rfl⟩ := List.forall₂_cons_left_iff.mp h
      obtain ⟨ws, hws, hreplaced⟩ := ih hrest
      exact ⟨y :: ws, .cons (hrefl y) hws, .cons hxy hreplaced⟩

/-- Steps from each element of a list to its partner make up a chain of steps from the one list
to the other, if each step can be taken in the midst of a list. -/
theorem reflTransGen_of_forall₂ {γ : Type} {T : α → α → Prop} {S : γ → γ → Prop} {xs ys : List α}
    (f : List α → γ) (hone : ∀ before after x y, T x y →
      Relation.ReflTransGen S (f (before ++ x :: after)) (f (before ++ y :: after)))
    (h : List.Forall₂ T xs ys) : Relation.ReflTransGen S (f xs) (f ys) := by
  have hchain : ∀ before,
      Relation.ReflTransGen S (f (before ++ xs)) (f (before ++ ys)) := by
    induction h with
    | nil => exact fun before => .refl
    | @cons x y xs ys hxy _ ih =>
        intro before
        have hrest := ih (before ++ [y])
        simp only [List.append_assoc, List.singleton_append] at hrest
        exact (hone before xs x y hxy).trans hrest
  exact hchain []

end TerseSchema
