import TerseSchema.Entries
import Mathlib.Data.List.Forall2
import Mathlib.Data.List.Induction
import Mathlib.Data.List.Nodup
import Mathlib.Tactic.Common
/-!
# Names of entries

What putting does to the names of a map: a name is there once, in its first place. Entries under
new names are appended as they come.
-/

namespace TerseSchema.Entries

variable {α : Type}

def names (es : Entries α) : List Text := es.map Prod.fst

@[simp] theorem names_nil : names ([] : Entries α) = [] := rfl

@[simp] theorem names_cons (e : Text × α) (es : Entries α) :
    names (e :: es) = e.1 :: names es := rfl

@[simp] theorem names_append (es more : Entries α) :
    names (es ++ more) = names es ++ names more := by
  simp [names]

theorem names_map {β : Type} (f : Text × α → β) (es : Entries α) :
    names (es.map fun e => (e.1, f e)) = names es := by
  simp [names, Function.comp_def]

theorem mem_names_of_mem {name : Text} {value : α} {es : Entries α}
    (h : (name, value) ∈ es) : name ∈ names es :=
  List.mem_map_of_mem (f := Prod.fst) h

/-! ## Putting -/

theorem put_of_not_mem {name : Text} {es : Entries α} (value : α)
    (h : name ∉ names es) : put name value es = es ++ [(name, value)] := by
  induction es with
  | nil => rfl
  | cons e es ih =>
      obtain ⟨k, v⟩ := e
      simp only [names_cons, List.mem_cons, not_or] at h
      have hk : k ≠ name := fun heq => h.1 heq.symm
      simp [put, hk, ih h.2]

theorem names_put_of_mem {name : Text} {es : Entries α} (value : α)
    (h : name ∈ names es) : names (put name value es) = names es := by
  induction es with
  | nil => simp at h
  | cons e es ih =>
      obtain ⟨k, v⟩ := e
      by_cases hk : k = name
      · simp [put, hk]
      · have hrest : name ∈ names es := by
          rcases List.mem_cons.mp h with heq | hmem
          · exact absurd heq.symm hk
          · exact hmem
        simp [put, hk, ih hrest]

theorem names_put (name : Text) (value : α) (es : Entries α) :
    names (put name value es) =
      if name ∈ names es then names es else names es ++ [name] := by
  split
  · next h => exact names_put_of_mem value h
  · next h => simp [put_of_not_mem value h]

theorem nodup_names_put {es : Entries α} (name : Text) (value : α)
    (h : (names es).Nodup) : (names (put name value es)).Nodup := by
  rw [names_put]
  split
  · exact h
  · next hnew =>
      rw [List.nodup_append]
      refine ⟨h, List.nodup_singleton name, ?_⟩
      intro k hk k' hk' heq
      rw [List.mem_singleton] at hk'
      exact hnew (hk' ▸ heq ▸ hk)

theorem mem_put {name : Text} {value : α} {es : Entries α} {e : Text × α}
    (h : e ∈ put name value es) : e = (name, value) ∨ e ∈ es := by
  induction es with
  | nil => exact Or.inl (List.mem_singleton.mp h)
  | cons f es ih =>
      obtain ⟨k, v⟩ := f
      by_cases hk : k = name
      · simp only [put, hk, if_true, List.mem_cons] at h
        exact h.imp_right (List.mem_cons_of_mem (k, v))
      · simp only [put, hk, if_false, List.mem_cons] at h
        rcases h with rfl | h
        · exact Or.inr List.mem_cons_self
        · exact (ih h).imp_right (List.mem_cons_of_mem (k, v))

theorem nodup_names_putAll {es : Entries α} (more : Entries α) (h : (names es).Nodup) :
    (names (es.putAll more)).Nodup := by
  induction more generalizing es with
  | nil => exact h
  | cons e more ih => exact ih (nodup_names_put e.1 e.2 h)

theorem eraseDups_concat {β : Type} [BEq β] [LawfulBEq β] (xs : List β) (x : β) :
    (xs ++ [x]).eraseDups = if xs.contains x then xs.eraseDups else xs.eraseDups ++ [x] := by
  rw [List.eraseDups_append]
  by_cases hx : x ∈ xs
  · simp [List.removeAll, hx]
  · simp [List.removeAll, hx, List.eraseDups_cons]

theorem eraseDups_of_nodup {β : Type} [BEq β] [LawfulBEq β] {xs : List β} (h : xs.Nodup) :
    xs.eraseDups = xs := by
  induction xs using List.reverseRecOn with
  | nil => rfl
  | append_singleton xs x ih =>
      have hx : x ∉ xs := fun hmem => (List.nodup_append.mp h).2.2 x hmem x (by simp) rfl
      simp [eraseDups_concat, hx, ih h.of_append_left]

theorem putAll_concat (es more : Entries α) (e : Text × α) :
    putAll es (more ++ [e]) = put e.1 e.2 (putAll es more) := by
  simp [putAll, List.foldl_append]

/-- Entries put one after another into an empty map leave each name where it first appeared. -/
theorem names_putAll_nil (more : Entries α) :
    names (putAll [] more) = (names more).eraseDups := by
  induction more using List.reverseRecOn with
  | nil => rfl
  | append_singleton more e ih =>
      rw [putAll_concat, names_put, ih, names_append, names_cons, names_nil, eraseDups_concat]
      simp only [List.mem_eraseDups, List.contains_iff_mem]

theorem mem_putAll {es more : Entries α} {e : Text × α} (h : e ∈ es.putAll more) :
    e ∈ es ∨ e ∈ more := by
  induction more generalizing es with
  | nil => exact .inl h
  | cons f more ih =>
      rcases ih h with hput | hmore
      · rcases mem_put hput with rfl | hes
        · exact .inr List.mem_cons_self
        · exact .inl hes
      · exact .inr (List.mem_cons_of_mem f hmore)

/-- Entries under new names, no two the same, are appended as they are. -/
theorem putAll_of_nodup {es more : Entries α} (h : (names (es ++ more)).Nodup) :
    es.putAll more = es ++ more := by
  induction more generalizing es with
  | nil => simp [putAll]
  | cons e more ih =>
      have hnew : e.1 ∉ names es := by
        intro hmem
        rw [names_append, List.nodup_append] at h
        exact h.2.2 e.1 hmem e.1 (by simp) rfl
      have happ : es ++ [(e.1, e.2)] ++ more = es ++ e :: more := by simp
      have hrest := @ih (es ++ [(e.1, e.2)]) (happ ▸ h)
      rw [happ] at hrest
      rw [← hrest, putAll, List.foldl_cons, put_of_not_mem e.2 hnew]
      rfl

theorem putAll_map {β : Type} (f : α → β) (es more : Entries α) :
    putAll (es.map fun e => (e.1, f e.2)) (more.map fun e => (e.1, f e.2)) =
      (putAll es more).map fun e => (e.1, f e.2) := by
  have hput : ∀ (name : Text) (value : α) (es : Entries α),
      put name (f value) (es.map fun e => (e.1, f e.2)) =
        (put name value es).map fun e => (e.1, f e.2) := by
    intro name value es
    induction es with
    | nil => rfl
    | cons e es ih =>
        obtain ⟨k, v⟩ := e
        by_cases hk : k = name <;> simp [put, hk, ih]
  induction more generalizing es with
  | nil => rfl
  | cons e more ih =>
      have hrest := ih (put e.1 e.2 es)
      rw [← hput] at hrest
      exact hrest

/-! ## Looking up -/

theorem get?_append_singleton {name other : Text} {value : α} {es : Entries α}
    (h : other ∉ names es) :
    get? name (es ++ [(other, value)]) = if other = name then some value else get? name es := by
  induction es with
  | nil => simp [get?]
  | cons e es ih =>
      obtain ⟨k, v⟩ := e
      simp only [names_cons, List.mem_cons, not_or] at h
      by_cases hk : k = name
      · have hother : other ≠ name := fun heq => h.1 (heq.trans hk.symm)
        simp [get?, hk, hother]
      · simp [get?, hk, ih h.2]

theorem get?_put (name other : Text) (value : α) (es : Entries α) :
    get? name (put other value es) = if other = name then some value else get? name es := by
  induction es with
  | nil => simp [put, get?]
  | cons e es ih =>
      obtain ⟨k, v⟩ := e
      by_cases hk : k = other
      · subst hk
        by_cases hname : k = name <;> simp [put, get?, hname]
      · by_cases hname : k = name
        · subst hname
          simp [put, get?, hk, Ne.symm hk]
        · simp [put, get?, hk, hname, ih]

/-- Of several values put under one name, the last stays. -/
theorem get?_putAll_nil (name : Text) (more : Entries α) :
    get? name (putAll [] more) = ((more.filter fun e => e.1 = name).getLast?).map Prod.snd := by
  induction more using List.reverseRecOn with
  | nil => rfl
  | append_singleton more e ih =>
      rw [putAll_concat, get?_put, ih]
      by_cases he : e.1 = name
      · simp [List.filter_append, he]
      · simp [List.filter_append, he]

theorem get?_eq_none_iff {name : Text} {es : Entries α} :
    get? name es = none ↔ name ∉ names es := by
  induction es with
  | nil => simp [get?]
  | cons e es ih =>
      obtain ⟨k, v⟩ := e
      by_cases hk : k = name
      · simp [get?, hk]
      · simp [get?, hk, Ne.symm hk, ih]

theorem mem_of_get? {name : Text} {value : α} {es : Entries α}
    (h : get? name es = some value) : (name, value) ∈ es := by
  induction es with
  | nil => simp [get?] at h
  | cons e es ih =>
      obtain ⟨k, v⟩ := e
      by_cases hk : k = name
      · simp only [get?, hk, if_true, Option.some.injEq] at h
        simp [hk, h]
      · simp only [get?, hk, if_false] at h
        exact List.mem_cons_of_mem _ (ih h)

theorem get?_eq_some_iff {name : Text} {value : α} {es : Entries α} (h : (names es).Nodup) :
    get? name es = some value ↔ (name, value) ∈ es := by
  constructor
  · exact mem_of_get?
  · intro hmem
    induction es with
    | nil => simp at hmem
    | cons e es ih =>
        obtain ⟨k, v⟩ := e
        rw [names_cons, List.nodup_cons] at h
        rcases List.mem_cons.mp hmem with heq | hrest
        · simp only [Prod.mk.injEq] at heq
          simp [get?, heq.1, heq.2]
        · have hk : k ≠ name := fun heq => h.1 (heq ▸ mem_names_of_mem hrest)
          simp [get?, hk, ih h.2 hrest]

/-- Under distinct names, the order of entries does not matter for looking up. -/
theorem get?_perm {es fs : Entries α} (hperm : es.Perm fs) (h : (names es).Nodup) (name : Text) :
    get? name es = get? name fs := by
  have hfs : (names fs).Nodup := (hperm.map Prod.fst).nodup_iff.mp h
  ext value
  rw [get?_eq_some_iff h, get?_eq_some_iff hfs, hperm.mem_iff]

variable {β : Type} {R : α → β → Prop}

theorem get?_rel {es : Entries α} {fs : Entries β} (name : Text)
    (h : List.Forall₂ (fun e f => e.1 = f.1 ∧ R e.2 f.2) es fs) :
    Option.Rel R (get? name es) (get? name fs) := by
  induction h with
  | nil => exact .none
  | @cons e f es fs hef _ ih =>
      obtain ⟨k, v⟩ := e
      obtain ⟨_, w⟩ := f
      obtain ⟨rfl, hvw⟩ := hef
      by_cases hk : k = name
      · simpa [get?, hk] using Option.Rel.some hvw
      · simpa [get?, hk] using ih

/-- Values put under one name into maps that are paired off leave them paired off. -/
theorem forall₂_put {es : Entries α} {fs : Entries β} {name : Text} {v : α} {w : β} (hvw : R v w)
    (h : List.Forall₂ (fun e f => e.1 = f.1 ∧ R e.2 f.2) es fs) :
    List.Forall₂ (fun e f => e.1 = f.1 ∧ R e.2 f.2) (put name v es) (put name w fs) := by
  induction h with
  | nil => exact .cons ⟨rfl, hvw⟩ .nil
  | @cons e f es fs hef hrest ih =>
      obtain ⟨k, x⟩ := e
      obtain ⟨_, y⟩ := f
      obtain ⟨rfl, hxy⟩ := hef
      by_cases hk : k = name
      · simpa [put, hk] using ⟨hvw, hrest⟩
      · simpa [put, hk] using ⟨hxy, ih⟩

theorem forall₂_putAll {es more : Entries α} {fs others : Entries β}
    (h : List.Forall₂ (fun e f => e.1 = f.1 ∧ R e.2 f.2) es fs)
    (hmore : List.Forall₂ (fun e f => e.1 = f.1 ∧ R e.2 f.2) more others) :
    List.Forall₂ (fun e f => e.1 = f.1 ∧ R e.2 f.2) (putAll es more) (putAll fs others) := by
  induction hmore generalizing es fs with
  | nil => exact h
  | @cons e f more others hef _ ih =>
      obtain ⟨k, v⟩ := e
      obtain ⟨_, w⟩ := f
      obtain ⟨rfl, hvw⟩ := hef
      exact ih (forall₂_put hvw h)

theorem names_eq_of_forall₂ {es : Entries α} {fs : Entries β}
    (h : List.Forall₂ (fun e f => e.1 = f.1 ∧ R e.2 f.2) es fs) : names es = names fs := by
  induction h with
  | nil => rfl
  | cons hef _ ih => simp [hef.1, ih]

end TerseSchema.Entries
