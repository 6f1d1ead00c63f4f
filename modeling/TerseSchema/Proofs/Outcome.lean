import Mathlib.Tactic.Common
/-!
# Outcomes

How a chain of steps that may fail comes to its end: with the last value, or with the failure of
the first step that fails.
-/

namespace TerseSchema

variable {ε ε' α β γ δ : Type} {x : Except ε α}

theorem isOk_iff : x.isOk = true ↔ ∃ a, x = .ok a := by
  cases x <;> simp [Except.isOk, Except.toBool]

theorem bind_eq_ok_iff {f : α → Except ε β} {b : β} :
    x >>= f = .ok b ↔ ∃ a, x = .ok a ∧ f a = .ok b := by
  cases x <;> simp [bind, Except.bind]

theorem bind_eq_error_iff {f : α → Except ε β} {e : ε} :
    x >>= f = .error e ↔ x = .error e ∨ ∃ a, x = .ok a ∧ f a = .error e := by
  cases x <;> simp [bind, Except.bind]

theorem pure_ne_error {a : α} {e : ε} : (pure a : Except ε α) ≠ .error e := by
  simp [pure, Except.pure]

theorem map_eq_error_iff {g : α → β} {e : ε} : x.map g = .error e ↔ x = .error e := by
  cases x <;> simp [Except.map]

theorem mapError_eq_ok_iff {f : ε → ε'} {a : α} : x.mapError f = .ok a ↔ x = .ok a := by
  cases x <;> simp [Except.mapError]

theorem mapError_eq_error_iff {f : ε → ε'} {e : ε'} :
    x.mapError f = .error e ↔ ∃ e', x = .error e' ∧ f e' = e := by
  cases x <;> simp [Except.mapError]

theorem exists_mapM_eq_ok {f : α → Except ε β} {xs : List α} (h : ∀ x ∈ xs, ∃ y, f x = .ok y) :
    ∃ ys, xs.mapM f = .ok ys := by
  induction xs with
  | nil => exact ⟨[], rfl⟩
  | cons x rest ih =>
      rw [List.forall_mem_cons] at h
      obtain ⟨⟨y, hy⟩, hrest⟩ := h
      obtain ⟨ys, hys⟩ := ih hrest
      refine ⟨y :: ys, ?_⟩
      rw [List.mapM_cons, hy, hys]
      rfl

/-- A list goes wrong as `P` says at the first element that fails as `F` says, after elements
that pass as `A` says. Elements are counted from `i` on. -/
theorem exists_first_iff {P : Nat → List α → Prop} {F : Nat → α → Prop} {A : α → Prop}
    (hnil : ∀ i, ¬P i []) (hcons : ∀ i x rest, P i (x :: rest) ↔ F i x ∨ A x ∧ P (i + 1) rest)
    {i : Nat} {l : List α} :
    P i l ↔ ∃ before x after, l = before ++ x :: after ∧ (∀ y ∈ before, A y) ∧
      F (i + before.length) x := by
  induction l generalizing i with
  | nil => simp [hnil]
  | cons x rest ih =>
      rw [hcons, ih]
      constructor
      · rintro (hfails | ⟨hpasses, before, y, after, rfl, hbefore, hfails⟩)
        · exact ⟨[], x, rest, rfl, by simp, hfails⟩
        · refine ⟨x :: before, y, after, rfl, List.forall_mem_cons.mpr ⟨hpasses, hbefore⟩, ?_⟩
          rwa [List.length_cons, Nat.add_comm before.length, ← Nat.add_assoc]
      · rintro ⟨before, y, after, heq, hbefore, hfails⟩
        cases before with
        | nil =>
            cases heq
            exact .inl hfails
        | cons first before =>
            cases heq
            rw [List.forall_mem_cons] at hbefore
            rw [List.length_cons, Nat.add_comm before.length, ← Nat.add_assoc] at hfails
            exact .inr ⟨hbefore.1, before, y, after, rfl, hbefore.2, hfails⟩

/-- Whether two chains come to the same end: to values that `R` relates, or to one failure. -/
inductive SameEnd (R : α → β → Prop) : Except ε α → Except ε β → Prop where
  | ok {a : α} {b : β} (h : R a b) : SameEnd R (.ok a) (.ok b)
  | error (e : ε) : SameEnd R (.error e) (.error e)

theorem SameEnd.bind {R : α → β → Prop} {S : γ → δ → Prop} {y : Except ε β} {f : α → Except ε γ}
    {g : β → Except ε δ} (h : SameEnd R x y) (hnext : ∀ a b, R a b → SameEnd S (f a) (g b)) :
    SameEnd S (x >>= f) (y >>= g) := by
  cases h with
  | ok hab => exact hnext _ _ hab
  | error e => exact .error e

theorem SameEnd.mapError {R : α → β → Prop} {y : Except ε β} (f : ε → ε') (h : SameEnd R x y) :
    SameEnd R (x.mapError f) (y.mapError f) := by
  cases h with
  | ok hab => exact .ok hab
  | error e => exact .error (f e)

/-- The step after one that goes well. -/
theorem bind_of_ok {σ : Type} {p : StateT σ (Except ε) α} {f : α → StateT σ (Except ε) β}
    {s t : σ} {a : α} (h : p s = .ok (a, t)) : (p >>= f) s = f a t := by
  show (p s >>= fun r => f r.1 r.2) = f a t
  rw [h]
  rfl

/-! ## Steps with a state -/

section

variable {σ : Type} {P P' : σ → Prop} {E : ε → Prop} {Q Q' : α → σ → Prop} {R : β → σ → Prop}
  {p : StateT σ (Except ε) α}

/-- Whether an outcome is a value and a state as `Q` says, or a failure as `E` says. -/
inductive EndsAs (E : ε → Prop) (Q : α → σ → Prop) : Except ε (α × σ) → Prop where
  | ok {a : α} {t : σ} (h : Q a t) : EndsAs E Q (.ok (a, t))
  | error {e : ε} (h : E e) : EndsAs E Q (.error e)

theorem EndsAs.of_ok {a : α} {t : σ} (h : EndsAs E Q (.ok (a, t) : Except ε (α × σ))) :
    Q a t := by
  cases h with
  | ok h => exact h

theorem EndsAs.of_error {e : ε} (h : EndsAs E Q (.error e : Except ε (α × σ))) : E e := by
  cases h with
  | error h => exact h

def Ends (P : σ → Prop) (E : ε → Prop) (Q : α → σ → Prop) (p : StateT σ (Except ε) α) : Prop :=
  ∀ s, P s → EndsAs E Q (p s)

namespace Ends

theorem mono (h : Ends P E Q p) (hbefore : ∀ s, P' s → P s) (hafter : ∀ a t, Q a t → Q' a t) :
    Ends P' E Q' p := by
  intro s hs
  have hrun := h s (hbefore s hs)
  generalize p s = x at hrun ⊢
  cases hrun with
  | ok h => exact .ok (hafter _ _ h)
  | error h => exact .error h

theorem pure {a : α} (h : ∀ s, P s → Q a s) : Ends P E Q (pure a) := fun s hs => .ok (h s hs)

theorem throw {e : ε} (h : E e) : Ends P E Q (throw e) := fun _ _ => .error h

theorem throw_bind {e : ε} (h : E e) (f : α → StateT σ (Except ε) β) :
    Ends P E R (MonadExcept.throw e >>= f) :=
  fun _ _ => .error h

theorem get : Ends P E (fun a s => a = s ∧ P s) get := fun _ hs => .ok ⟨rfl, hs⟩

theorem lift (hok : ∀ a, x = .ok a → ∀ s, P s → Q a s) (herror : ∀ e, x = .error e → E e) :
    Ends P E Q (liftM x) := by
  intro s hs
  cases x with
  | ok a => exact .ok (hok a rfl s hs)
  | error e => exact .error (herror e rfl)

theorem bind {f : α → StateT σ (Except ε) β} (hp : Ends P E Q p)
    (hf : ∀ a, Ends (Q a) E R (f a)) : Ends P E R (p >>= f) := by
  intro s hs
  have hrun := hp s hs
  show EndsAs E R (p s >>= fun r => f r.1 r.2)
  generalize p s = x at hrun ⊢
  cases hrun with
  | ok h => exact hf _ _ h
  | error h => exact .error h

theorem mapM {S : β → Prop} {f : α → StateT σ (Except ε) β} {xs : List α}
    (h : ∀ x ∈ xs, Ends P E (fun b t => P t ∧ S b) (f x)) :
    Ends P E (fun bs t => P t ∧ ∀ b ∈ bs, S b) (xs.mapM f) := by
  induction xs with
  | nil => exact .pure fun s hs => ⟨hs, by simp⟩
  | cons x xs ih =>
      rw [List.forall_mem_cons] at h
      rw [List.mapM_cons]
      refine h.1.bind fun b s ⟨hs, hb⟩ => ?_
      exact ((ih h.2).bind fun bs => .pure fun t ht =>
        ⟨ht.1, List.forall_mem_cons.mpr ⟨hb, ht.2⟩⟩) s hs

theorem foldlM {f : β → α → StateT σ (Except ε) β} {xs : List α}
    (h : ∀ b, ∀ x ∈ xs, Ends P E (fun _ => P) (f b x)) (b : β) :
    Ends P E (fun _ => P) (xs.foldlM f b) := by
  induction xs generalizing b with
  | nil => exact .pure fun _ hs => hs
  | cons x xs ih =>
      rw [List.foldlM_cons]
      exact (h b x List.mem_cons_self).bind fun c =>
        ih (fun d y hy => h d y (List.mem_cons_of_mem x hy)) c

theorem forM {f : α → StateT σ (Except ε) Unit} {xs : List α}
    (h : ∀ x ∈ xs, Ends P E (fun _ => P) (f x)) :
    Ends P E (fun _ => P) (xs.forM f) := by
  induction xs with
  | nil => exact .pure fun _ hs => hs
  | cons x xs ih =>
      rw [List.forall_mem_cons] at h
      exact h.1.bind fun _ => ih h.2

end Ends

end

end TerseSchema
