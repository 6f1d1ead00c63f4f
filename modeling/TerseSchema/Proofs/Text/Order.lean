import TerseSchema.Text.Basic
import Mathlib.Tactic.Common
/-!
# Order of texts

Texts are ordered by their code points: any two of them can be put in order, and none but
equal ones both ways round.
-/

namespace TerseSchema

/-- No two code points have the same number: there are no characters among the surrogates. -/
theorem CodePoint.code_injective {a b : CodePoint} (h : a.code = b.code) : a = b := by
  have hvalid : ∀ (c : Char) (offset : Fin 0x800), c.toNat ≠ firstSurrogate + offset.val := by
    intro c offset heq
    have hchar : c.toNat < 0xd800 ∨ (0xdfff < c.toNat ∧ c.toNat < 0x110000) := c.valid
    have hoffset := offset.isLt
    simp only [firstSurrogate] at heq
    omega
  cases a with
  | char c =>
      cases b with
      | char d => exact congrArg CodePoint.char (Char.toNat_inj.mp h)
      | surrogate offset => exact absurd h (hvalid c offset)
  | surrogate offset =>
      cases b with
      | char d => exact absurd h.symm (hvalid d offset)
      | surrogate other =>
          have hval : offset.val = other.val := Nat.add_left_cancel h
          exact congrArg CodePoint.surrogate (Fin.ext hval)

namespace Text

theorem isUpTo_cons_iff {a b : CodePoint} {s t : Text} :
    isUpTo (a :: s) (b :: t) = true ↔ a.code < b.code ∨ (a = b ∧ isUpTo s t = true) := by
  have hcode : a.code = b.code ↔ a = b := ⟨CodePoint.code_injective, fun h => by rw [h]⟩
  simp [isUpTo, hcode]

theorem isUpTo_total (s t : Text) : isUpTo s t = true ∨ isUpTo t s = true := by
  induction s generalizing t with
  | nil => exact .inl (by simp [isUpTo])
  | cons a s ih =>
      cases t with
      | nil => exact .inr rfl
      | cons b t =>
          rw [isUpTo_cons_iff, isUpTo_cons_iff]
          rcases Nat.lt_trichotomy a.code b.code with hlt | heq | hgt
          · exact .inl (.inl hlt)
          · obtain rfl := CodePoint.code_injective heq
            exact (ih t).imp (fun h => .inr ⟨rfl, h⟩) fun h => .inr ⟨rfl, h⟩
          · exact .inr (.inl hgt)

theorem isUpTo_trans (s t u : Text) (hst : isUpTo s t = true) (htu : isUpTo t u = true) :
    isUpTo s u = true := by
  induction s generalizing t u with
  | nil => simp [isUpTo]
  | cons a s ih =>
      cases t with
      | nil => simp [isUpTo] at hst
      | cons b t =>
          cases u with
          | nil => simp [isUpTo] at htu
          | cons c u =>
              rw [isUpTo_cons_iff] at hst htu ⊢
              rcases hst with hab | ⟨rfl, hst⟩ <;> rcases htu with hbc | ⟨rfl, htu⟩
              · exact .inl (Nat.lt_trans hab hbc)
              · exact .inl hab
              · exact .inl hbc
              · exact .inr ⟨rfl, ih t u hst htu⟩

theorem isUpTo_antisymm (s t : Text) (hst : isUpTo s t = true) (hts : isUpTo t s = true) :
    s = t := by
  induction s generalizing t with
  | nil =>
      cases t with
      | nil => rfl
      | cons b t => simp [isUpTo] at hts
  | cons a s ih =>
      cases t with
      | nil => simp [isUpTo] at hst
      | cons b t =>
          rw [isUpTo_cons_iff] at hst hts
          rcases hst with hab | ⟨rfl, hst⟩ <;> rcases hts with hba | ⟨heq, hts⟩
          · exact absurd hba (Nat.lt_asymm hab)
          · rw [heq] at hab
            exact absurd hab (Nat.lt_irrefl _)
          · exact absurd hba (Nat.lt_irrefl _)
          · rw [ih t hst hts]

abbrev Precedes (a b : CodePoint) : Prop := a.code < b.code

/-- Texts are in lexicographic order. -/
theorem isUpTo_iff_lex {s t : Text} : isUpTo s t = true ↔ s = t ∨ List.Lex Precedes s t := by
  induction s generalizing t with
  | nil => cases t <;> simp [isUpTo]
  | cons a s ih =>
      cases t with
      | nil => simp [isUpTo]
      | cons b t =>
          rw [isUpTo_cons_iff, List.cons_lex_cons_iff, List.cons.injEq, ih]
          tauto

end Text
end TerseSchema
