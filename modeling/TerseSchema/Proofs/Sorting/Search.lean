import TerseSchema.Sorting
import Mathlib.Tactic.Common
/-!
# Searching for a place

Where the places that are passed come before all others, halving and galloping find the
border between them. In a list in order, this is the border between what stays before an item
and what goes behind it.
-/

namespace TerseSchema.Sorting

/-- `k` is the border between the places from `low` up to `high` that are passed
and those that are not. -/
structure IsBorder (p : Nat → Bool) (low high k : Nat) : Prop where
  low_le : low ≤ k
  le_high : k ≤ high
  passed : ∀ n, low ≤ n → n < k → p n = true
  not_passed : ∀ n, k ≤ n → n < high → p n = false

/-! ## Places -/

section Places

variable {isPassed : Nat → Option Bool} {p : Nat → Bool}
  (hpassed : ∀ n, isPassed n = some (p n))
  (hmono : ∀ m n, m ≤ n → p n = true → p m = true)

include hpassed hmono

omit hpassed in
theorem not_passed_of_le {m n : Nat} (hmn : m ≤ n) (hm : p m = false) : p n = false := by
  cases hn : p n with
  | false => rfl
  | true =>
      rw [hmono m n hmn hn] at hm
      cases hm

theorem exists_halve {fuel low high : Nat} (hle : low ≤ high) (hfuel : high ≤ low + fuel) :
    ∃ k, halve isPassed fuel low high = some k ∧ IsBorder p low high k := by
  induction fuel generalizing low high with
  | zero =>
      have heq : low = high := by omega
      exact ⟨low, rfl, by omega, hle, by omega, by omega⟩
  | succ fuel ih =>
      by_cases hlt : low < high
      · simp only [halve, hlt, if_true, hpassed]
        cases hmiddle : p (low + (high - low) / 2) with
        | true =>
            obtain ⟨k, hk, hborder⟩ :=
              @ih (low + (high - low) / 2 + 1) high (by omega) (by omega)
            have hlow := hborder.low_le
            refine ⟨k, hk, by omega, hborder.le_high, ?_, hborder.not_passed⟩
            intro n _ hnk
            by_cases hn : n ≤ low + (high - low) / 2
            · exact hmono n _ hn hmiddle
            · exact hborder.passed n (by omega) hnk
        | false =>
            obtain ⟨k, hk, hborder⟩ := @ih low (low + (high - low) / 2) (by omega) (by omega)
            have hhigh := hborder.le_high
            refine ⟨k, hk, hborder.low_le, by omega, hborder.passed, ?_⟩
            intro n hkn _
            by_cases hn : n < low + (high - low) / 2
            · exact hborder.not_passed n hkn hn
            · exact @not_passed_of_le p hmono _ n (by omega) hmiddle
      · have heq : low = high := by omega
        exact ⟨low, by simp [halve, hlt], by omega, hle, by omega, by omega⟩

omit hmono in
/-- Striding ends behind a place that is passed, and at one that is not or
at the last distance. -/
theorem exists_stride {most fuel last next : Nat} (hnext : last < next) (hmost : last < most)
    (hfuel : most ≤ next + fuel) (hlast : p last = true) :
    ∃ l n, stride isPassed most fuel last next = some (l, n) ∧ l < n ∧ n ≤ most ∧
      p l = true ∧ (n = most ∨ p n = false) := by
  induction fuel generalizing last next with
  | zero =>
      have hmin : min next most = most := by omega
      exact ⟨last, most, by simp [stride, hmin], hmost, Nat.le_refl most, hlast, .inl rfl⟩
  | succ fuel ih =>
      by_cases hlt : next < most
      · cases hp : p next with
        | true =>
            obtain ⟨l, n, hstride, hend⟩ := @ih next (2 * next + 1) (by omega) hlt (by omega) hp
            exact ⟨l, n, by simp only [stride, hlt, if_true, hpassed, hp, hstride], hend⟩
        | false =>
            exact ⟨last, next, by simp [stride, hlt, hpassed, hp], hnext,
              by omega, hlast, .inr hp⟩
      · exact ⟨last, most, by simp [stride, hlt], hmost, Nat.le_refl most, hlast, .inl rfl⟩

theorem exists_gallop {count hint : Nat} (hhint : hint < count) :
    ∃ k, gallop isPassed count hint = some k ∧ IsBorder p 0 count k := by
  cases hp : p hint with
  | true =>
      obtain ⟨l, n, hstride, hln, hn, hl, hend⟩ :=
        @exists_stride (fun n => isPassed (hint + n)) (fun n => p (hint + n))
          (fun n => hpassed _) (count - hint) count 0 1 (by omega) (by omega) (by omega) hp
      obtain ⟨k, hk, hborder⟩ := @exists_halve _ _ hpassed hmono count (hint + l + 1) (hint + n)
        (by omega) (by omega)
      have hlow := hborder.low_le
      have hhigh := hborder.le_high
      refine ⟨k, ?_, by omega, by omega, ?_, ?_⟩
      · simp [gallop, hpassed hint, hp, hstride, hk]
      · intro m _ hmk
        by_cases hm : m ≤ hint + l
        · exact hmono m _ hm hl
        · exact hborder.passed m (by omega) hmk
      · intro m hkm hm
        by_cases hmn : m < hint + n
        · exact hborder.not_passed m hkm hmn
        · rcases hend with hend | hend
          · omega
          · exact @not_passed_of_le p hmono _ m (by omega) hend
  | false =>
      obtain ⟨l, n, hstride, hln, hn, hl, hend⟩ :=
        @exists_stride (fun n => (isPassed (hint - n)).map not) (fun n => !p (hint - n))
          (fun n => by simp [hpassed]) (hint + 1) count 0 1 (by omega) (by omega) (by omega)
          (by simp [hp])
      obtain ⟨k, hk, hborder⟩ := @exists_halve _ _ hpassed hmono count (hint + 1 - n) (hint - l)
        (by omega) (by omega)
      have hlow := hborder.low_le
      have hhigh := hborder.le_high
      refine ⟨k, ?_, by omega, by omega, ?_, ?_⟩
      · simp [gallop, hpassed hint, hp, hstride, hk]
      · intro m _ hmk
        by_cases hm : hint + 1 - n ≤ m
        · exact hborder.passed m hm hmk
        · rcases hend with hend | hend
          · omega
          · refine hmono m (hint - n) (by omega) ?_
            simpa using hend
      · intro m hkm hm
        by_cases hml : m < hint - l
        · exact hborder.not_passed m hkm hml
        · exact @not_passed_of_le p hmono (hint - l) m (by omega) (by simpa using hl)

end Places

/-! ## Lists -/

section Lists

variable {α : Type}

def passes (l : List α) (q : α → Bool) (n : Nat) : Bool := l[n]?.any q

/-- Where what satisfies `q` comes first, so do its places. -/
theorem passes_of_le {l : List α} {q : α → Bool}
    (h : l.Pairwise fun v w => q w = true → q v = true) (m n : Nat) (hmn : m ≤ n)
    (hn : passes l q n = true) : passes l q m = true := by
  obtain ⟨w, hw, hqw⟩ := (Option.any_eq_true q _).mp hn
  obtain ⟨hlt, rfl⟩ := List.getElem?_eq_some_iff.mp hw
  have hm : m < l.length := by omega
  refine (Option.any_eq_true q _).mpr ⟨l[m], List.getElem?_eq_getElem hm, ?_⟩
  rcases Nat.lt_or_eq_of_le hmn with hlt' | rfl
  · exact List.pairwise_iff_getElem.mp h m n hm hlt hlt' hqw
  · exact hqw

/-- A border in a list parts what satisfies `q` from what does not. -/
structure Parts (l : List α) (q : α → Bool) (k : Nat) : Prop where
  le_length : k ≤ l.length
  take : ∀ v ∈ l.take k, q v = true
  drop : ∀ v ∈ l.drop k, q v = false

theorem IsBorder.parts {l : List α} {q : α → Bool} {k : Nat}
    (h : IsBorder (passes l q) 0 l.length k) : Parts l q k where
  le_length := h.le_high
  take := by
    intro v hv
    obtain ⟨n, hn, rfl⟩ := List.mem_iff_getElem.mp hv
    rw [List.length_take] at hn
    have hp := h.passed n (by omega) (by omega)
    have hlt : n < l.length := by omega
    simpa [passes, List.getElem?_eq_getElem hlt] using hp
  drop := by
    intro v hv
    obtain ⟨n, hn, rfl⟩ := List.mem_iff_getElem.mp hv
    rw [List.length_drop] at hn
    have hp := h.not_passed (k + n) (by omega) (by omega)
    have hlt : k + n < l.length := by omega
    simpa [passes, List.getElem?_eq_getElem hlt] using hp

theorem Parts.of_reverse {l : List α} {q : α → Bool} {k : Nat} (h : Parts l.reverse q k) :
    (∀ v ∈ l.take (l.length - k), q v = false) ∧ ∀ v ∈ l.drop (l.length - k), q v = true := by
  constructor
  · intro v hv
    refine h.drop v ?_
    rw [List.drop_reverse]
    exact List.mem_reverse.mpr hv
  · intro v hv
    refine h.take v ?_
    rw [List.take_reverse]
    exact List.mem_reverse.mpr hv

end Lists
end TerseSchema.Sorting
