import TerseSchema.Proofs.Text.Order
import TerseSchema.Text.Pattern
import Mathlib.Tactic.Common
/-!
# What patterns match

The texts of a pattern by its parts, and the matcher that takes derivatives as a test for them.
-/

namespace TerseSchema.Text.Pattern

abbrev InRanges (ranges : List (Char × Char)) (c : CodePoint) : Prop :=
  ranges.any (fun r => r.1.toNat ≤ c.code && c.code ≤ r.2.toNat) = true

inductive Matches : Pattern → Text → Prop where
  | empty : Matches .empty []
  | char {ranges : List (Char × Char)} {c : CodePoint} (h : InRanges ranges c) :
      Matches (.char ranges) [c]
  | seq {p q : Pattern} {s t : Text} (hs : p.Matches s) (ht : q.Matches t) :
      Matches (.seq p q) (s ++ t)
  | left {p q : Pattern} {s : Text} (h : p.Matches s) : Matches (.alt p q) s
  | right {p q : Pattern} {s : Text} (h : q.Matches s) : Matches (.alt p q) s
  | stop {p : Pattern} : Matches (.star p) []
  | again {p : Pattern} {s t : Text} (hs : p.Matches s) (ht : (Pattern.star p).Matches t) :
      Matches (.star p) (s ++ t)

variable {p q : Pattern} {c : CodePoint} {s t : Text}

theorem not_matches_never : ¬Pattern.never.Matches s := by rintro ⟨⟩

theorem matches_empty_iff : Pattern.empty.Matches s ↔ s = [] := by
  constructor
  · rintro ⟨⟩
    rfl
  · rintro rfl
    exact .empty

theorem matches_char_iff {ranges : List (Char × Char)} :
    (Pattern.char ranges).Matches s ↔ ∃ c, s = [c] ∧ InRanges ranges c := by
  constructor
  · rintro ⟨⟩
    exact ⟨_, rfl, ‹_›⟩
  · rintro ⟨c, rfl, hc⟩
    exact .char hc

theorem matches_seq_iff :
    (Pattern.seq p q).Matches s ↔ ∃ t u, s = t ++ u ∧ p.Matches t ∧ q.Matches u := by
  constructor
  · rintro ⟨⟩
    exact ⟨_, _, rfl, ‹_›, ‹_›⟩
  · rintro ⟨t, u, rfl, ht, hu⟩
    exact .seq ht hu

theorem matches_alt_iff : (Pattern.alt p q).Matches s ↔ p.Matches s ∨ q.Matches s := by
  constructor
  · rintro ⟨⟩
    · exact .inl ‹_›
    · exact .inr ‹_›
  · rintro (h | h)
    · exact .left h
    · exact .right h

/-! ## The matcher -/

theorem nullable_iff : p.nullable = true ↔ p.Matches [] := by
  induction p with
  | never => simp [nullable, not_matches_never]
  | empty => simp [nullable, matches_empty_iff]
  | char ranges => simp [nullable, matches_char_iff]
  | seq p q ihp ihq => simp [nullable, matches_seq_iff, ihp, ihq]
  | alt p q ihp ihq => simp [nullable, matches_alt_iff, ihp, ihq]
  | star p ih => exact ⟨fun _ => .stop, fun _ => rfl⟩

theorem matches_andThen_iff : (p.andThen q).Matches s ↔ (Pattern.seq p q).Matches s := by
  rw [andThen.eq_def]
  split
  · simp [matches_seq_iff, not_matches_never]
  · simp [matches_seq_iff, matches_empty_iff]
  · simp [matches_seq_iff, not_matches_never]
  · rfl

theorem matches_orElse_iff : (p.orElse q).Matches s ↔ (Pattern.alt p q).Matches s := by
  rw [orElse.eq_def]
  split
  · simp [matches_alt_iff, not_matches_never]
  · simp [matches_alt_iff, not_matches_never]
  · split
    · next heq => simp [matches_alt_iff, heq]
    · rfl

/-- The first code point of a repetition belongs to a part that is not empty. -/
theorem matches_star_cons_iff :
    (Pattern.star p).Matches (c :: s) ↔
      ∃ t u, s = t ++ u ∧ p.Matches (c :: t) ∧ (Pattern.star p).Matches u := by
  constructor
  · intro h
    generalize hp : Pattern.star p = r, hs : c :: s = whole at h
    induction h with
    | @again _ first rest hfirst hrest _ ih =>
        cases hp
        cases first with
        | nil => exact ih rfl hs
        | cons d first =>
            obtain ⟨rfl, rfl⟩ := List.cons.inj hs
            exact ⟨first, rest, rfl, hfirst, hrest⟩
    | stop => cases hs
    | _ => cases hp
  · rintro ⟨t, u, rfl, ht, hu⟩
    exact .again ht hu

theorem derivative_iff : (p.derivative c).Matches s ↔ p.Matches (c :: s) := by
  induction p generalizing s with
  | never => simp [derivative, not_matches_never]
  | empty => simp [derivative, not_matches_never, matches_empty_iff]
  | char ranges =>
      rw [derivative]
      split
      · next h =>
          rw [matches_empty_iff, matches_char_iff]
          constructor
          · rintro rfl
            exact ⟨c, rfl, h⟩
          · rintro ⟨d, heq, -⟩
            exact (List.cons.inj heq).2
      · next h =>
          refine iff_of_false not_matches_never fun hmatches => ?_
          obtain ⟨d, heq, hd⟩ := matches_char_iff.mp hmatches
          rw [(List.cons.inj heq).1] at h
          exact h hd
  | seq p q ihp ihq =>
      have hrest : ((p.derivative c).andThen q).Matches s ↔
          ∃ t u, s = t ++ u ∧ p.Matches (c :: t) ∧ q.Matches u := by
        simp only [matches_andThen_iff, matches_seq_iff, ihp]
      have hsplit : (Pattern.seq p q).Matches (c :: s) ↔
          (∃ t u, s = t ++ u ∧ p.Matches (c :: t) ∧ q.Matches u) ∨ p.Matches [] ∧
          q.Matches (c :: s) := by
        rw [matches_seq_iff]
        constructor
        · rintro ⟨_ | ⟨d, t⟩, u, heq, ht, hu⟩
          · exact .inr ⟨ht, heq ▸ hu⟩
          · obtain ⟨rfl, rfl⟩ := List.cons.inj heq
            exact .inl ⟨t, u, rfl, ht, hu⟩
        · rintro (⟨t, u, rfl, ht, hu⟩ | ⟨hnil, hq⟩)
          · exact ⟨c :: t, u, rfl, ht, hu⟩
          · exact ⟨[], c :: s, rfl, hnil, hq⟩
      rw [hsplit, ← nullable_iff, derivative]
      split
      · next h => simp only [matches_orElse_iff, matches_alt_iff, hrest, ihq, h, true_and]
      · next h => simp [hrest, h]
  | alt p q ihp ihq => simp only [derivative, matches_orElse_iff, matches_alt_iff, ihp, ihq]
  | star p ih =>
    simp only [derivative, matches_andThen_iff, matches_seq_iff, ih, matches_star_cons_iff]

theorem matchesAll_iff : p.matchesAll s = true ↔ p.Matches s := by
  induction s generalizing p with
  | nil => exact nullable_iff
  | cons c s ih => rw [matchesAll, ih, derivative_iff]

/-! ## Building patterns -/

theorem matches_star_of_all {ranges : List (Char × Char)} (h : ∀ c ∈ s, InRanges ranges c) :
    (Pattern.star (.char ranges)).Matches s := by
  induction s with
  | nil => exact .stop
  | cons c s ih =>
      rw [List.forall_mem_cons] at h
      exact .again (.char h.1) (ih h.2)

theorem matches_optionally_nil (p : Pattern) : (optionally p).Matches [] := .right .empty

theorem matches_sequence_cons {ps : List Pattern} (hs : p.Matches s)
    (ht : (sequence ps).Matches t) :
    (sequence (p :: ps)).Matches (s ++ t) := .seq hs ht

theorem matches_sequence_singleton (h : p.Matches s) : (sequence [p]).Matches s := by
  rw [← List.append_nil s]
  exact .seq h .empty

theorem inRanges_self_iff {d : Char} : InRanges [(d, d)] c ↔ c = .char d := by
  simp only [InRanges, List.any_cons, List.any_nil, Bool.or_false, Bool.and_eq_true,
    decide_eq_true_eq]
  constructor
  · exact fun h => CodePoint.code_injective (Nat.le_antisymm h.2 h.1)
  · rintro rfl
    exact ⟨Nat.le_refl _, Nat.le_refl _⟩

theorem matches_sequence_chars_iff {cs : List Char} :
    (sequence (cs.map fun c => .char [(c, c)])).Matches s ↔ s = cs.map .char := by
  induction cs generalizing s with
  | nil => exact matches_empty_iff
  | cons c cs ih =>
      constructor
      · intro h
        obtain ⟨first, rest, rfl, hfirst, hrest⟩ := matches_seq_iff.mp h
        obtain ⟨d, rfl, hd⟩ := matches_char_iff.mp hfirst
        rw [ih.mp hrest, inRanges_self_iff.mp hd]
        rfl
      · rintro rfl
        exact matches_sequence_cons (.char (inRanges_self_iff.mpr rfl)) (ih.mpr rfl)

theorem matches_literally_iff {w : String} : (literally w).Matches s ↔ s = ofString w :=
  matches_sequence_chars_iff

theorem matches_literally (w : String) : (literally w).Matches (ofString w) :=
  matches_literally_iff.mpr rfl

theorem matches_oneOfAll_of_mem {ps : List Pattern} (hmem : p ∈ ps) (h : p.Matches s) :
    (oneOfAll ps).Matches s := by
  induction ps with
  | nil => cases hmem
  | cons first rest ih =>
      rcases List.mem_cons.mp hmem with rfl | hrest
      · exact .left h
      · exact .right (ih hrest)

theorem matches_oneOfAll_iff {ps : List Pattern} :
    (oneOfAll ps).Matches s ↔ ∃ p ∈ ps, p.Matches s := by
  refine ⟨fun h => ?_, fun ⟨_, hmem, h⟩ => matches_oneOfAll_of_mem hmem h⟩
  induction ps with
  | nil => exact absurd h not_matches_never
  | cons first rest ih =>
      rcases matches_alt_iff.mp h with hfirst | hrest
      · exact ⟨first, List.mem_cons_self, hfirst⟩
      · exact (ih hrest).imp fun _ hp => ⟨List.mem_cons_of_mem _ hp.1, hp.2⟩

theorem matches_words_iff {ws : List String} : (words ws).Matches s ↔ s ∈ ws.map ofString := by
  simp [words, matches_oneOfAll_iff, matches_literally_iff, eq_comm]

/-- At the end of a text that does not end in a line feed, nothing is overlooked. -/
theorem matchesLine_iff (h : s.getLast? ≠ some (.char '\n')) :
    p.matchesLine s = true ↔ p.Matches s := by
  simp [matchesLine, h, matchesAll_iff]

/-- Whether every text of a pattern has a character in it, as far as the parts tell. -/
def requires (c : Char) : Pattern → Bool
  | .never => true
  | .empty => false
  | .char ranges => ranges.all fun r => r.1 = c && r.2 = c
  | .seq p q => requires c p || requires c q
  | .alt p q => requires c p && requires c q
  | .star _ => false

theorem mem_of_requires {d : Char} (hp : requires d p = true) (h : p.Matches s) :
    .char d ∈ s := by
  induction h with
  | empty => cases hp
  | @char ranges c h =>
      obtain ⟨r, hr, hcode⟩ := List.any_eq_true.mp h
      have hends := List.all_eq_true.mp hp r hr
      simp only [Bool.and_eq_true, decide_eq_true_eq] at hends hcode
      rw [hends.1, hends.2] at hcode
      rw [List.mem_singleton]
      exact CodePoint.code_injective (Nat.le_antisymm hcode.1 hcode.2)
  | seq _ _ ihs iht =>
      rw [List.mem_append]
      rcases (Bool.or_eq_true _ _).mp hp with hp | hp
      · exact .inl (ihs hp)
      · exact .inr (iht hp)
  | left _ ih => exact ih ((Bool.and_eq_true _ _).mp hp).1
  | right _ ih => exact ih ((Bool.and_eq_true _ _).mp hp).2
  | stop => cases hp
  | again => cases hp

end TerseSchema.Text.Pattern
