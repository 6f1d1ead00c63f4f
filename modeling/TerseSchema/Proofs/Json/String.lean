import TerseSchema.Json.Reader
import TerseSchema.Proofs.Text.Digit
/-!
# Strings of JSON read back

A code point is written as itself, as a short escape, as the escape of its code or as the escapes
of two surrogates. The reader undoes each of them. Where surrogates are written as escapes, it
also takes two halves of a pair that follow each other for the character they stand for.
-/

namespace TerseSchema

/-! ## Code points by their numbers -/

namespace CodePoint

theorem ofCode?_code (p : CodePoint) : ofCode? p.code = some p := by
  cases p with
  | char c =>
      have hvalid : c.toNat.isValidChar := c.valid
      rw [code, ofCode?, if_pos hvalid, Char.ofNat_toNat]
  | surrogate offset =>
      have hvalid : ¬ (firstSurrogate + offset.val).isValidChar := by
        simp only [Nat.isValidChar, firstSurrogate]
        omega
      rw [code, ofCode?, if_neg hvalid, dif_pos (by omega)]
      simp

end CodePoint

namespace Json

open TerseSchema.Text

/-! ## Ways to write a code point -/

def shortEscapes : List (Char × Char) := [
  ('"', '"'), ('\\', '\\'), ('n', '\n'), ('r', '\r'), ('t', '\t'), ('b', '\x08'), ('f', '\x0c')]

def unitText (n : Nat) : Text := (unitEscape n).map .char

inductive Written : CodePoint → Text → Prop
  | plain {p : CodePoint} (hcontrol : 0x20 ≤ p.code) (hquote : p ≠ .char '"')
      (hslash : p ≠ .char '\\') :
      Written p [p]
  | short {e c : Char} (h : (e, c) ∈ shortEscapes) : Written (.char c) [.char '\\', .char e]
  | unit {p : CodePoint} (h : p.code < 0x10000) : Written p (unitText p.code)
  | pair {high low : CodePoint} {c : Char} (h : pair? high low = some c) :
      Written (.char c) (unitText high.code ++ unitText low.code)

/-- Each character beyond the sixteen-bit range stands for a pair of surrogates. -/
theorem exists_halves {c : Char} (h : 0x10000 ≤ c.toNat) : ∃ high low : CodePoint,
    high.code = 0xd800 + (c.toNat - 0x10000) / 0x400 ∧
      low.code = 0xdc00 + (c.toNat - 0x10000) % 0x400 ∧ pair? high low = some c := by
  have hvalid : c.toNat.isValidChar := c.valid
  simp only [Nat.isValidChar] at hvalid
  refine ⟨.surrogate ⟨(c.toNat - 0x10000) / 0x400, by omega⟩,
    .surrogate ⟨0x400 + (c.toNat - 0x10000) % 0x400, by omega⟩, rfl, ?_, ?_⟩
  · simp only [CodePoint.code, CodePoint.firstSurrogate]
    omega
  · rw [pair?, if_pos ⟨by simp only; omega, by simp only; omega⟩]
    have hcode : 0x10000 + (c.toNat - 0x10000) / 0x400 * 0x400 +
        (0x400 + (c.toNat - 0x10000) % 0x400 - 0x400) = c.toNat := by omega
    rw [hcode, Char.ofNat_toNat]

theorem written_codeEscape (c : Char) : Written (.char c) ((codeEscape c.toNat).map .char) := by
  rw [codeEscape]
  split
  · next h => exact .unit h
  · next h =>
      obtain ⟨high, low, hhigh, hlow, hpair⟩ := exists_halves (Nat.not_lt.mp h)
      rw [List.map_append, ← hhigh, ← hlow]
      exact .pair hpair

theorem written_of_charEscape? {ascii : Bool} {c : Char} {e : List Char}
    (h : charEscape? ascii c = some e) : Written (.char c) (e.map .char) := by
  have hshort {e c d : Char} (hd : (e, d) ∈ shortEscapes) (hc : c.toNat = d.toNat) :
      Written (.char c) [.char '\\', .char e] := by
    rw [Char.toNat_inj.mp hc]
    exact .short hd
  simp only [charEscape?] at h
  split_ifs at h with hquote hslash hn hr ht hb hf hcontrol hascii <;> cases h
  · exact hshort (by decide) (congrArg Char.toNat hquote)
  · exact hshort (by decide) (congrArg Char.toNat hslash)
  · exact hshort (by decide) (congrArg Char.toNat hn)
  · exact hshort (by decide) (congrArg Char.toNat hr)
  · exact hshort (by decide) (congrArg Char.toNat ht)
  · exact hshort (d := '\x08') (by decide) hb
  · exact hshort (d := '\x0c') (by decide) hf
  · exact .unit (show c.toNat < _ by omega)
  · exact written_codeEscape c

theorem plain_of_charEscape? {ascii : Bool} {c : Char} (h : charEscape? ascii c = none) :
    0x20 ≤ c.toNat ∧ c ≠ '"' ∧ c ≠ '\\' := by
  simp only [charEscape?] at h
  split_ifs at h
  refine ⟨by omega, ?_, ?_⟩ <;> assumption

theorem written_escapePoint (ascii : Bool) (p : CodePoint) :
    Written p (escapePoint ascii p) := by
  cases p with
  | char c =>
      cases h : charEscape? ascii c with
      | none =>
          obtain ⟨hcontrol, hquote, hslash⟩ := plain_of_charEscape? h
          simp only [escapePoint, h]
          exact .plain hcontrol (by simpa using hquote) (by simpa using hslash)
      | some e =>
          simp only [escapePoint, h]
          exact written_of_charEscape? h
  | surrogate offset =>
      cases ascii with
      | false =>
          refine .plain ?_ (by simp) (by simp)
          simp only [CodePoint.code, CodePoint.firstSurrogate]
          omega
      | true =>
          refine .unit ?_
          simp only [CodePoint.code, CodePoint.firstSurrogate]
          omega

/-! ## Reading a written code point -/

theorem take_unitText (n : Nat) (rest : Text) :
    ((hex 4 n).map CodePoint.char ++ rest).take 4 = (hex 4 n).map CodePoint.char := by
  rw [List.take_append_of_le_length (by simp [length_hex]),
    List.take_of_length_le (by simp [length_hex])]

theorem unit?_hex {n : Nat} (h : n < 0x10000) (rest : Text) :
    unit? ((hex 4 n).map .char ++ rest) = some (n, rest) := by
  have hchars : ((hex 4 n).map CodePoint.char).filterMap CodePoint.char? = hex 4 n := by
    rw [List.filterMap_map]
    exact List.filterMap_some
  have hlow : n % 16 ^ 4 = n := Nat.mod_eq_of_lt h
  have hnumber := hexNumber?_hex 4 0 n 0 []
  rw [List.append_nil, hlow] at hnumber
  rw [unit?, take_unitText, hchars, hnumber]
  simp [hexNumber?, length_hex]

/-- The reader's view of the escape of a code point, before it looks for a second half. -/
theorem escape?_unit {p : CodePoint} (h : p.code < 0x10000) (rest : Text) :
    escape? ((unitText p.code).tail ++ rest) = some ((pairedUnit? p rest).getD (p, rest)) := by
  simp only [unitText, unitEscape, List.map_cons, List.tail_cons, List.cons_append, escape?]
  rw [unit?_hex h]
  simp [CodePoint.ofCode?_code]

theorem pairedUnit?_unit {p q : CodePoint} (h : q.code < 0x10000) (rest : Text) :
    pairedUnit? p (unitText q.code ++ rest) = (pair? p q).map fun c => (.char c, rest) := by
  simp only [unitText, unitEscape, List.map_cons, List.cons_append, pairedUnit?]
  rw [unit?_hex h]
  cases hpair : pair? p q <;> simp [CodePoint.ofCode?_code, hpair]

theorem code_lt_of_pair? {high low : CodePoint} {c : Char} (h : pair? high low = some c) :
    high.code < 0x10000 ∧ low.code < 0x10000 := by
  cases high <;> cases low <;> simp only [pair?, reduceCtorEq] at h
  simp only [CodePoint.code, CodePoint.firstSurrogate]
  omega

theorem stringText?_escape {s rest : Text} {p : CodePoint} (h : escape? s = some (p, rest))
    (fuel : Nat) :
    stringText? (fuel + 1) (.char '\\' :: s) = (stringText? fuel rest).map fun r =>
    (p :: r.1, r.2) := by
  rw [stringText?, h]
  cases hrest : stringText? fuel rest <;> simp [hrest]

theorem stringText?_plain {p : CodePoint} (hcontrol : 0x20 ≤ p.code) (hquote : p ≠ .char '"')
    (hslash : p ≠ .char '\\') (fuel : Nat) (rest : Text) :
    stringText? (fuel + 1) (p :: rest) = (stringText? fuel rest).map fun r =>
    (p :: r.1, r.2) := by
  rw [stringText?, if_neg (Nat.not_lt.mpr hcontrol)]
  · cases stringText? fuel rest <;> simp
  · simpa using hquote
  · simpa using hslash

theorem stringText?_short {e c : Char} (h : (e, c) ∈ shortEscapes) (fuel : Nat) (rest : Text) :
    stringText? (fuel + 1) (.char '\\' :: .char e :: rest) =
      (stringText? fuel rest).map fun r => (.char c :: r.1, r.2) := by
  refine stringText?_escape ?_ fuel
  simp only [shortEscapes, List.mem_cons, Prod.mk.injEq, List.not_mem_nil, or_false] at h
  rcases h with ⟨rfl, rfl⟩ | ⟨rfl, rfl⟩ | ⟨rfl, rfl⟩ | ⟨rfl, rfl⟩ | ⟨rfl, rfl⟩ | ⟨rfl, rfl⟩ |
    ⟨rfl, rfl⟩ <;> rfl

theorem escapePoint_of_pair? {high low : CodePoint} {c : Char} (h : pair? high low = some c) :
    escapePoint true high = unitText high.code ∧ escapePoint true low = unitText low.code := by
  cases high <;> cases low <;> simp only [pair?, reduceCtorEq] at h
  exact ⟨rfl, rfl⟩

/-- The escapes of two halves are read as one character. -/
theorem stringText?_pair {high low : CodePoint} {c : Char} (h : pair? high low = some c)
    (fuel : Nat) (rest : Text) :
    stringText? (fuel + 1) (unitText high.code ++ (unitText low.code ++ rest)) =
      (stringText? fuel rest).map fun r => (.char c :: r.1, r.2) := by
  obtain ⟨hhigh, hlow⟩ := code_lt_of_pair? h
  have hescape := escape?_unit hhigh (unitText low.code ++ rest)
  rw [pairedUnit?_unit hlow, h] at hescape
  exact stringText?_escape hescape fuel

/-- A code point is read as it was written, unless its escape is the first half of a pair. -/
theorem stringText?_written {p : CodePoint} {w : Text} (hw : Written p w) (fuel : Nat)
    (rest : Text) (h : w = [p] ∨ pairedUnit? p rest = none) :
    stringText? (fuel + 1) (w ++ rest) =
      (stringText? fuel rest).map fun r => (p :: r.1, r.2) := by
  cases hw with
  | plain hcontrol hquote hslash => exact stringText?_plain hcontrol hquote hslash fuel rest
  | short he => exact stringText?_short he fuel rest
  | unit hcode =>
      have hescape := escape?_unit hcode rest
      rw [h.resolve_left (by simp [unitText, unitEscape, hex]), Option.getD_none] at hescape
      exact stringText?_escape hescape fuel
  | pair hpair =>
      rw [List.append_assoc]
      exact stringText?_pair hpair fuel rest

@[simp] theorem pair?_char_left (c : Char) (p : CodePoint) : pair? (.char c) p = none := rfl

@[simp] theorem pair?_char_right (p : CodePoint) (c : Char) : pair? p (.char c) = none := by
  cases p <;> rfl

/-- The first half of a pair is no second half. -/
theorem pair?_high {p high low : CodePoint} {c : Char} (h : pair? high low = some c) :
    pair? p high = none := by
  cases p <;> cases high <;> cases low <;>
    simp_all only [pair?, reduceCtorEq, Option.ite_none_right_eq_some]
  rw [if_neg (by omega)]

theorem pairedUnit?_char (c : Char) (rest : Text) : pairedUnit? (.char c) rest = none := by
  rw [pairedUnit?.eq_def]
  split
  · simp
  · rfl

theorem pairedUnit?_written_char {c : Char} {w : Text} (hw : Written (.char c) w) (p : CodePoint)
    (rest : Text) : pairedUnit? p (w ++ rest) = none := by
  cases hw with
  | plain hcontrol hquote hslash =>
      rw [pairedUnit?.eq_def]
      split
      · next heq => exact absurd (List.cons.inj heq).1 hslash
      · rfl
  | short he =>
      rw [pairedUnit?.eq_def]
      split
      · next heq =>
          simp only [List.cons_append, List.cons.injEq, CodePoint.char.injEq] at heq
          rw [heq.2.1] at he
          exact absurd he (by simp [shortEscapes])
      · rfl
  | unit hcode => rw [pairedUnit?_unit hcode, pair?_char_right, Option.map_none]
  | pair hpair =>
      rw [List.append_assoc, pairedUnit?_unit (code_lt_of_pair? hpair).1, pair?_high hpair,
        Option.map_none]

/-! ## Reading a string -/

/-- What the text of a string is read as: where surrogates are written as escapes, two halves of
a pair that follow each other are the character they stand for. -/
def denoted (ascii : Bool) (s : Text) : Text := if ascii then s.paired else s

theorem denoted_ascii (s : Text) : denoted true s = s.paired := rfl

theorem stringText?_unescaped (s rest : Text) {fuel : Nat} (hfuel : s.length < fuel) :
    stringText? fuel (s.flatMap (escapePoint false) ++ .char '"' :: rest) = some (s, rest) := by
  induction s generalizing fuel with
  | nil =>
      obtain ⟨fuel, rfl⟩ := Nat.exists_eq_add_one_of_ne_zero (Nat.ne_of_gt hfuel)
      rfl
  | cons p s ih =>
      obtain ⟨fuel, rfl⟩ := Nat.exists_eq_add_one_of_ne_zero (Nat.ne_zero_of_lt hfuel)
      rw [List.length_cons] at hfuel
      rw [List.flatMap_cons, List.append_assoc,
        stringText?_written (written_escapePoint false p), ih (by omega), Option.map_some]
      cases p with
      | char c => exact .inr (pairedUnit?_char c _)
      | surrogate offset => exact .inl rfl

/-- The reader's view of what follows a first half: a second half is seen when it
comes next in the text. -/
theorem pairedUnit?_escapes (p : CodePoint) (s rest : Text) :
    pairedUnit? p (s.flatMap (escapePoint true) ++ .char '"' :: rest) =
      match s with
      | [] => none
      | q :: s => (pair? p q).map fun c =>
        (.char c, s.flatMap (escapePoint true) ++ .char '"' :: rest) := by
  cases s with
  | nil => rfl
  | cons q s =>
      rw [List.flatMap_cons, List.append_assoc]
      cases q with
      | char c =>
          rw [pairedUnit?_written_char (written_escapePoint true _)]
          simp only [pair?_char_right, Option.map_none]
      | surrogate offset =>
          exact pairedUnit?_unit (q := .surrogate offset)
            (by simp only [CodePoint.code, CodePoint.firstSurrogate]; omega) _

theorem stringText?_ascii (s rest : Text) {fuel : Nat} (hfuel : s.length < fuel) :
    stringText? fuel (s.flatMap (escapePoint true) ++ .char '"' :: rest) =
      some (s.paired, rest) := by
  obtain ⟨fuel, rfl⟩ := Nat.exists_eq_add_one_of_ne_zero (Nat.ne_zero_of_lt hfuel)
  fun_induction paired s generalizing fuel with
  | case1 => rfl
  | case2 p =>
      rw [List.length_singleton] at hfuel
      obtain ⟨fuel, rfl⟩ :=
        Nat.exists_eq_add_one_of_ne_zero (Nat.ne_of_gt (Nat.lt_of_succ_lt_succ hfuel))
      rw [List.flatMap_singleton, stringText?_written (written_escapePoint true p)]
      · rfl
      · exact .inr (pairedUnit?_escapes p [] rest)
  | case3 p q s c hpair ih =>
      obtain ⟨hhigh, hlow⟩ := escapePoint_of_pair? hpair
      rw [List.length_cons, List.length_cons] at hfuel
      obtain ⟨fuel, rfl⟩ :=
        Nat.exists_eq_add_one_of_ne_zero (Nat.ne_zero_of_lt (Nat.lt_of_succ_lt_succ hfuel))
      rw [List.flatMap_cons, List.flatMap_cons, List.append_assoc,
        List.append_assoc, hhigh, hlow,
        stringText?_pair hpair, ih fuel (by omega), Option.map_some]
  | case4 p q s hpair ih =>
      rw [List.length_cons] at hfuel
      obtain ⟨fuel, rfl⟩ :=
        Nat.exists_eq_add_one_of_ne_zero (Nat.ne_zero_of_lt (Nat.lt_of_succ_lt_succ hfuel))
      rw [List.flatMap_cons, List.append_assoc, stringText?_written (written_escapePoint true p),
        ih fuel (by omega), Option.map_some]
      refine .inr ?_
      rw [pairedUnit?_escapes]
      simp only [hpair, Option.map_none]

theorem Written.length_pos {p : CodePoint} {w : Text} (h : Written p w) : 0 < w.length := by
  cases h <;> simp [unitText, unitEscape]

theorem length_le_escapes (ascii : Bool) (s : Text) :
    s.length ≤ (s.flatMap (escapePoint ascii)).length := by
  induction s with
  | nil => exact Nat.le_refl 0
  | cons p s ih =>
      have hpos := (written_escapePoint ascii p).length_pos
      rw [List.length_cons, List.flatMap_cons, List.length_append]
      omega

/-- A string is read up to its closing quote. -/
theorem stringAfterQuote_string (ascii : Bool) (s rest : Text) :
    stringAfterQuote (s.flatMap (escapePoint ascii) ++ .char '"' :: rest) =
      .ok (denoted ascii s, rest) := by
  have hfuel : s.length < (s.flatMap (escapePoint ascii) ++ .char '"' :: rest).length + 1 := by
    have hle := length_le_escapes ascii s
    rw [List.length_append]
    omega
  rw [stringAfterQuote]
  cases ascii with
  | false => rw [stringText?_unescaped s rest hfuel]; rfl
  | true => rw [stringText?_ascii s rest hfuel]; rfl

end Json
end TerseSchema
