import TerseSchema.Proofs.Yaml.Plain
import TerseSchema.Proofs.Yaml.Quoted
import TerseSchema.Yaml.Token.Lexer
/-!
# Tokens of flow collections

The tokens of a text that holds nothing but flow collections, each part of it read from one state
to another. Outside of all blocks no key is required, so none of the steps can fail.
-/

namespace TerseSchema.Yaml.LexerState

variable {s t u : LexerState}

/-! ## Ways through a text -/

/-- Whether what is read from one state is what is read from the other, in as many steps as
there are characters left. -/
def Leads (s t : LexerState) : Prop := ∀ fuel, s.cursor.rest.length < fuel →
  ∃ left, t.cursor.rest.length < left ∧ run fuel s = run left t

theorem Leads.trans (hs : Leads s t) (ht : Leads t u) : Leads s u := by
  intro fuel hfuel
  obtain ⟨left, hleft, hrun⟩ := hs fuel hfuel
  obtain ⟨rest, hrest, hrun'⟩ := ht left hleft
  exact ⟨rest, hrest, hrun.trans hrun'⟩

theorem Leads.of_advance (h : s.advance = .ok t) (hended : t.ended = false)
    (hrest : t.cursor.rest.length < s.cursor.rest.length) : Leads s t := by
  intro fuel hfuel
  obtain ⟨fuel, rfl⟩ := Nat.exists_eq_add_one_of_ne_zero (Nat.ne_zero_of_lt hfuel)
  refine ⟨fuel, by omega, ?_⟩
  simp only [run, h, hended, Bool.false_eq_true, if_false]

/-! ## Outside of all blocks -/

/-- Whether a state is outside of all blocks, so that no key is required. -/
structure Calm (s : LexerState) : Prop where
  indent : s.indent = -1
  notRequired : ∀ k ∈ s.candidates, k.required = false
  notEnded : s.ended = false

def fresh (s : LexerState) : LexerState :=
  { s with candidates := s.candidates.filter fun k =>
      !(k.line ≠ s.cursor.line || 1024 < s.cursor.index - k.index) }

def cleared (s : LexerState) : LexerState :=
  { s with candidates := s.candidates.filter fun k => k.depth ≠ s.depth }

def marked (s : LexerState) : LexerState :=
  if s.keyAllowed then
    { s with candidates := {
        depth := s.depth, before := s.count, required := false
        index := s.cursor.index, line := s.cursor.line, column := s.cursor.column
      } :: s.cleared.candidates }
  else s

namespace Calm

theorem not_any_required (h : s.Calm) (isGone : Candidate → Bool) :
    ¬(s.candidates.any fun k => isGone k && k.required) = true := by
  simp only [List.any_eq_true, Bool.and_eq_true, not_exists, not_and]
  intro k hk _
  simp [h.notRequired k hk]

theorem dropStale (h : s.Calm) : s.dropStale = .ok s.fresh := by
  rw [LexerState.dropStale, if_neg (h.not_any_required _)]
  rfl

theorem dropCandidate (h : s.Calm) : s.dropCandidate = .ok s.cleared := by
  rw [LexerState.dropCandidate, if_neg (h.not_any_required _)]
  rfl

theorem markCandidate (h : s.Calm) : s.markCandidate = .ok s.marked := by
  have hrequired : (decide (s.depth = 0) && decide (s.indent = s.cursor.column)) = false := by
    rw [h.indent, Bool.and_eq_false_iff]
    exact .inr (decide_eq_false (by omega))
  rw [LexerState.markCandidate, marked, hrequired, h.dropCandidate]
  split <;> rfl

theorem unwind (h : s.Calm) {column : Int} (hcolumn : -1 ≤ column) : s.unwind column = s := by
  rw [LexerState.unwind]
  split
  · rw [endBlocks.eq_def]
    simp only
    rw [if_pos (h.indent ▸ hcolumn)]
  · rfl

theorem fresh (h : s.Calm) : s.fresh.Calm :=
  { h with notRequired := fun k hk => h.notRequired k (List.mem_of_mem_filter hk) }

theorem cleared (h : s.Calm) : s.cleared.Calm :=
  { h with notRequired := fun k hk => h.notRequired k (List.mem_of_mem_filter hk) }

theorem marked (h : s.Calm) : s.marked.Calm := by
  rw [LexerState.marked]
  split
  · exact { h with notRequired := List.forall_mem_cons.mpr ⟨rfl, h.cleared.notRequired⟩ }
  · exact h

end Calm

@[simp] theorem cursor_marked : s.marked.cursor = s.cursor := by
  rw [marked]
  split <;> rfl

@[simp] theorem depth_marked : s.marked.depth = s.depth := by
  rw [marked]
  split <;> rfl

@[simp] theorem tokens_marked : s.marked.tokens = s.tokens := by
  rw [marked]
  split <;> rfl

/-! ## Up to the next token -/

structure Starts (x : Char) : Prop where
  visible : isVisible x = true
  ne_blank : x ≠ ' '
  ne_comment : x ≠ '#'

theorem Starts.not_isGap {x : Char} (h : Starts x) : isGap x = false := by
  have hbreak : x ≠ '\n' := by
    rintro rfl
    exact absurd h.visible (by decide)
  simp [isGap, h.ne_blank, hbreak]

theorem skipToToken_eq_self {x : Char} {rest : List Char} (hx : Starts x)
    (h : s.cursor.rest = x :: rest) (fuel : Nat) : skipToToken (fuel + 1) s = s := by
  have hblanks : s.cursor.skipWhile (· = ' ') = s.cursor := by
    rw [Cursor.skipWhile, Cursor.span, h, List.takeWhile_cons_of_neg (by simp [hx.ne_blank])]
    rfl
  rw [skipToToken]
  simp only [hblanks, Cursor.nextIs_eq h, hx.ne_comment, decide_false,
    Bool.false_eq_true, if_false, not_isBreak_of_isVisible hx.visible]

/-- The state at the next token or at the end of the text. It differs in its place, and outside
of flow collections in whether a key may stand there. -/
theorem exists_skipToToken {fuel : Nat} (hfuel : s.cursor.rest.length < fuel)
    (h : ∀ x ∈ (afterGap s.cursor.rest).head?, Starts x) :
    ∃ c allowed, skipToToken fuel s = { s with cursor := c, keyAllowed := allowed } ∧
      c.rest = afterGap s.cursor.rest ∧ (s.depth ≠ 0 → allowed = s.keyAllowed) := by
  induction fuel generalizing s with
  | zero => cases hfuel
  | succ fuel ih =>
      have hrest := Cursor.rest_skipWhile (· = ' ') s.cursor
      have hhead := List.head?_dropWhile_not (· = ' ') s.cursor.rest
      rw [← afterGap_dropWhile_blanks, ← hrest] at h
      rw [← hrest] at hhead
      have hlength : (s.cursor.skipWhile (· = ' ')).rest.length ≤ s.cursor.rest.length :=
        hrest ▸ (List.dropWhile_sublist _).length_le
      rw [skipToToken, ← afterGap_dropWhile_blanks, ← hrest]
      generalize s.cursor.skipWhile (· = ' ') = c at h hhead hlength
      cases hc : c.rest with
      | nil =>
          simp only [Cursor.nextIs, hc, List.head?_nil, Option.any_none,
            Bool.false_eq_true, if_false]
          exact ⟨c, s.keyAllowed, rfl, hc, fun _ => rfl⟩
      | cons y more =>
          have hy : y ≠ ' ' := by simpa [hc] using hhead
          by_cases hbreak : y = '\n'
          · subst hbreak
            have hnext := Cursor.rest_next hc
            rw [hc, afterGap_cons (by decide)] at h
            rw [hc, List.length_cons] at hlength
            obtain ⟨d, allowed, hskip, hd, hallowed⟩ := @ih
              { s with cursor := c.next, keyAllowed := s.keyAllowed || s.depth = 0 }
              (by simp only [hnext]; omega) (by simpa only [hnext] using h)
            simp only [Cursor.nextIs_eq hc, show decide ('\n' = '#') = false by decide,
              Bool.false_eq_true, if_false,
              show isBreak '\n' = true by decide, if_true, Cursor.lineBreak_of_newline hc]
            refine ⟨d, allowed, hskip, ?_,
              fun hdepth => (hallowed hdepth).trans (by simp [hdepth])⟩
            rw [hd, hnext, afterGap_cons (by decide)]
          · have hgap : isGap y = false := by simp [isGap, hy, hbreak]
            rw [hc, afterGap_eq_self hgap] at h
            have hy := h y rfl
            rw [afterGap_eq_self hgap, ← hc]
            simp only [Cursor.nextIs_eq hc, hy.ne_comment, decide_false,
              Bool.false_eq_true, if_false, not_isBreak_of_isVisible hy.visible]
            exact ⟨c, s.keyAllowed, rfl, rfl, fun _ => rfl⟩

/-- Whether one state is the other at the next token that is left. -/
structure Arrives (s t : LexerState) : Prop where
  advance : s.advance = t.token >>= dropStale
  calm : t.Calm
  depth : t.depth = s.depth
  tokens : t.tokens = s.tokens
  keyAllowed : s.depth ≠ 0 → t.keyAllowed = s.keyAllowed
  length_le : t.cursor.rest.length ≤ s.cursor.rest.length

variable {x : Char} {rest : List Char}

theorem Calm.advance_of_skip (ht : t.Calm) (hskip : skipToToken (s.cursor.rest.length + 1) s = t)
    (h : t.cursor.rest = x :: rest) : s.advance = t.fresh.token >>= LexerState.dropStale := by
  have hend : t.fresh.cursor.atEnd = false := by
    rw [show t.fresh.cursor = t.cursor from rfl, Cursor.atEnd, h, List.isEmpty_cons]
  have hunwind := ht.fresh.unwind (show (-1 : Int) ≤ t.fresh.cursor.column by omega)
  rw [LexerState.advance, hskip, ht.dropStale]
  simp only [bind, Except.bind, hunwind, hend, Bool.false_eq_true, if_false]

theorem Calm.exists_arrives (hs : s.Calm) (hx : Starts x)
    (h : afterGap s.cursor.rest = x :: rest) : ∃ t, Arrives s t ∧ t.cursor.rest = x :: rest := by
  obtain ⟨c, allowed, hskip, hc, hallowed⟩ :=
    exists_skipToToken (Nat.lt_succ_self s.cursor.rest.length) (by
      rw [h]
      rintro _ ⟨⟩
      exact hx)
  rw [h] at hc
  have hcalm : Calm { s with cursor := c, keyAllowed := allowed } :=
    ⟨hs.indent, hs.notRequired, hs.notEnded⟩
  refine ⟨_, ⟨hcalm.advance_of_skip hskip hc, hcalm.fresh, rfl, rfl, hallowed, ?_⟩, hc⟩
  show c.rest.length ≤ _
  rw [hc, ← h]
  exact length_afterGap_le _

structure Passes (s t : LexerState) (tokens : List Token) (rest : List Char) : Prop where
  leads : Leads s t
  calm : t.Calm
  tokens : t.tokens = tokens.reverse ++ s.tokens
  rest : afterGap t.cursor.rest = afterGap rest

theorem Passes.trans {before after : List Token} {r : List Char} (hs : Passes s t before r)
    (ht : Passes t u after rest) : Passes s u (before ++ after) rest where
  leads := hs.leads.trans ht.leads
  calm := ht.calm
  tokens := by rw [ht.tokens, hs.tokens, List.reverse_append, List.append_assoc]
  rest := ht.rest

theorem Arrives.passes {tokens : List Token} (h : Arrives s t) (htoken : t.token = .ok u)
    (hu : u.Calm) (htokens : u.tokens = tokens.reverse ++ t.tokens)
    (hrest : afterGap u.cursor.rest = afterGap rest)
    (hlength : u.cursor.rest.length < t.cursor.rest.length) : Passes s u.fresh tokens rest := by
  refine ⟨.of_advance ?_ hu.notEnded (Nat.lt_of_lt_of_le hlength h.length_le),
    hu.fresh, ?_, hrest⟩
  · rw [h.advance, htoken]
    exact hu.dropStale
  · exact htokens.trans (by rw [h.tokens])

/-! ## Signs -/

theorem token_openList (h : t.cursor.rest = '[' :: rest) :
    t.token = t.openFlow .flowSequenceStart := by
  simp [token, h]

theorem token_openMap (h : t.cursor.rest = '\x7b' :: rest) :
    t.token = t.openFlow .flowMappingStart := by
  simp [token, h]

theorem token_closeList (h : t.cursor.rest = ']' :: rest) :
    t.token = t.closeFlow .flowSequenceEnd := by
  simp [token, h]

theorem token_closeMap (h : t.cursor.rest = '\x7d' :: rest) :
    t.token = t.closeFlow .flowMappingEnd := by
  simp [token, h]

theorem token_entry (h : t.cursor.rest = ',' :: rest) : t.token = t.flowEntry := by
  simp [token, h]

theorem Calm.emit (h : s.Calm) (token : Token) (c : Cursor) : (s.emit token c).Calm :=
  ⟨h.indent, h.notRequired, h.notEnded⟩

/-- The step over a sign of a single character. -/
theorem Arrives.passes_sign {token : Token} (h : Arrives s t) (hrest : t.cursor.rest = x :: rest)
    (htoken : t.token = .ok (u.emit token t.cursor.next)) (hu : u.Calm)
    (htokens : u.tokens = t.tokens) :
    Passes s (u.emit token t.cursor.next).fresh [token] rest := by
  have hnext := Cursor.rest_next hrest
  refine h.passes htoken (hu.emit token _) (congrArg (token :: ·) htokens)
    (congrArg afterGap hnext) ?_
  rw [hrest, List.length_cons]
  exact Nat.lt_succ_of_le (Nat.le_of_eq (congrArg List.length hnext))

theorem Calm.exists_open {token : Token} (hs : s.Calm) (hx : Starts x)
    (h : afterGap s.cursor.rest = x :: rest)
    (htoken : ∀ t : LexerState, t.cursor.rest = x :: rest → t.token = t.openFlow token) :
    ∃ t, Passes s t [token] rest ∧ t.depth = s.depth + 1 ∧ t.keyAllowed = true := by
  obtain ⟨t, harrives, hrest⟩ := hs.exists_arrives hx h
  have hopen := htoken t hrest
  have hmarked := harrives.calm.marked
  rw [openFlow, harrives.calm.markCandidate] at hopen
  simp only [bind, Except.bind, cursor_marked, depth_marked] at hopen
  exact ⟨_, harrives.passes_sign hrest hopen ⟨hmarked.indent, hmarked.notRequired,
    hmarked.notEnded⟩ tokens_marked, congrArg (· + 1) harrives.depth, rfl⟩

theorem Calm.exists_close {token : Token} (hs : s.Calm) (hx : Starts x)
    (h : afterGap s.cursor.rest = x :: rest)
    (htoken : ∀ t : LexerState, t.cursor.rest = x :: rest → t.token = t.closeFlow token) :
    ∃ t, Passes s t [token] rest ∧ t.depth = s.depth - 1 := by
  obtain ⟨t, harrives, hrest⟩ := hs.exists_arrives hx h
  have hclose := htoken t hrest
  have hcleared := harrives.calm.cleared
  rw [closeFlow, harrives.calm.dropCandidate] at hclose
  exact ⟨_, harrives.passes_sign hrest hclose ⟨hcleared.indent, hcleared.notRequired,
    hcleared.notEnded⟩ rfl, congrArg (· - 1) harrives.depth⟩

theorem Calm.exists_entry (hs : s.Calm) (h : afterGap s.cursor.rest = ',' :: rest) :
    ∃ t, Passes s t [.flowEntry] rest ∧ t.depth = s.depth ∧ t.keyAllowed = true := by
  obtain ⟨t, harrives, hrest⟩ := hs.exists_arrives ⟨by decide, by decide, by decide⟩ h
  have hentry := token_entry hrest
  have hcleared := harrives.calm.cleared
  rw [flowEntry, harrives.calm.dropCandidate] at hentry
  exact ⟨_, harrives.passes_sign hrest hentry ⟨hcleared.indent, hcleared.notRequired,
    hcleared.notEnded⟩ rfl, harrives.depth, rfl⟩

/-! ## Scalars -/

theorem token_quoted (h : t.cursor.rest = '"' :: rest) :
    t.token = t.scalarToken false (quotedScalar true) := by
  simp [token, h]

/-- The step over a scalar, which leaves a candidate for a key where one may stand. -/
theorem Arrives.passes_scalar {isPlain : Bool} {read : Cursor → Except Fault (Scanned CodePoint)}
    {scalar : Scanned CodePoint} (h : Arrives s t)
    (htoken : t.token = t.scalarToken isPlain read) (hread : read t.cursor = .ok scalar)
    (hrest : afterGap scalar.cursor.rest = afterGap rest)
    (hlength : scalar.cursor.rest.length < t.cursor.rest.length) :
    Passes s ({ t.marked with keyAllowed := scalar.broke }.emit (.scalar scalar.text isPlain)
      scalar.cursor).fresh
      [.scalar scalar.text isPlain] rest := by
  rw [scalarToken, h.calm.markCandidate] at htoken
  simp only [bind, Except.bind, cursor_marked, hread] at htoken
  have hmarked := h.calm.marked
  refine h.passes htoken ⟨hmarked.indent, hmarked.notRequired, hmarked.notEnded⟩ ?_ hrest hlength
  exact congrArg (Token.scalar scalar.text isPlain :: ·) tokens_marked

def quoted (text : Text) : List Char := '"' :: (text.flatMap escaped ++ ['"'])

theorem quotedScalar_quoted {c : Cursor} {text : Text} (hshort : IsShort text)
    (h : c.rest = quoted text ++ rest) :
    quotedScalar true c = .ok ⟨text, c.past (quoted text).length rest, false⟩ := by
  rw [quotedScalar_string hshort
    (show c.rest = '"' :: (text.flatMap escaped ++ '"' :: rest) by rw [h, quoted]; simp)]
  simp [quoted]

theorem Calm.exists_quoted {text : Text} (hs : s.Calm) (hshort : IsShort text)
    (h : afterGap s.cursor.rest = quoted text ++ rest) :
    ∃ t, Passes s t [.scalar text false] rest ∧ t.depth = s.depth := by
  obtain ⟨t, harrives, hrest⟩ := hs.exists_arrives (x := '"') ⟨by decide, by decide, by decide⟩ h
  have hlength : rest.length < t.cursor.rest.length := by
    rw [show t.cursor.rest = quoted text ++ rest from hrest, List.length_append, quoted,
      List.length_cons]
    omega
  have hpasses := harrives.passes_scalar (token_quoted hrest) (quotedScalar_quoted hshort hrest)
    (show _ = afterGap rest from rfl) hlength
  exact ⟨_, hpasses, depth_marked.trans harrives.depth⟩

structure IsWord (word : List Char) : Prop where
  signs : ∀ x ∈ word, x ∈ wordSigns
  starts : (∃ x more, word = x :: more ∧ x ∈ "0123456789fnt".toList) ∨
    ∃ x more, word = '-' :: x :: more ∧ x ∈ "0123456789".toList

theorem startsWord_plain :
    ∀ x ∈ "0123456789fnt".toList, isVisible x = true ∧ x ≠ ' ' ∧ x ≠ '#' ∧ x ≠ '%' ∧ x ≠ '-' ∧
    x ≠ '.' ∧ x ≠ '[' ∧ x ≠ '\x7b' ∧ x ≠ ']' ∧ x ≠ '\x7d' ∧ x ≠ ',' ∧ x ≠ '?' ∧ x ≠ ':' ∧
    x ≠ '*' ∧ x ≠ '&' ∧ x ≠ '!' ∧ x ≠ '|' ∧ x ≠ '>' ∧ x ≠ '\'' ∧ x ≠ '"' ∧
    (isSpaceOrBreak x || isOneOf "-?:,[]\x7b\x7d#&*!|>'\"%@\x60" x) = false := by
  decide

variable {word : List Char}

theorem IsWord.exists_starts (h : IsWord word) : ∃ x more, word = x :: more ∧ Starts x := by
  rcases h.starts with ⟨x, more, rfl, hx⟩ | ⟨x, more, rfl, -⟩
  · obtain ⟨hvisible, hblank, hcomment, -⟩ := startsWord_plain x hx
    exact ⟨x, more, rfl, hvisible, hblank, hcomment⟩
  · exact ⟨'-', x :: more, rfl, by decide, by decide, by decide⟩

theorem token_word (hword : IsWord word) (h : t.cursor.rest = word ++ rest)
    (hdepth : t.depth ≠ 0) :
    t.token = t.scalarToken true fun c => .ok (plainScalar true t.indent c).points := by
  rcases hword.starts with ⟨x, more, rfl, hx⟩ | ⟨x, more, rfl, hx⟩
  · obtain ⟨-, -, -, hx⟩ := startsWord_plain x hx
    rw [List.cons_append] at h
    simp [token, startsPlain, h, hx, hdepth]
  · have hdigits : ∀ x ∈ "0123456789".toList, x ≠ '-' ∧ isSpaceOrBreak x = false := by decide
    obtain ⟨hdash, hspace⟩ := hdigits x hx
    rw [List.cons_append, List.cons_append] at h
    have hseparator : atSeparator ('-' :: x :: (more ++ rest)) = false := by
      rw [atSeparator.eq_def]
      simp [hdash]
    simp [token, startsPlain, h, hdepth, hseparator, atSpace, hspace]

theorem Calm.exists_word (hs : s.Calm) (hdepth : s.depth ≠ 0) (hword : IsWord word)
    (hrest : Closes rest) (h : afterGap s.cursor.rest = word ++ rest) :
    ∃ t, Passes s t [.scalar (word.map .char) true] rest ∧ t.depth = s.depth := by
  obtain ⟨x, more, hcons, hx⟩ := hword.exists_starts
  obtain ⟨t, harrives, ht⟩ :=
    hs.exists_arrives hx (show _ = x :: (more ++ rest) by rw [h, hcons]; rfl)
  replace ht : t.cursor.rest = word ++ rest := by rw [ht, hcons]; rfl
  have hnil : word ≠ [] := by simp [hcons]
  obtain ⟨htext, hafter⟩ :=
    @plainScalar_word word rest t.cursor t.indent hnil hword.signs hrest ht
  have hlength : (afterGap rest).length < t.cursor.rest.length := by
    have hle := length_afterGap_le rest
    rw [ht, hcons, List.length_append, List.length_cons]
    omega
  have hpasses := harrives.passes_scalar (token_word hword ht (harrives.depth ▸ hdepth)) rfl
    (show afterGap (plainScalar true t.indent t.cursor).cursor.rest = afterGap rest by
      rw [hafter, afterGap_afterGap])
    (show (plainScalar true t.indent t.cursor).cursor.rest.length < _ by
      rw [hafter]; exact hlength)
  rw [show (plainScalar true t.indent t.cursor).points.text = word.map .char by
    rw [Scanned.points, htext]] at hpasses
  exact ⟨_, hpasses, depth_marked.trans harrives.depth⟩

/-! ## Keys -/

theorem token_value (h : t.cursor.rest = ':' :: rest) (hdepth : t.depth ≠ 0) :
    t.token = t.valueSign := by
  simp [token, h, hdepth]

/-- Whether the last token may be a key, and on that account is a candidate. -/
structure Offers (s : LexerState) (k : Candidate) : Prop where
  mem : ∃ ks, s.candidates = k :: ks
  depth : k.depth = s.depth
  line : k.line = s.cursor.line
  index : s.cursor.index - k.index ≤ 1024
  count : s.count = k.before + 1

variable {k : Candidate}

theorem Offers.fresh (h : s.Offers k) : s.fresh.Offers k := by
  obtain ⟨ks, hks⟩ := h.mem
  refine { h with mem := ?_ }
  rw [LexerState.fresh, hks, List.filter_cons_of_pos (by simpa [h.line] using h.index)]
  exact ⟨_, rfl⟩

/-- The sign of a value puts the token of a key before the last token. -/
theorem Offers.valueSign (h : s.Offers k) (hdepth : s.depth ≠ 0) {last : Token}
    {tokens : List Token} (htokens : s.tokens = last :: tokens) :
    s.valueSign = .ok ({ s.cleared with
      tokens := last :: .key :: tokens, count := s.count + 1,
        keyAllowed := false }.emit .value s.cursor.next) := by
  obtain ⟨ks, hks⟩ := h.mem
  have hfind : s.candidates.find? (fun k => k.depth = s.depth) = some k := by
    rw [hks, List.find?_cons_of_pos (by simp [h.depth])]
  have hlater : s.count - k.before = 1 := by
    rw [h.count]
    omega
  rw [LexerState.valueSign, hfind]
  simp [insert, htokens, hlater, hdepth, cleared, emit, push]

/-- The state after a scalar that may be a key. -/
theorem exists_offers (hallowed : s.keyAllowed = true) (token : Token) {n : Nat}
    (hn : n ≤ 1024) :
    ∃ k, Offers ({ s.marked with keyAllowed := false }.emit token (s.cursor.past n rest)) k := by
  rw [marked, if_pos hallowed]
  refine ⟨_, ⟨_, rfl⟩, rfl, rfl, ?_, rfl⟩
  show s.cursor.index + n - s.cursor.index ≤ 1024
  omega

theorem Calm.exists_key {text : Text} (hs : s.Calm) (hdepth : s.depth ≠ 0)
    (hallowed : s.keyAllowed = true) (hshort : IsShort text)
    (hlength : (quoted text).length ≤ 1024)
    (h : afterGap s.cursor.rest = quoted text ++ ':' :: rest) :
    ∃ t, Passes s t [.key, .scalar text false, .value] rest ∧ t.depth = s.depth := by
  obtain ⟨t, harrives, ht⟩ := hs.exists_arrives (x := '"') ⟨by decide, by decide, by decide⟩ h
  replace ht : t.cursor.rest = quoted text ++ ':' :: rest := ht
  have hlt : (':' :: rest).length < t.cursor.rest.length := by
    simp only [ht, quoted, List.length_append, List.length_cons]
    omega
  have hpasses := harrives.passes_scalar (token_quoted ht) (quotedScalar_quoted hshort ht)
    (show _ = afterGap (':' :: rest) from rfl) hlt
  obtain ⟨k, hoffers⟩ :=
    @exists_offers t (':' :: rest) ((harrives.keyAllowed hdepth).trans hallowed)
      (.scalar text false) (quoted text).length hlength
  have hdepths := depth_marked.trans harrives.depth
  generalize hu : LexerState.emit _ _ _ = u at hpasses hoffers
  have hcursor : u.cursor = t.cursor.past (quoted text).length (':' :: rest) := by rw [← hu]; rfl
  have hrest : u.fresh.fresh.cursor.rest = ':' :: rest := congrArg Cursor.rest hcursor
  replace hdepths : u.fresh.fresh.depth = s.depth := by rw [← hdepths, ← hu]; rfl
  have htoken := token_value hrest (hdepths ▸ hdepth)
  rw [hoffers.fresh.fresh.valueSign (hdepths ▸ hdepth)
    (show u.fresh.fresh.tokens = _ from hpasses.tokens)] at htoken
  have hadvance := hpasses.calm.advance_of_skip
    (skipToToken_eq_self (x := ':') ⟨by decide, by decide, by decide⟩
      (show u.fresh.cursor.rest = ':' :: rest from hrest) _) hrest
  have hcleared := hpasses.calm.fresh.cleared
  have hnext := Cursor.rest_next hrest
  rw [htoken] at hadvance
  generalize hw : LexerState.emit _ _ _ = w at hadvance
  have hcalm : w.Calm := hw ▸ ⟨hcleared.indent, hcleared.notRequired, hcleared.notEnded⟩
  have hafter : w.fresh.cursor.rest = rest := by rw [← hnext, ← hw]; rfl
  refine ⟨w.fresh, ⟨hpasses.leads.trans
    (.of_advance (hadvance.trans hcalm.dropStale) hcalm.notEnded ?_),
    hcalm.fresh, by rw [← hw]; rfl, congrArg afterGap hafter⟩, by rw [← hdepths, ← hw]; rfl⟩
  rw [hafter, show u.fresh.cursor.rest = ':' :: rest from hrest, List.length_cons]
  exact Nat.lt_succ_self _

/-! ## The end -/

/-- At the end of the text all tokens are known, and there is one more. -/
theorem Calm.run_of_end (hs : s.Calm) (h : afterGap s.cursor.rest = []) {fuel : Nat}
    (hfuel : 0 < fuel) : run fuel s = s.tokens.reverse ++ [.streamEnd] := by
  obtain ⟨fuel, rfl⟩ := Nat.exists_eq_add_one_of_ne_zero (Nat.ne_of_gt hfuel)
  obtain ⟨c, allowed, hskip, hc, -⟩ :=
    exists_skipToToken (Nat.lt_succ_self s.cursor.rest.length) (by simp [h])
  have hcalm : Calm { s with cursor := c, keyAllowed := allowed } :=
    ⟨hs.indent, hs.notRequired, hs.notEnded⟩
  generalize ht : ({ s with cursor := c, keyAllowed := allowed } : LexerState) = t at hskip hcalm
  have hend : t.fresh.cursor.atEnd = true := by
    rw [← ht, show LexerState.cursor (LexerState.fresh _) = c from rfl, Cursor.atEnd, hc, h,
      List.isEmpty_nil]
  have hunwind := hcalm.fresh.unwind (show (-1 : Int) ≤ t.fresh.cursor.column by omega)
  have htokens : t.fresh.cleared.tokens = s.tokens := by rw [← ht]; rfl
  have hadvance : s.advance =
      .ok { t.fresh.cleared.emit .streamEnd t.fresh.cleared.cursor with ended := true } := by
    rw [advance, hskip, hcalm.dropStale]
    simp only [bind, Except.bind, hunwind, hend, if_true, finish,
      hcalm.fresh.unwind (Int.le_refl _), hcalm.fresh.dropCandidate]
    rfl
  rw [run, hadvance]
  show (Token.streamEnd :: t.fresh.cleared.tokens).reverse = _
  rw [htokens, List.reverse_cons]

end TerseSchema.Yaml.LexerState
