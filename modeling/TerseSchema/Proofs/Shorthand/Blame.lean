import TerseSchema.Proofs.Outcome
import TerseSchema.Proofs.Shorthand.Grammar
/-!
# Where shorthand fails

The path of a failure leads to the first place that is not shorthand, and its cause tells what is
wrong there: with the value, or with the value under its key. First is meant in the order of the
document, from the outside in, so that nothing after that place matters.
-/

namespace TerseSchema

/-- Whether a value is neither text nor list nor map, and no cut. -/
def Value.isForeign : Value → Bool
  | .text _ => false
  | .list _ => false
  | .tuple _ => false
  | .map _ => false
  | .knot _ _ => false
  | .cut _ _ => false
  | _ => true

namespace Shorthand

def Expands (v : Value) : Prop := ∃ s, expand v = .ok s

/-- Keys lead from a value to a part of it. In each map on the way, the entries before the one
that is taken expand, each on its own. -/
inductive Leads : Value → List Text → Value → Prop where
  | here (v : Value) : Leads v [] v
  | entry {v k u w : Value} {before after : List (Value × Value)} {keys : List Text}
      (hv : v.untied = .map (before ++ (k, u) :: after))
      (hbefore : ∀ e ∈ before, Expands (.map [e])) (hkey : k.isWritable = true)
      (h : Leads u keys w) : Leads v (k.keyText :: keys) w

/-- What is wrong with a value under whatever key. -/
inductive Unfit (w : Value) : Cause → Prop where
  | kind (hkind : w.untied.isForeign = true) (hshown : w.untied.isWritable = true) :
      Unfit w (.unsupportedValue w.untied)
  | token {token : Text} (hw : w.untied = .text token)
      (hname : token.takeWhile (· ≠ .char ',') ∉ scalarNames) :
      Unfit w (.unsupportedScalar (token.takeWhile (· ≠ .char ',')))
  | empty (hw : w.items? = some []) : Unfit w .emptyEnum
  /-- A number is too long for the message about it. -/
  | long (hkind : w.untied.isForeign = true) (hlong : w.untied.isWritable = false) :
      Unfit w (.limit .longNumeral)
  /-- A number is too long for a key. -/
  | longKey {k u : Value} {before after : List (Value × Value)}
      (hw : w.untied = .map (before ++ (k, u) :: after))
      (hbefore : ∀ e ∈ before, Expands (.map [e])) (hkey : k.isWritable = false) :
      Unfit w (.limit .longNumeral)
  | endless {label : Nat} {container : Container} (hw : w.untied = .cut label container) :
      Unfit w (.limit .endless)

/-- What is wrong with shorthand under its key. -/
inductive Misfit (key : Text) (w : Value) : Cause → Prop where
  | notList {s : Schema} (hkey : (PropertyKey.decode key).modifier = some "enum")
      (hw : expand w = .ok s) (hlist : w.items? = none) (hshown : s.document.isWritable = true) :
      Misfit key w (.enumNotList s.document)
  | modifier {word : Text} (hkey : (PropertyKey.decode key).modifier = some word)
      (hw : Expands w) (hword : word ∉ (["object", "array", "enum", "*"] : List Text)) :
      Misfit key w (.unknownModifier word ["object", "array", "enum", "*"])
  /-- A number is too long for the message about the schema. -/
  | long {s : Schema} (hkey : (PropertyKey.decode key).modifier = some "enum")
      (hw : expand w = .ok s) (hlist : w.items? = none) (hlong : s.document.isWritable = false) :
      Misfit key w (.limit .longNumeral)

/-! ## Entries -/

inductive EntryFails (e : Value × Value) : Failure → Prop where
  | key (hkey : e.1.isWritable = false) : EntryFails e .longNumeral
  | value {f : Failure} (hkey : e.1.isWritable = true) (h : expand e.2 = .error f) :
      EntryFails e (f.nest [.key e.1.keyText])
  | member {child : Schema} {cause : Cause} (hkey : e.1.isWritable = true)
      (hchild : expand e.2 = .ok child)
      (h : (PropertyKey.decode e.1.keyText).member child = .error cause) :
      EntryFails e ⟨cause, [.key e.1.keyText]⟩

theorem expandEntries_cons_eq_error_iff {e : Value × Value} {rest : List (Value × Value)}
    {f : Failure} :
    expandEntries (e :: rest) = .error f ↔
      EntryFails e f ∨ (∃ member, EntryExpands e member) ∧ expandEntries rest = .error f := by
  obtain ⟨k, v⟩ := e
  rw [expandEntries]
  constructor
  · intro h
    split at h
    · next hkey =>
        cases h
        exact .inl (.key (by simpa using hkey))
    next hkey =>
    have hkey : k.isWritable = true := by simpa using hkey
    cases hv : expand v with
    | error g =>
        simp only [hv, Except.error.injEq] at h
        exact .inl (h ▸ .value hkey hv)
    | ok child =>
        cases hm : (PropertyKey.decode k.keyText).member child with
        | error cause =>
            simp only [hv, hm, Except.error.injEq] at h
            exact .inl (h ▸ .member hkey hv hm)
        | ok member =>
            simp only [hv, hm] at h
            rcases bind_eq_error_iff.mp h with hrest | ⟨members, -, hpure⟩
            · exact .inr ⟨⟨member, hkey, child, hv, hm⟩, hrest⟩
            · exact absurd hpure pure_ne_error
  · rintro (hfails | ⟨⟨member, hkey, child, hv, hm⟩, hrest⟩)
    · cases hfails with
      | key hkey => simp [hkey]
      | value hkey h => simp [hkey, h]
      | member hkey hchild h => simp [hkey, hchild, h]
    · simp [hkey, hv, hm, hrest, bind, Except.bind]

theorem expandEntries_eq_error_iff {entries : List (Value × Value)} {f : Failure} :
    expandEntries entries = .error f ↔ ∃ before e after, entries = before ++ e :: after ∧
      (∀ d ∈ before, ∃ member, EntryExpands d member) ∧ EntryFails e f :=
  exists_first_iff (P := fun _ entries => expandEntries entries = .error f)
    (F := fun _ e => EntryFails e f) (i := 0) (by simp [expandEntries])
    fun _ _ _ => expandEntries_cons_eq_error_iff

theorem expands_entry_iff {e : Value × Value} :
    Expands (.map [e]) ↔ ∃ member, EntryExpands e member := by
  simp only [Expands, expand_map_eq_ok_iff, List.forall₂_cons_left_iff,
    List.forall₂_nil_left_iff]
  constructor
  · rintro ⟨_, _, ⟨member, _, h, _⟩, -⟩
    exact ⟨member, h⟩
  · rintro ⟨member, h⟩
    exact ⟨_, _, ⟨member, [], h, rfl, rfl⟩, rfl⟩

theorem expand_map_eq_error_iff {entries : List (Value × Value)} {f : Failure} :
    expand (.map entries) = .error f ↔ ∃ before e after, entries = before ++ e :: after ∧
      (∀ d ∈ before, Expands (.map [d])) ∧ EntryFails e f := by
  simp only [expand, expands_entry_iff, ← expandEntries_eq_error_iff]
  cases expandEntries entries <;> simp [bind, Except.bind, pure, Except.pure]

/-! ## Keys -/

theorem member_eq_error_iff {key : PropertyKey} {child : Schema} {cause : Cause} :
    key.member child = .error cause ↔
      (∃ word, key.modifier = some word ∧ word ∉ (["object", "array", "enum", "*"] : List Text) ∧
        cause = .unknownModifier word ["object", "array", "enum", "*"]) ∨
      (key.modifier = some "enum" ∧ child.enum = none ∧
        cause = .showing child.document (.enumNotList child.document)) := by
  cases hmod : key.modifier with
  | none => simp [PropertyKey.member, hmod]
  | some text =>
      cases hname : Modifier.ofName? text with
      | none =>
          have hother := (ofName?_eq_none_iff text).mp hname
          have hall : Modifier.all.map Modifier.name = ["object", "array", "enum", "*"] := rfl
          simp [PropertyKey.member, hmod, hname, hother, hall, @eq_comm _ _ cause]
      | some m =>
          obtain rfl := name_of_ofName? hname
          simp only [PropertyKey.member, hmod, hname]
          cases m with
          | object => simp [Modifier.name, Text.ofString]
          | array => simp [Modifier.name, Text.ofString]
          | wildcard => simp [Modifier.name, wildcard, Text.ofString]
          | enum => cases child.enum <;> simp [Modifier.name, @eq_comm _ _ cause]

theorem enum_eq_none_iff_of_expand {w : Value} {s : Schema} (h : expand w = .ok s) :
    s.enum = none ↔ w.items? = none := by
  rw [← not_iff_not, ← Ne, enum_ne_none_iff_of_expand h, ← Ne, Option.ne_none_iff_exists']
  constructor
  · rintro ⟨items, hitems, -⟩
    exact ⟨items, hitems⟩
  · rintro ⟨items, hitems⟩
    rcases expand_cases h with ⟨token, hw, -⟩ | ⟨others, hothers, hne, -⟩ |
      ⟨entries, members, hw, -, -⟩
    · simp [Value.items?, hw] at hitems
    · exact ⟨others, hothers, hne⟩
    · simp [Value.items?, hw] at hitems

theorem Misfit.expands {key : Text} {w : Value} {cause : Cause} (h : Misfit key w cause) :
    Expands w := by
  cases h with
  | notList _ hw _ _ => exact ⟨_, hw⟩
  | modifier _ hw _ => exact hw
  | long _ hw _ _ => exact ⟨_, hw⟩

theorem misfit_iff {key : Text} {w : Value} {child : Schema} {cause : Cause}
    (h : expand w = .ok child) :
    Misfit key w cause ↔ (PropertyKey.decode key).member child = .error cause := by
  rw [member_eq_error_iff, enum_eq_none_iff_of_expand h]
  constructor
  · intro hmisfit
    cases hmisfit with
    | notList hkey hw hlist hshown =>
        cases h.symm.trans hw
        exact .inr ⟨hkey, hlist, (if_pos hshown).symm⟩
    | modifier hkey hw hword => exact .inl ⟨_, hkey, hword, rfl⟩
    | long hkey hw hlist hlong =>
        cases h.symm.trans hw
        exact .inr ⟨hkey, hlist, by simp [Cause.showing, hlong]⟩
  · rintro (⟨word, hkey, hword, rfl⟩ | ⟨hkey, hlist, rfl⟩)
    · exact .modifier hkey ⟨child, h⟩ hword
    · rw [Cause.showing]
      split
      · next hshown => exact .notList hkey h hlist hshown
      · next hlong => exact .long hkey h hlist (by simpa using hlong)

/-! ## Values -/

theorem expand_untied (v : Value) : expand v.untied = expand v := by
  induction v using Value.byParts with
  | knot label container ih => simpa only [Value.untied_knot, expand] using ih
  | leaf v hleaf => rw [Value.untied_of_not_container hleaf]
  | _ => rfl

theorem expand_foreign {v : Value} (h : v.isForeign = true) :
    expand v = .error ⟨.showing v (.unsupportedValue v), []⟩ := by
  cases v <;> first | rfl | simp [Value.isForeign] at h

theorem expand_of_unfit {w : Value} {cause : Cause} (h : Unfit w cause) :
    expand w = .error ⟨cause, []⟩ := by
  rw [← expand_untied]
  cases h with
  | kind hkind hshown => rw [expand_foreign hkind, Cause.showing, if_pos hshown]
  | token hw hname =>
      rw [← Text.splitAtFirst_fst] at hname ⊢
      simp [hw, expand, scalar, hname]
  | empty hw =>
      rw [Value.items?] at hw
      split at hw
      · next hlist =>
          cases hw
          rw [hlist]
          rfl
      · next htuple =>
          cases hw
          rw [htuple]
          rfl
      · cases hw
  | long hkind hlong => simp [expand_foreign hkind, Cause.showing, hlong]
  | longKey hw hbefore hkey =>
      rw [hw, expand_map_eq_error_iff]
      exact ⟨_, _, _, rfl, hbefore, .key hkey⟩
  | endless hw =>
      rw [hw]
      rfl

/-- A value that is no map fails where it stands. -/
theorem unfit_of_expand {v : Value} {f : Failure} (hmap : ∀ entries, v.untied ≠ .map entries)
    (h : expand v = .error f) : f.path = [] ∧ Unfit v f.cause := by
  have hknot := v.untied_ne_knot
  have hforeign : v.untied.isForeign = true → f.path = [] ∧ Unfit v f.cause := by
    intro hkind
    rw [← expand_untied, expand_foreign hkind, Except.error.injEq] at h
    subst h
    refine ⟨rfl, ?_⟩
    cases hshown : v.untied.isWritable with
    | true => simpa [Cause.showing, hshown] using Unfit.kind hkind hshown
    | false => simpa [Cause.showing, hshown] using Unfit.long hkind hshown
  have hempty : ∀ items, v.items? = some items → enumeration items = .error f →
      f.path = [] ∧ Unfit v f.cause := by
    intro items hitems hfails
    cases items with
    | nil =>
        cases hfails
        exact ⟨rfl, .empty hitems⟩
    | cons item rest => simp [enumeration] at hfails
  rw [← expand_untied] at h
  cases hv : v.untied with
  | knot label container => exact absurd hv (hknot label container)
  | map entries => exact absurd hv (hmap entries)
  | text token =>
      rw [hv] at h
      by_cases hname : (Text.splitAtFirst (CodePoint.char ',') token).1 ∈ scalarNames
      · simp [expand, scalar, hname] at h
      · simp only [expand, scalar, List.contains_iff_mem, hname, if_false,
          Except.error.injEq] at h
        subst h
        rw [Text.splitAtFirst_fst] at hname ⊢
        exact ⟨rfl, .token hv hname⟩
  | list items | tuple items =>
    exact hempty items (by simp [Value.items?, hv]) (by simpa only [hv, expand] using h)
  | cut label container =>
      rw [hv] at h
      cases h
      exact ⟨rfl, .endless hv⟩
  | _ => exact hforeign (by rw [hv]; rfl)

/-! ## Places -/

def Blames (v : Value) (f : Failure) : Prop :=
  ∃ keys w, f.path = keys.map .key ∧ Leads v keys w ∧
    (Unfit w f.cause ∨ ∃ key, keys.getLast? = some key ∧ Misfit key w f.cause)

theorem blames_of_expand {v : Value} {f : Failure} (h : expand v = .error f) : Blames v f := by
  induction v using Value.byContents generalizing f with
  | step v _ ih =>
      by_cases hmap : ∃ entries, v.untied = .map entries
      · obtain ⟨entries, hv⟩ := hmap
        rw [← expand_untied, hv] at h
        obtain ⟨before, ⟨k, u⟩, after, rfl, hbefore, hfails⟩ := expand_map_eq_error_iff.mp h
        cases hfails with
        | key hkey => exact ⟨[], v, rfl, .here v, .inl (.longKey hv hbefore hkey)⟩
        | @value g hkey hu =>
            obtain ⟨keys, w, hpath, hleads, hwrong⟩ := ih _ hv (k, u) (by simp) hu
            refine ⟨k.keyText :: keys, w, by simp [Failure.nest, hpath],
              .entry hv hbefore hkey hleads, hwrong.imp_right ?_⟩
            rintro ⟨key, hlast, hmisfit⟩
            exact ⟨key, by simp [List.getLast?_cons, hlast], hmisfit⟩
        | member hkey hu hmember =>
            exact ⟨[k.keyText], u, rfl, .entry hv hbefore hkey (.here u),
              .inr ⟨k.keyText, rfl, (misfit_iff hu).mpr hmember⟩⟩
      · obtain ⟨hpath, hunfit⟩ := unfit_of_expand (fun entries hv => hmap ⟨entries, hv⟩) h
        exact ⟨[], v, hpath, .here v, .inl hunfit⟩

theorem expand_of_leads {v w : Value} {keys : List Text} {cause : Cause} (h : Leads v keys w)
    (hwrong : Unfit w cause ∨ ∃ key, keys.getLast? = some key ∧ Misfit key w cause) :
    expand v = .error ⟨cause, keys.map .key⟩ := by
  induction h with
  | here w =>
      rcases hwrong with hunfit | ⟨key, hlast, -⟩
      · exact expand_of_unfit hunfit
      · cases hlast
  | @entry v k u w before after keys hv hbefore hkey hleads ih =>
      rw [← expand_untied, hv, expand_map_eq_error_iff]
      refine ⟨before, (k, u), after, rfl, hbefore, ?_⟩
      cases keys with
      | nil =>
          cases hleads
          rcases hwrong with hunfit | ⟨key, hlast, hmisfit⟩
          · exact .value hkey (expand_of_unfit hunfit)
          · cases hlast
            obtain ⟨child, hu⟩ := hmisfit.expands
            exact .member hkey hu ((misfit_iff hu).mp hmisfit)
      | cons next keys => exact EntryFails.value (e := (k, u)) hkey (ih hwrong)

/-- A failure of shorthand blames the first place that is at fault. However the entries after it
go on, the failure is the same. -/
theorem blames_first_of_expand {v : Value} {f : Failure} (h : expand v = .error f) :
    ∃ keys w, f.path = keys.map .key ∧ Leads v keys w ∧
      (Unfit w f.cause ∨ ∃ key, keys.getLast? = some key ∧ Misfit key w f.cause) ∧
      ∀ other, Leads other keys w → expand other = .error f := by
  obtain ⟨keys, w, hpath, hleads, hwrong⟩ := blames_of_expand h
  refine ⟨keys, w, hpath, hleads, hwrong, fun other hother => ?_⟩
  rw [expand_of_leads hother hwrong, ← hpath]

/-- A word in parentheses that is no modifier, inside of a map, and more that
is at fault after it. -/
def misnamed : Value :=
  .map [(.text "a", .text "string"),
    (.text "b", .map [(.text "c?", .list [.text "x"]), (.text "d(list, of e)", .text "integer"),
      (.text "f", .int 3)]),
    (.text "g(enum)", .text "string")]

def misnaming : Failure :=
  ⟨.unknownModifier "list" ["object", "array", "enum", "*"], [.key "b", .key "d(list, of e)"]⟩

theorem blames_first_misnamed : expand misnamed = .error misnaming ∧
    ∃ keys w, misnaming.path = keys.map .key ∧ Leads misnamed keys w ∧
      (Unfit w misnaming.cause ∨
        ∃ key, keys.getLast? = some key ∧ Misfit key w misnaming.cause) ∧
      ∀ other, Leads other keys w → expand other = .error misnaming := by
  have hexpand : expand misnamed = .error misnaming := rfl
  exact ⟨hexpand, blames_first_of_expand hexpand⟩

end Shorthand
end TerseSchema
