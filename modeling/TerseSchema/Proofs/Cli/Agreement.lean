import TerseSchema.Proofs.Cli.Convert
import TerseSchema.Proofs.MetaSchema.Reordering
/-!
# One verdict for all commands

A file is checked, or converted with a check, with its lists of required names as they are
written or sorted. All of these come to the same verdict: sorting makes no difference to whether
there is a document, nor to whether it is a schema.
-/

namespace TerseSchema.Cli

open TerseSchema

/-! ## Commands that refuse -/

theorem status_showing_ne_zero {before : Screen} {shown : Except DisplayError Screen}
    {next : Screen → Deed} (h : ∀ screen, shown = .ok screen → (next screen).status ≠ 0) :
    (showing before shown next).status ≠ 0 := by
  cases shown with
  | error e => exact Nat.one_ne_zero
  | ok screen => exact h screen rfl

theorem status_withDocument_ne_zero {fs : Files} {source : FilePath} {canonical : Bool}
    {next : Value → Deed}
    (h : ∀ document, documentOfFile fs source canonical = .ok (some document) →
      (next document).status ≠ 0) :
    (withDocument fs source canonical next).status ≠ 0 :=
  withDocument_cases (P := fun deed => deed.status ≠ 0)
    (fun crash => (isFailure_crashed crash).status)
    (fun message => (isFailure_failed message).status) h

theorem status_rejected_ne_zero (s : Screen) (message : Text)
    (found : List MetaSchema.Violation) : (rejected s message found).status ≠ 0 := by
  unfold rejected
  refine status_showing_ne_zero fun screen _ => ?_
  exact status_showing_ne_zero fun _ _ => Nat.one_ne_zero

theorem violationsOf_eq_ok_nil_iff {document : Value} :
    violationsOf document = .ok [] ↔ MetaSchema.isSchema document = true := by
  rw [violationsOf, mapError_eq_ok_iff, MetaSchema.isSchema_iff]

theorem status_verdict_ne_zero (s : Screen) (source : FilePath) {document : Value}
    (h : MetaSchema.isSchema document = false) : (verdict s source document).status ≠ 0 := by
  rw [verdict]
  split
  · exact Nat.one_ne_zero
  · next hpasses =>
      rw [violationsOf_eq_ok_nil_iff, h] at hpasses
      cases hpasses
  · exact status_rejected_ne_zero s _ _

/-- Whether neither a check of a file nor a conversion with a check comes to a good end. -/
structure Refused (fs : Files) (source : FilePath) : Prop where
  check : ∀ showSchema room, (check fs source showSchema room).status ≠ 0
  convert : ∀ (options : ConvertOptions) (room : Nat), options.source = source →
    options.check = true → (convert fs options room).IsFailure

theorem refused_of_not_isSchema {fs : Files} {source : FilePath}
    (h : ∀ canonical document, documentOfFile fs source canonical = .ok (some document) →
      MetaSchema.isSchema document = false) : Refused fs source where
  check showSchema room := by
    refine status_withDocument_ne_zero fun document hmade => ?_
    have hverdict := fun s => status_verdict_ne_zero s source (h false document hmade)
    split
    · exact status_showing_ne_zero fun screen _ => hverdict screen
    · exact hverdict {}
  convert options room hsource hcheck := by
    refine isFailure_convert fun document hdelivers => ?_
    have hpasses := MetaSchema.isSchema_iff.mpr (hdelivers.passes hcheck)
    rw [h options.canonical document (hsource ▸ hdelivers.made)] at hpasses
    cases hpasses

/-! ## Commands that go on -/

def approval (s : Screen) (source : FilePath) : Deed :=
  showing s (s.success (source.text ++ " is a valid schema")) fun screen => { screen }

/-- Whether a check of a file says that its document is a schema, and a conversion with a check
delivers the document, be it the plain or the canonical one. -/
structure Approved (fs : Files) (source : FilePath) (plain canonical : Value) : Prop where
  check : ∀ room, check fs source false room = approval {} source
  shown : ∀ room, Cli.check fs source true room =
    showing {} (showGenerated plain room) fun screen => approval screen source
  convert : ∀ (options : ConvertOptions) (room : Nat), options.source = source →
    options.check = true →
    convert fs options room =
      deliver fs options (if options.canonical then canonical else plain) room

theorem approved_of_isSchema {fs : Files} {source : FilePath} {plain canonical : Value}
    (hplain : documentOfFile fs source false = .ok (some plain))
    (hcanonical : documentOfFile fs source true = .ok (some canonical))
    (h : MetaSchema.isSchema plain = true) (hsorted : MetaSchema.isSchema canonical = true) :
    Approved fs source plain canonical := by
  have hverdict : ∀ s, verdict s source plain = approval s source := by
    intro s
    rw [verdict, violationsOf_eq_ok_nil_iff.mpr h]
    rfl
  have hcheck : ∀ showSchema room, check fs source showSchema room =
      if showSchema then showing {} (showGenerated plain room) fun screen =>
          verdict screen source plain
      else verdict {} source plain := by
    intro showSchema room
    rw [check, withDocument, hplain]
  refine ⟨fun room => ?_, fun room => ?_, ?_⟩
  · rw [hcheck, if_neg Bool.false_ne_true, hverdict]
  · rw [hcheck, if_pos rfl]
    simp only [hverdict]
  · rintro options room rfl _
    by_cases hoption : options.canonical = true
    · have hmade :
          documentOfFile fs options.source options.canonical = .ok (some canonical) := by
        rw [hoption, hcanonical]
      rw [if_pos hoption, convert_eq_deliver hmade fun _ => MetaSchema.isSchema_iff.mp hsorted]
    · have hmade : documentOfFile fs options.source options.canonical = .ok (some plain) := by
        rw [Bool.eq_false_iff.mpr hoption, hplain]
      rw [if_neg hoption, convert_eq_deliver hmade fun _ => MetaSchema.isSchema_iff.mp h]

/-! ## Main statement -/

/-- A schema has a plain value when it has a canonical one, and both are
schemas or none of them is. -/
theorem exists_plain_and_canonical {s : Schema} (h : Json.Encodable s.document) :
    ∃ p c, s.plain = .ok p ∧ s.canonical = .ok c ∧
    MetaSchema.isSchema p = MetaSchema.isSchema c := by
  obtain ⟨p, hp⟩ := h
  obtain ⟨c, hc, hpc⟩ := Json.exists_plain_of_resorted s.document_sorted hp
  refine ⟨p, c, mapError_eq_ok_iff.mpr hp, mapError_eq_ok_iff.mpr hc, ?_⟩
  exact MetaSchema.isSchema_eq_of_resorted hpc (Json.isDenoted_of_plainWithin hp)

theorem exists_documents_of_documentOfFile {fs : Files} {source : FilePath} {canonical : Bool}
    {document : Value} (h : documentOfFile fs source canonical = .ok (some document)) :
    ∃ p c, documentOfFile fs source false = .ok (some p) ∧
      documentOfFile fs source true = .ok (some c) ∧
      MetaSchema.isSchema p = MetaSchema.isSchema c := by
  obtain ⟨v, s, hload, hs, hmade⟩ := documentOfFile_eq_ok_some_iff.mp h
  have hencodable : Json.Encodable s.document := by
    cases canonical with
    | false => exact ⟨document, mapError_eq_ok_iff.mp hmade⟩
    | true => exact Schema.encodable_sorted_iff.mp ⟨document, mapError_eq_ok_iff.mp hmade⟩
  obtain ⟨p, c, hp, hc, hsame⟩ := exists_plain_and_canonical hencodable
  exact ⟨p, c, documentOfFile_eq_ok_some_iff.mpr ⟨v, s, hload, hs, hp⟩,
    documentOfFile_eq_ok_some_iff.mpr ⟨v, s, hload, hs, hc⟩, hsame⟩

/-- What is read from the JSON text of a schema is a schema exactly when the canonical value is
one. So the commands agree on a file: if there is a document, there is one whether or not names
are sorted, and either a check approves of it and conversions with a check deliver it, or all of
them refuse; and if there is none, all of them refuse. -/
theorem commands_agree :
    (∀ (s : Schema) (indent : Option Int) (room : Nat) (text : Text),
      s.json indent room = .ok text →
      ∃ p written c, Json.read text = .ok p ∧ s.sorted.json none = .ok written ∧
        Json.read written = .ok c ∧ s.canonical = .ok c ∧
        MetaSchema.isSchema p = MetaSchema.isSchema c) ∧
    ∀ (fs : Files) (source : FilePath),
      (∃ p c, documentOfFile fs source false = .ok (some p) ∧
        documentOfFile fs source true = .ok (some c) ∧
        MetaSchema.isSchema p = MetaSchema.isSchema c ∧
        (MetaSchema.isSchema p = true → Approved fs source p c) ∧
        (MetaSchema.isSchema p = false → Refused fs source)) ∨
      (∀ canonical document, documentOfFile fs source canonical ≠ .ok (some document)) ∧
      Refused fs source := by
  constructor
  · intro s indent room text htext
    obtain ⟨p, hp, hreads⟩ :=
      Json.reads_text (mapError_eq_ok_iff.mp htext) fun s _ => Json.denoted_ascii s
    obtain ⟨q, c, hq, hc, hsame⟩ := exists_plain_and_canonical ⟨p, hp⟩
    obtain rfl := Except.ok.inj (hp.symm.trans (mapError_eq_ok_iff.mp hq))
    obtain ⟨written, hwritten, hreread⟩ :=
      @Json.exists_text {} _ _ (mapError_eq_ok_iff.mp hc) rfl
        fun s _ => Json.denoted_ascii s
    exact ⟨p, written, c, hreads.read, mapError_eq_ok_iff.mpr hwritten, hreread.read, hc, hsame⟩
  · intro fs source
    by_cases hmade :
      ∃ canonical document, documentOfFile fs source canonical = .ok (some document)
    · obtain ⟨_, _, hdocument⟩ := hmade
      obtain ⟨p, c, hp, hc, hsame⟩ := exists_documents_of_documentOfFile hdocument
      refine .inl ⟨p, c, hp, hc, hsame,
        fun h => approved_of_isSchema hp hc h (hsame ▸ h), fun h => ?_⟩
      refine refused_of_not_isSchema fun canonical document hd => ?_
      cases canonical with
      | false => rwa [← Option.some.inj (Except.ok.inj (hp.symm.trans hd))]
      | true => rwa [← Option.some.inj (Except.ok.inj (hc.symm.trans hd)), ← hsame]
    · have hnone :
          ∀ canonical document, documentOfFile fs source canonical ≠ .ok (some document) :=
        fun canonical document h => hmade ⟨canonical, document, h⟩
      exact .inr ⟨hnone, refused_of_not_isSchema fun canonical document h =>
        absurd h (hnone canonical document)⟩

def repeatedNames : Value :=
  .map [(.text "type", .text "object"),
    (.text "required", .list [.text "b", .text "a", .text "b"])]

def repeatedSchema : Schema := { type := "object", required := ["b", "a", "b"] }

/-- A name that is there twice is found whether or not names are sorted; and a file with
one word is approved of. -/
theorem commands_agree_repeatedNames :
    (∃ text p c, repeatedSchema.json none = .ok text ∧ Json.read text = .ok p ∧
      repeatedSchema.canonical = .ok c ∧
      MetaSchema.isSchema p = false ∧ MetaSchema.isSchema c = false) ∧
    Approved integerFiles ⟨"", ["a"]⟩ integerDocument integerDocument := by
  obtain ⟨hvalues, hfiles⟩ := commands_agree
  constructor
  · have hplain : Json.plain repeatedSchema.document = .ok repeatedSchema.document := rfl
    obtain ⟨text, htext, hreads⟩ :=
      @Json.exists_text {} _ _ hplain rfl fun s _ => Json.denoted_ascii s
    have hjson : repeatedSchema.json none = .ok text := mapError_eq_ok_iff.mpr htext
    obtain ⟨p, _, c, hp, -, -, hc, hsame⟩ := hvalues repeatedSchema none _ text hjson
    have hrejected : MetaSchema.isSchema p = false := by
      obtain rfl := Except.ok.inj (hreads.read.symm.trans hp)
      have hread : Schema.ofDocument repeatedNames = .ok repeatedSchema := rfl
      rw [Bool.eq_false_iff, ne_eq, MetaSchema.isSchema_document_iff (by decide) hread]
      intro hconforms
      exact absurd (hconforms repeatedSchema .refl).required (by decide)
    exact ⟨text, p, c, hjson, hp, hc, hrejected, hsame ▸ hrejected⟩
  · have hschema : MetaSchema.isSchema integerDocument = true := by decide +kernel
    rcases hfiles integerFiles ⟨"", ["a"]⟩ with ⟨p, c, hp, hc, -, happroved, -⟩ | ⟨hnone, -⟩
    · obtain rfl :=
        Option.some.inj (Except.ok.inj (hp.symm.trans (documentOf_integerFiles false)))
      obtain rfl :=
        Option.some.inj (Except.ok.inj (hc.symm.trans (documentOf_integerFiles true)))
      exact happroved hschema
    · exact absurd (documentOf_integerFiles false) (hnone false integerDocument)

end TerseSchema.Cli
