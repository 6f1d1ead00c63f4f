import TerseSchema.Cli.Commands
import TerseSchema.Proofs.Json.Characters
import TerseSchema.Proofs.Json.Fixed
import TerseSchema.Proofs.Json.Reading
import TerseSchema.Proofs.MetaSchema.Check
/-!
# Converting files

A conversion is all or nothing. If its document cannot be made, fails the check or has no JSON
text, no file is written and nothing is shown but on the error stream. If not, one JSON text is
written or shown, and it is read as the document.
-/

namespace TerseSchema.Cli

/-! ## What a failure leaves -/

/-- Whether nothing comes of a command but words on the error stream. -/
structure Deed.IsFailure (deed : Deed) : Prop where
  written : deed.written = none
  output : deed.screen.output = ""
  status : deed.status ≠ 0

theorem output_writeErrors (s : Screen) (text : Text) :
    (s.writeErrors text).output = s.output := rfl

theorem output_diagnostic {s t : Screen} {markup : Text} (h : s.diagnostic markup = .ok t) :
    t.output = s.output := by
  simp only [Screen.diagnostic, bind_eq_ok_iff] at h
  obtain ⟨text, -, hshown⟩ := h
  cases hshown
  rfl

theorem output_foldlM {α : Type} {line : Screen → α → Except DisplayError Screen}
    (h : ∀ s t a, line s a = .ok t → t.output = s.output) {items : List α} {s t : Screen}
    (hfold : items.foldlM line s = .ok t) : t.output = s.output := by
  induction items generalizing s with
  | nil => cases hfold; rfl
  | cons a items ih =>
      rw [List.foldlM_cons, bind_eq_ok_iff] at hfold
      obtain ⟨u, hu, hrest⟩ := hfold
      rw [ih hrest, h s u a hu]

theorem output_problems {s t : Screen} {found : List (Text × Text)}
    (h : s.problems found = .ok t) : t.output = s.output := by
  rw [Screen.problems] at h
  split at h
  · cases h
    rfl
  · rw [bind_eq_ok_iff] at h
    obtain ⟨titled, htitled, hrest⟩ := h
    rw [bind_eq_ok_iff] at hrest
    obtain ⟨last, hlast, hend⟩ := hrest
    obtain rfl := Except.ok.inj hend
    rw [output_writeErrors, output_foldlM (fun _ _ _ hline => output_diagnostic hline) hlast,
      output_diagnostic htitled, output_writeErrors]

theorem isFailure_crashed (crash : Crash) : (Deed.crashed crash).IsFailure :=
  ⟨rfl, rfl, Nat.one_ne_zero⟩

theorem isFailure_showing {before : Screen} {shown : Except DisplayError Screen}
    {next : Screen → Deed} (hbefore : before.output = "")
    (h : ∀ screen, shown = .ok screen → (next screen).IsFailure) :
    (showing before shown next).IsFailure := by
  cases shown with
  | error e => exact ⟨rfl, hbefore, Nat.one_ne_zero⟩
  | ok screen => exact h screen rfl

theorem isFailure_failed (message : Text) : (failed {} message).IsFailure :=
  isFailure_showing rfl fun _ h => ⟨rfl, output_diagnostic h, Nat.one_ne_zero⟩

theorem isFailure_rejected (message : Text) (found : List MetaSchema.Violation) :
    (rejected {} message found).IsFailure :=
  isFailure_showing rfl fun screen h =>
    have hscreen : screen.output = "" := output_diagnostic h
    isFailure_showing hscreen fun _ hlast =>
      ⟨rfl, (output_problems hlast).trans hscreen, Nat.one_ne_zero⟩

/-- What goes on with the schema document of a file is a crash, a word on why there is
none, or what comes next. -/
theorem withDocument_cases {P : Deed → Prop} {fs : Files} {source : FilePath} {canonical : Bool}
    {next : Value → Deed} (hcrashed : ∀ crash, P (.crashed crash))
    (hfailed : ∀ message, P (failed {} message))
    (h : ∀ document, documentOfFile fs source canonical = .ok (some document) →
      P (next document)) :
    P (withDocument fs source canonical next) := by
  rw [withDocument]
  split
  · exact hcrashed _
  · exact hfailed _
  · exact hcrashed _
  · exact hfailed _
  · next document hdocument => exact h document hdocument

theorem isFailure_withDocument {fs : Files} {source : FilePath} {canonical : Bool}
    {next : Value → Deed}
    (h : ∀ document, documentOfFile fs source canonical = .ok (some document) →
      (next document).IsFailure) :
    (withDocument fs source canonical next).IsFailure :=
  withDocument_cases isFailure_crashed isFailure_failed h

/-! ## Documents that can be delivered -/

/-- Whether nothing stands in the way of a document: it is made out of the source, passes the
check if there is to be one, and has a text under the indentation. -/
structure Delivers (fs : Files) (options : ConvertOptions) (room : Nat)
    (document : Value) : Prop where
  made : documentOfFile fs options.source options.canonical = .ok (some document)
  passes : options.check = true → MetaSchema.check document = .ok []
  has_text : ∃ text, Json.text { indent := some options.indent, room } document = .ok text

/-- Whether a file can be made under a path. -/
def IsWritable (fs : Files) (path : FilePath) : Prop :=
  ∃ directory, makeParent fs path = .ok directory ∧ checkOpens fs path directory = .ok ()

theorem schemaDocument_eq_ok_some_iff {canonical : Bool} {v document : Value} :
    schemaDocument canonical v = .ok (some document) ↔
      ∃ s, schemaOf v = .ok (some s) ∧
      (if canonical then s.canonical else s.plain) = .ok document := by
  rw [schemaDocument, bind_eq_ok_iff]
  constructor
  · rintro ⟨s?, hs, hrest⟩
    cases s? with
    | none => cases hrest
    | some s =>
        refine ⟨s, hs, ?_⟩
        cases canonical <;>
        · obtain ⟨made, hmade, hend⟩ := bind_eq_ok_iff.mp hrest
          obtain rfl := Option.some.inj (Except.ok.inj hend)
          exact hmade
  · rintro ⟨s, hs, hmade⟩
    refine ⟨some s, hs, ?_⟩
    cases canonical <;> exact bind_eq_ok_iff.mpr ⟨document, hmade, rfl⟩

theorem documentOfFile_eq_ok_some_iff {fs : Files} {source : FilePath} {canonical : Bool}
    {document : Value} :
    documentOfFile fs source canonical = .ok (some document) ↔
      ∃ v s, loadFile fs source = .ok v ∧ schemaOf v = .ok (some s) ∧
        (if canonical then s.canonical else s.plain) = .ok document := by
  simp only [documentOfFile, bind_eq_ok_iff, mapError_eq_ok_iff, schemaDocument_eq_ok_some_iff]
  exact exists_congr fun v => exists_and_left.symm

theorem isDenoted_of_documentOfFile {fs : Files} {source : FilePath} {canonical : Bool}
    {document : Value} (h : documentOfFile fs source canonical = .ok (some document)) :
    Json.IsDenoted document := by
  obtain ⟨v, s, -, -, hmade⟩ := documentOfFile_eq_ok_some_iff.mp h
  cases canonical <;> exact Json.isDenoted_of_plainWithin (mapError_eq_ok_iff.mp hmade)

theorem objections_eq_ok_nil_iff {options : ConvertOptions} {document : Value} :
    objections options document = .ok [] ↔
    (options.check = true → MetaSchema.check document = .ok []) := by
  cases hcheck : options.check
  · simp [objections, hcheck, pure, Except.pure]
  · simp [objections, hcheck, violationsOf, mapError_eq_ok_iff]

/-- JSON is shown by writing the document, reading the text and writing it again. -/
theorem data_value (s : Screen) (document : Value) (indent : Option Int) (room : Nat) :
    s.data (.value document) [] indent room =
      (Json.text { indent, room } document).mapError .json >>= fun text =>
        (Json.read text).mapError .reading >>= fun v => s.value indent v room := rfl

theorem data_of_read {s : Screen} {document v : Value} {indent : Option Int} {room : Nat}
    {json : Text} (hjson : Json.text { indent, room } document = .ok json)
    (hread : Json.read json = .ok v) :
    s.data (.value document) [] indent room = s.value indent v room := by
  rw [data_value, hjson]
  simp only [Except.mapError, bind, Except.bind, hread]

theorem fileText_eq_ok_iff {indent room : Nat} {document : Value} {text : Text} :
    fileText indent document room = .ok text ↔
      ∃ json, Json.text { indent := some indent, room } document = .ok json ∧
      json ++ "\n" = text := by
  simp only [fileText, bind_eq_ok_iff, mapError_eq_ok_iff, pure, Except.pure, Except.ok.injEq]

theorem textToWrite_eq_ok_iff {fs : Files} {path : FilePath} {indent room : Nat}
    {document : Value} {text : Text} :
    textToWrite fs path indent document room = .ok text ↔
      IsWritable fs path ∧ fileText indent document room = .ok text := by
  simp only [textToWrite, bind_eq_ok_iff, mapError_eq_ok_iff, pure, Except.pure,
    Except.ok.injEq, IsWritable]
  constructor
  · rintro ⟨directory, hdirectory, text, htext, _, hopens, rfl⟩
    exact ⟨⟨directory, hdirectory, hopens⟩, htext⟩
  · rintro ⟨⟨directory, hdirectory, hopens⟩, htext⟩
    exact ⟨directory, hdirectory, text, htext, (), hopens, rfl⟩

theorem isFailure_deliver {fs : Files} {options : ConvertOptions} {room : Nat} {document : Value}
    (h : ∀ text, Json.text { indent := some options.indent, room } document ≠ .ok text) :
    (deliver fs options document room).IsFailure := by
  rw [deliver]
  split
  · refine isFailure_showing rfl fun screen hshown => ?_
    rw [data_value, bind_eq_ok_iff] at hshown
    obtain ⟨text, htext, -⟩ := hshown
    exact absurd (mapError_eq_ok_iff.mp htext) (h text)
  · split
    · exact isFailure_crashed _
    · next text htext =>
        obtain ⟨-, hfile⟩ := textToWrite_eq_ok_iff.mp htext
        obtain ⟨json, hjson, -⟩ := fileText_eq_ok_iff.mp hfile
        exact absurd hjson (h json)

/-! ## What a success leaves -/

theorem output_showing_success (s : Screen) (message : Text) :
    (showing s (s.success message) fun screen => ({ screen } : Deed)).screen.output =
      s.output := by
  cases hshown : s.success message with
  | error e => rfl
  | ok screen => exact output_diagnostic hshown

theorem denoted_of_isDenoted {document : Value} (h : Json.IsDenoted document) (ascii : Bool) :
    ∀ s ∈ document.texts, Json.denoted ascii s = s.paired := by
  intro s hs
  rw [Json.denoted, h.paired_texts s hs, ite_self]

/-- The text of a document is read as the document. -/
theorem reads_document {style : Json.Style} {document : Value} {json : Text}
    (h : Json.IsDenoted document) (hjson : Json.text style document = .ok json) :
    Json.Reads json document := by
  obtain ⟨v, hv, hreads⟩ := Json.reads_text hjson (denoted_of_isDenoted h _)
  rw [Json.plain, Json.plainWithin_of_isDenoted h] at hv
  rwa [Except.ok.inj hv]

theorem allSpaces_newline : Json.AllSpaces "\n" := by
  simp [Json.AllSpaces, Text.ofString, CodePoint.any, Json.isSpace]

/-- A word on a success comes with the status of one, unless it cannot be shown. -/
theorem status_showing_success_iff (s : Screen) (message : Text) :
    (showing s (s.success message) fun screen => ({ screen } : Deed)).status = 0 ↔
      ∃ screen, s.success message = .ok screen := by
  cases hshown : s.success message with
  | error e => exact iff_of_false Nat.one_ne_zero (by simp)
  | ok screen => exact iff_of_true rfl ⟨screen, rfl⟩

/-- The document in a file. -/
theorem deliver_to_file {fs : Files} {options : ConvertOptions} {room : Nat} {document : Value}
    {path : FilePath} {json : Text} (houtput : options.output = some path)
    (hpath : IsWritable fs path) (hdocument : Json.IsDenoted document)
    (hjson : Json.text { indent := some options.indent, room } document = .ok json) :
    (deliver fs options document room).screen.output = "" ∧
      ((deliver fs options document room).status = 0 ↔
        ∃ screen, ({} : Screen).success (writtenTo path) = .ok screen) ∧
      ∃ text, (deliver fs options document room).written = some (path, text) ∧
        Json.read text = .ok document := by
  have htext : textToWrite fs path options.indent document room = .ok (json ++ "\n") :=
    textToWrite_eq_ok_iff.mpr ⟨hpath, fileText_eq_ok_iff.mpr ⟨json, hjson, rfl⟩⟩
  simp only [deliver, houtput, htext]
  exact ⟨output_showing_success {} _, status_showing_success_iff {} _, json ++ "\n", rfl,
    (reads_document hdocument hjson).read_append allSpaces_newline⟩

/-- The document on the output stream. -/
theorem deliver_to_screen {fs : Files} {options : ConvertOptions} {room : Nat} {document : Value}
    {json : Text} (houtput : options.output = none) (hdocument : Json.IsDenoted document)
    (hchars : ∀ s ∈ document.texts, s.isChars = true)
    (hjson : Json.text { indent := some options.indent, room } document = .ok json) :
    ∃ shown, deliver fs options document room = { screen := { output := shown } } ∧
      Json.read (Text.ofString shown) = .ok document := by
  obtain ⟨again, hagain, hreads⟩ := Json.exists_text_of_text hjson
    (Json.plainWithin_of_isDenoted hdocument) (denoted_of_isDenoted hdocument false)
  have hline : (again ++ Text.ofString "\n").isChars = true := by
    rw [Text.isChars_append, Json.isChars_text hchars hagain]
    rfl
  obtain ⟨cs, hcs, htext⟩ := Text.exists_chars_of_isChars hline
  have hshown : ({} : Screen).data (.value document) [] (some options.indent) room =
      .ok { output := String.ofList cs } := by
    rw [data_of_read hjson (reads_document hdocument hjson).read, Screen.value, hagain]
    simp only [Screen.writeOutput, hcs, String.empty_append]
  refine ⟨String.ofList cs, ?_, ?_⟩
  · simp only [deliver, houtput, hshown]
    rfl
  · have hofString : Text.ofString (String.ofList cs) = again ++ Text.ofString "\n" := by
      rw [htext, Text.ofString, String.toList_ofList]
    rw [hofString]
    exact hreads.read_append allSpaces_newline

theorem isFailure_convert {fs : Files} {options : ConvertOptions} {room : Nat}
    (h : ∀ document, ¬ Delivers fs options room document) :
    (convert fs options room).IsFailure := by
  refine isFailure_withDocument fun document hmade => ?_
  cases hobjections : objections options document with
  | error crash => exact isFailure_crashed crash
  | ok violations =>
      cases violations with
      | nil =>
          exact isFailure_deliver fun text htext =>
            h document ⟨hmade, objections_eq_ok_nil_iff.mp hobjections, text, htext⟩
      | cons violation more => exact isFailure_rejected _ _

theorem convert_eq_deliver {fs : Files} {options : ConvertOptions} {room : Nat}
    {document : Value}
    (hmade : documentOfFile fs options.source options.canonical = .ok (some document))
    (hpasses : options.check = true → MetaSchema.check document = .ok []) :
    convert fs options room = deliver fs options document room := by
  rw [convert, withDocument, hmade]
  simp only [objections_eq_ok_nil_iff.mpr hpasses]

/-- An indentation whose length can be counted, and for which there is room, keeps no document
from being delivered. -/
theorem delivers_of_room {fs : Files} {options : ConvertOptions} {room : Nat} {document : Value}
    (hmade : documentOfFile fs options.source options.canonical = .ok (some document))
    (hpasses : options.check = true → MetaSchema.check document = .ok [])
    (hindent : options.indent < Json.lengthRange)
    (hroom : Json.widestIndent options.indent document ≤ room) :
    Delivers fs options room document := by
  have hdenoted := isDenoted_of_documentOfFile hmade
  have hlimit :
      Json.indentLimit? { indent := some (options.indent : Int), room } document = none :=
    Json.indentLimit?_eq_none_iff.mpr ⟨by omega, by omega, hroom⟩
  obtain ⟨json, hjson, -⟩ := Json.exists_text (Json.plainWithin_of_isDenoted hdenoted) hlimit
    (denoted_of_isDenoted hdenoted _)
  exact ⟨hmade, hpasses, json, hjson⟩

/-! ## All or nothing -/

/-- If no document can be delivered, no file is written, nothing is on the output stream and the
status tells of a failure. If one can, it is what all that is written or shown is read as: the
file alone, if one is wanted and can be made, or the output stream alone, on which surrogates
have no place. The status tells of a success then, unless the word on the file cannot be shown. A
document that is made and passes the check can be delivered under every indentation whose length
can be counted and for which there is room. -/
theorem convert_all_or_nothing (fs : Files) (options : ConvertOptions) (room : Nat) :
    ((∀ document, ¬ Delivers fs options room document) → (convert fs options room).IsFailure) ∧
    (∀ document, Delivers fs options room document →
      (∀ path, options.output = some path → IsWritable fs path →
        (convert fs options room).screen.output = "" ∧
        ((convert fs options room).status = 0 ↔
          ∃ screen, ({} : Screen).success (writtenTo path) = .ok screen) ∧
        ∃ text, (convert fs options room).written = some (path, text) ∧
          Json.read text = .ok document) ∧
      (options.output = none → (∀ s ∈ document.texts, s.isChars = true) →
        (convert fs options room).written = none ∧ (convert fs options room).status = 0 ∧
        Json.read (Text.ofString (convert fs options room).screen.output) = .ok document)) ∧
    ∀ document, documentOfFile fs options.source options.canonical = .ok (some document) →
      (options.check = true → MetaSchema.check document = .ok []) →
      options.indent < Json.lengthRange → Json.widestIndent options.indent document ≤ room →
      Delivers fs options room document := by
  refine ⟨isFailure_convert, fun document hdocument => ?_, fun _ => delivers_of_room⟩
  obtain ⟨json, hjson⟩ := hdocument.has_text
  have hdenoted := isDenoted_of_documentOfFile hdocument.made
  rw [convert_eq_deliver hdocument.made hdocument.passes]
  constructor
  · intro path houtput hpath
    exact deliver_to_file houtput hpath hdenoted hjson
  · intro houtput hchars
    obtain ⟨shown, hdeed, hread⟩ := deliver_to_screen houtput hdenoted hchars hjson
    rw [hdeed]
    exact ⟨rfl, rfl, hread⟩

/-! ### A file that holds one word -/

def integerFiles : Files := ⟨[(⟨false, ["a"]⟩, .file [105, 110, 116, 101, 103, 101, 114])]⟩

def integerDocument : Value := .map [(.text "type", .text "integer")]

theorem load_integerFiles : loadFile integerFiles ⟨"", ["a"]⟩ = .ok (.text "integer") := by
  have hread : integerFiles.read ⟨"", ["a"]⟩ = .ok [105, 110, 116, 101, 103, 101, 114] := by
    decide +kernel
  have hdecode : decodeText [105, 110, 116, 101, 103, 101, 114] =
      some (Text.ofString "integer") := by decide +kernel
  have hchars : (Text.ofString "integer").chars? = some "integer".toList := by decide +kernel
  have hallowed : ("integer".toList.all Yaml.isAllowed) = true := by decide +kernel
  have htokens : Yaml.Token.ofText "integer".toList = [.scalar "integer" true, .streamEnd] := by
    decide +kernel
  have hnode : Yaml.scalarNode none true "integer" = ⟨Yaml.strTag, .scalar "integer"⟩ := by
    rw [Yaml.scalarNode, if_pos rfl, show Yaml.resolve "integer" = Yaml.strTag by decide +kernel]
  have hnodes : Yaml.Nodes.ofTokens [.scalar "integer" true, .streamEnd] =
      .ok (#[⟨Yaml.strTag, .scalar "integer"⟩], some 0) := by
    rw [← hnode]
    rfl
  have hload : Yaml.load firstMark "integer" = .ok (.text "integer") := by
    rw [Yaml.load, hchars]
    simp only [hallowed, if_true, htokens, hnodes]
    rfl
  rw [loadFile, hread]
  simp only [loadOctets, hdecode, loadText, hload]

theorem documentOf_integerFiles (canonical : Bool) :
    documentOfFile integerFiles ⟨"", ["a"]⟩ canonical = .ok (some integerDocument) := by
  have hschema : schemaOf (.text "integer") = .ok (some { type := "integer" }) := rfl
  have hsorted : ({ type := "integer" } : Schema).sorted = { type := "integer" } := by
    simp [Schema.sorted, sortNames]
  have hplain : ({ type := "integer" } : Schema).plain = .ok integerDocument := rfl
  have hdocument : schemaDocument canonical (.text "integer") = .ok (some integerDocument) := by
    cases canonical <;>
      simp [schemaDocument, hschema, Schema.canonical, hsorted, hplain, bind, Except.bind,
        pure, Except.pure]
  rw [documentOfFile, load_integerFiles]
  exact congrArg (Except.mapError LoadError.failure) hdocument

/-- The word is written to one file as a schema, or shown, and nothing comes of a file that is
not there. A line of the schema starts with two blanks, and there is no room for more. -/
theorem convert_integerFiles :
    let written : ConvertOptions :=
      { source := ⟨"", ["a"]⟩, output := some ⟨"", ["b"]⟩, indent := 2, check := true }
    let shown : ConvertOptions := { written with output := none, canonical := true }
    let missing : ConvertOptions := { written with source := ⟨"", ["c"]⟩ }
    (∀ document, ¬ Delivers integerFiles missing 2 document) ∧
      (convert integerFiles missing 2).IsFailure ∧
      Delivers integerFiles written 2 integerDocument ∧ IsWritable integerFiles ⟨"", ["b"]⟩ ∧
      (convert integerFiles written 2).screen.output = "" ∧
      (convert integerFiles written 2).status = 0 ∧
      (∃ text, (convert integerFiles written 2).written = some (⟨"", ["b"]⟩, text) ∧
        Json.read text = .ok integerDocument) ∧
      Delivers integerFiles shown 2 integerDocument ∧
      (convert integerFiles shown 2).written = none ∧
      Json.read (Text.ofString (convert integerFiles shown 2).screen.output) =
        .ok integerDocument := by
  intro written shown missing
  have hcheck : MetaSchema.check integerDocument = .ok [] := by
    rw [← MetaSchema.isSchema_iff]
    decide +kernel
  have hroom : Json.widestIndent (2 : Nat) integerDocument ≤ 2 := by decide
  have hwritten : Delivers integerFiles written 2 integerDocument :=
    (convert_all_or_nothing integerFiles written 2).2.2 _ (documentOf_integerFiles false)
      (fun _ => hcheck) (by decide) hroom
  have hshown : Delivers integerFiles shown 2 integerDocument :=
    (convert_all_or_nothing integerFiles shown 2).2.2 _ (documentOf_integerFiles true)
      (fun _ => hcheck) (by decide) hroom
  have hmissing : ∀ document, ¬ Delivers integerFiles missing 2 document := by
    intro document h
    have hread : integerFiles.read missing.source = .error .missing := by decide +kernel
    have hmade := h.made
    rw [documentOfFile, loadFile, hread] at hmade
    cases hmade
  have hpath : IsWritable integerFiles ⟨"", ["b"]⟩ :=
    ⟨⟨false, []⟩, by decide +kernel, by decide +kernel⟩
  have hword : ∃ screen, ({} : Screen).success (writtenTo ⟨"", ["b"]⟩) = .ok screen :=
    isOk_iff.mp (by decide +kernel)
  obtain ⟨hscreen, hstatus, htext⟩ :=
    ((convert_all_or_nothing integerFiles written 2).2.1 _ hwritten).1 _ rfl hpath
  obtain ⟨hnone, -, hread⟩ := ((convert_all_or_nothing integerFiles shown 2).2.1 _ hshown).2 rfl
    (by decide +kernel)
  exact ⟨hmissing, (convert_all_or_nothing integerFiles missing 2).1 hmissing,
    hwritten, hpath, hscreen, hstatus.mpr hword, htext, hshown, hnone, hread⟩

end TerseSchema.Cli
