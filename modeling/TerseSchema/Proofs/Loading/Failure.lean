import TerseSchema.Cli.Commands
import TerseSchema.Proofs.Outcome
import TerseSchema.Proofs.Yaml.Endings
/-!
# Failing to load

A regular text is loaded or is malformed, and a file with such a text is loaded or is a failure
that tells the path, of which the commands make a message. Any other text has a scalar that
does not suit its tag or an escape beyond all characters, and any other file is not UTF-8 or
has a path that is too long.
-/

namespace TerseSchema

variable {text : Text}

theorem loadText_of_isRegular (h : Yaml.IsRegular text) (marks : Nat) :
    (∃ v, loadText text marks = .ok v) ∨
    loadText text marks = .error (.failure ⟨.malformedYaml, []⟩) := by
  rw [loadText]
  cases hload : Yaml.load marks text with
  | ok v => exact .inl ⟨v, rfl⟩
  | error fault =>
      obtain rfl := Yaml.isMalformed_of_load h marks hload
      exact .inr rfl

theorem loadOctets_of_isRegular {octets : List UInt8} (hdecode : decodeText octets = some text)
    (h : Yaml.IsRegular text) (path : FilePath) : (∃ v, loadOctets path octets = .ok v) ∨
      loadOctets path octets = .error (.failure ⟨.malformedYaml, [.key path.text]⟩) := by
  rw [loadOctets, hdecode]
  rcases loadText_of_isRegular h firstMark with ⟨v, hload⟩ | hload
  · exact .inl ⟨v, by simp only [hload]⟩
  · refine .inr ?_
    simp only [hload]
    rfl

section

variable {fs : Files} {path : FilePath} {f : Failure}

theorem loadText_ne_limit {marks : Nat} (h : loadText text marks = .error (.failure f))
    (l : Limit) : f.cause ≠ .limit l := by
  rw [loadText] at h
  split at h <;> cases h
  exact nofun

/-- No limit is in the way of a file that fails to load. -/
theorem loadFile_ne_limit (h : loadFile fs path = .error (.failure f)) (l : Limit) :
    f.cause ≠ .limit l := by
  rw [loadFile] at h
  split at h
  · next octets _ =>
      rw [loadOctets] at h
      split at h
      · cases h
      · split at h
        · next g htext =>
            cases h
            exact loadText_ne_limit htext l
        · exact loadText_ne_limit h l
  · cases h
    exact nofun
  · cases h
    exact nofun
  · cases h

/-- A command tells that a file has failed to load, and does nothing else. -/
theorem withDocument_of_failure {canonical : Bool} {next : Value → Cli.Deed}
    {screen : Cli.Screen} (hload : loadFile fs path = .error (.failure f))
    (hshown : ({} : Cli.Screen).failure (Cli.notConverted path f) = .ok screen) :
    Cli.withDocument fs path canonical next = { status := 1, screen } := by
  have hmade : Cli.documentOfFile fs path canonical = .error (.failure f) :=
    bind_eq_error_iff.mpr (.inl hload)
  rw [Cli.withDocument, hmade]
  split
  · next l _ heq =>
      cases heq
      exact absurd rfl (loadFile_ne_limit hload l)
  · next g _ heq =>
      cases heq
      rw [Cli.failed, hshown]
      rfl
  · next hother heq => exact absurd (Except.error.inj heq).symm (hother f)
  · next heq => cases heq
  · next heq => cases heq

end

/-- Texts and files are loaded, or fail with one of the failures of loading, where they are
regular. On such a failure of a file both commands end with the message of it, if the
message can be shown. -/
theorem loads_or_fails (text : Text) (marks : Nat) (fs : Files) (path : FilePath) :
    (Yaml.IsRegular text → (∃ v, loadText text marks = .ok v) ∨
      loadText text marks = .error (.failure ⟨.malformedYaml, []⟩)) ∧
    (fs.read path ≠ .error .tooLong →
      (∀ octets, fs.read path = .ok octets → ∃ text, decodeText octets = some text ∧
        Yaml.IsRegular text) →
      (∃ v, loadFile fs path = .ok v) ∨
        loadFile fs path = .error (.failure ⟨.missingDocument path.text, []⟩) ∨
        loadFile fs path = .error (.failure ⟨.malformedYaml, [.key path.text]⟩) ∨
        ∃ isPermitted reason, fs.read path = .error (.unreadable isPermitted reason) ∧
          loadFile fs path = .error (.failure (unreadableDocument path reason))) ∧
    ∀ f screen, loadFile fs path = .error (.failure f) →
      ({} : Cli.Screen).failure (Cli.notConverted path f) = .ok screen →
      (∀ (options : Cli.ConvertOptions) (room : Nat), options.source = path →
        Cli.convert fs options room = { status := 1, screen }) ∧
      ∀ showSchema room, Cli.check fs path showSchema room = { status := 1, screen } := by
  refine ⟨fun h => loadText_of_isRegular h marks, fun hshort hregular => ?_,
    fun f screen hload hshown => ?_⟩
  · cases hread : fs.read path with
    | ok octets =>
        obtain ⟨text, hdecode, h⟩ := hregular octets hread
        rw [loadFile, hread]
        exact (loadOctets_of_isRegular hdecode h path).imp_right fun hfails => .inr (.inl hfails)
    | error fault =>
        rw [loadFile, hread]
        cases fault with
        | missing => exact .inr (.inl rfl)
        | unreadable isPermitted reason =>
          exact .inr (.inr (.inr ⟨isPermitted, reason, rfl, rfl⟩))
        | tooLong => exact absurd hread hshort
  · constructor
    · rintro options room rfl
      exact withDocument_of_failure hload hshown
    · exact fun showSchema room => withDocument_of_failure hload hshown

def pairNodes : Yaml.Nodes :=
  #[⟨Yaml.mapTag, .mapping [(1, 2)]⟩, ⟨Yaml.strTag, .scalar "a"⟩, ⟨Yaml.intTag, .scalar "1"⟩]

theorem isRegular_pair : Yaml.IsRegular "a: 1" := by
  have htokens : Yaml.Token.ofText "a: 1".toList =
      [.blockMappingStart, .key, .scalar "a" true, .value, .scalar "1" true, .blockEnd,
        .streamEnd] := by
    decide +kernel
  have hnodes :
      Yaml.Nodes.ofTokens (Yaml.Token.ofText "a: 1".toList) = .ok (pairNodes, some 0) := by
    rw [htokens]
    rfl
  have hchars : ∀ cs, Text.chars? "a: 1" = some cs → cs = "a: 1".toList := by
    rintro _ ⟨⟩
    rfl
  refine ⟨fun cs hcs fault hfault => ?_, fun cs hcs nodes root hread node hnode => ?_⟩
  · rw [hchars cs hcs, htokens] at hfault
    simp at hfault
  · rw [hchars cs hcs, hnodes] at hread
    cases hread
    simp only [pairNodes, List.mem_toArray, List.mem_cons, List.not_mem_nil, or_false] at hnode
    rcases hnode with rfl | rfl | rfl
    · exact (by decide : Yaml.mapTag ∉ Yaml.valueTag :: Yaml.scalarTags)
    · exact fun mark fault hfault => nomatch hfault
    · exact fun mark fault hfault => nomatch hfault

def pairFiles : Files := .ofList [(.ofText "a.yaml", .file [0x61, 0x3a, 0x20, 0x31])]

/-- The map is loaded, and commands on a file that is not there end with a message. -/
theorem loads_or_fails_pair :
    ((∃ v, loadText "a: 1" firstMark = .ok v) ∨
      loadText "a: 1" firstMark = .error (.failure ⟨.malformedYaml, []⟩)) ∧
    ((∃ v, loadFile pairFiles (.ofText "a.yaml") = .ok v) ∨
      loadFile pairFiles (.ofText "a.yaml") = .error (.failure ⟨.missingDocument "a.yaml", []⟩) ∨
      loadFile pairFiles (.ofText "a.yaml") =
        .error (.failure ⟨.malformedYaml, [.key "a.yaml"]⟩)) ∧
    ∃ screen, ({} : Cli.Screen).failure
        (Cli.notConverted (.ofText "b.yaml") ⟨.missingDocument "b.yaml", []⟩) = .ok screen ∧
      Cli.convert pairFiles { source := .ofText "b.yaml", indent := 2 } =
        { status := 1, screen } ∧
      Cli.check pairFiles (.ofText "b.yaml") false = { status := 1, screen } := by
  have hread : pairFiles.read (.ofText "a.yaml") = .ok [0x61, 0x3a, 0x20, 0x31] := by rfl
  have hdecode : decodeText [0x61, 0x3a, 0x20, 0x31] = some "a: 1" := by decide +kernel
  have hpath : (FilePath.ofText "a.yaml").text = "a.yaml" := by decide +kernel
  have hother : (FilePath.ofText "b.yaml").text = "b.yaml" := by decide +kernel
  have hmissing : loadFile pairFiles (.ofText "b.yaml") =
      .error (.failure ⟨.missingDocument "b.yaml", []⟩) := by
    have hread : pairFiles.read (.ofText "b.yaml") = .error .missing := by rfl
    rw [loadFile, hread, hother]
  obtain ⟨screen, hshown⟩ : ∃ screen, ({} : Cli.Screen).failure
      (Cli.notConverted (.ofText "b.yaml") ⟨.missingDocument "b.yaml", []⟩) = .ok screen :=
    isOk_iff.mp (by decide +kernel)
  obtain ⟨htext, hloads, -⟩ := loads_or_fails "a: 1" firstMark pairFiles (.ofText "a.yaml")
  obtain ⟨-, -, hcommands⟩ := loads_or_fails "a: 1" firstMark pairFiles (.ofText "b.yaml")
  obtain ⟨hconvert, hcheck⟩ := hcommands _ screen hmissing hshown
  refine ⟨htext isRegular_pair, ?_, screen, hshown, hconvert _ _ rfl, hcheck _ _⟩
  have hfile := hloads (by rw [hread]; nofun) fun octets hoctets => by
    obtain rfl := Except.ok.inj (hread.symm.trans hoctets)
    exact ⟨"a: 1", hdecode, isRegular_pair⟩
  rw [hread, hpath] at hfile
  rcases hfile with hloaded | hmissing | hmalformed | ⟨_, _, hunreadable, -⟩
  · exact .inl hloaded
  · exact .inr (.inl hmissing)
  · exact .inr (.inr hmalformed)
  · cases hunreadable

/-- Not every text and every file is loaded or fails in that way: a word may be tagged as a
number, and an octet may be no UTF-8. -/
theorem not_loads_or_fails_taggedWord : loadText "!!int x" = .error (.scalar .numeral) ∧
    loadOctets (.ofText "a.yaml") [0xff] = .error .encoding := by
  have htokens : Yaml.Token.ofText "!!int x".toList =
      [.tag (some "!!") "int", .scalar "x" true, .streamEnd] := by
    decide +kernel
  have hnodes : Yaml.Nodes.ofTokens (Yaml.Token.ofText "!!int x".toList) =
      .ok (#[⟨Yaml.intTag, .scalar "x"⟩], some 0) := by
    rw [htokens]
    rfl
  have hvalue : Yaml.Nodes.value #[⟨Yaml.intTag, .scalar "x"⟩] firstMark 0 = .error .numeral :=
    rfl
  have hload : Yaml.load firstMark "!!int x" = .error .numeral := by
    have hchars : Text.chars? "!!int x" = some "!!int x".toList := by decide +kernel
    have hallowed : "!!int x".toList.all Yaml.isAllowed = true := by decide +kernel
    rw [Yaml.load, hchars]
    simp only [hallowed, if_true, hnodes, bind, Except.bind, hvalue]
  have hdecode : decodeText [0xff] = none := by decide +kernel
  refine ⟨?_, ?_⟩
  · rw [loadText, hload]
  · rw [loadOctets, hdecode]

end TerseSchema
