import TerseSchema.Limit
import TerseSchema.MetaSchema.Uniqueness
import TerseSchema.MetaSchema.Vocabulary
import TerseSchema.Value.Literal
/-!
# Check against the meta-schema

All violations of the meta-schema in a document, each with its place, the keyword violated
and a message. What is demanded of the parts of a value is asked of the parts themselves,
so the check follows the document. It fails where a message cannot be written, and where
the document has no end.
-/

namespace TerseSchema.MetaSchema

open TerseSchema

/-- One violation. Its place is given by the keys and positions that lead to it. -/
structure Violation where
  path : List Value := []
  message : Text
  keyword : String

def Violation.under (step : Value) (v : Violation) :
    Violation := { v with path := step :: v.path }

abbrev Findings := Except Limit (List Violation)

abbrev Verdict := Demand → Findings

structure JudgedEntry where
  key : Value
  keyVerdict : Verdict
  valueVerdict : Verdict

structure JudgedParts where
  items : List Verdict := []
  entries : List JudgedEntry := []

/-! ## Single rules -/

def isInteger : Value → Bool
  | .int _ => true
  | .float x => x.toInt?.isSome
  | _ => false

def isNumber : Value → Bool
  | .int _ => true
  | .float _ => true
  | _ => false

def isList (v : Value) : Bool :=
  match v.untied with
  | .list _ => true
  | .cut _ container => container = .list
  | _ => false

def hasType (v : Value) : TypeName → Bool
  | .array => isList v
  | .boolean => match v with
    | .bool _ => true
    | _ => false
  | .integer => isInteger v
  | .number => isNumber v
  | .object => v.isMap
  | .string => match v with
    | .text _ => true
    | _ => false

def isBelowZero (v : Value) : Bool :=
  isNumber v && (v.magnitude?.any fun m => m.less (.ratio 0 1))

def isAtMostZero (v : Value) : Bool :=
  isNumber v && (v.magnitude?.any fun m => !(Magnitude.ratio 0 1).less m)

def violation (keyword : String) (v : Value) (words : Text) : Findings :=
  if v.isWritable then .ok [{ message := v.literal ++ words, keyword }] else .error .longNumeral

def typeWords (names : List TypeName) : Text :=
  " is not of type " ++ commaSeparated (names.map fun n => Text.quoted n.name)

def together (findings : List Findings) : Findings := do
  return (← findings.mapM id).flatten

def Findings.under (step : Value) (findings : Findings) : Findings :=
  findings.map fun found => found.map (.under step)

def ruleFindings (v : Value) (parts : JudgedParts) : Rule → Findings
  | .type names => if names.any (hasType v) then .ok [] else violation "type" v (typeWords names)
  | .properties named =>
    together (named.map fun (name, demand) =>
      match parts.entries.find? fun e => e.key.same (.text name) with
      | some e => Findings.under (.text name) (e.valueVerdict demand)
      | none => .ok [])
  | .values demand =>
    together (parts.entries.map fun e => Findings.under e.key (e.valueVerdict demand))
  | .names demand => together (parts.entries.map fun e => e.keyVerdict demand)
  | .items demand =>
    together (parts.items.zipIdx.map fun (verdict, position) =>
      Findings.under (.int position) (verdict demand))
  | .nonEmpty =>
    match v.untied with
    | .list [] => violation "minItems" v " should be non-empty"
    | _ => .ok []
  | .unique =>
    match v.untied with
    | .list items =>
      if allDifferent items then .ok []
      else violation "uniqueItems" v " has non-unique elements"
    | _ => .ok []
  | .oneOf texts =>
    if texts.any fun t => jsonEqual (.text t) v then .ok []
    else violation "enum" v (" is not one of " ++ (Value.list (texts.map .text)).literal)
  | .pattern source pattern =>
    match v with
    | .text t =>
      if pattern.matchesAll t then .ok []
      else violation "pattern" v (" does not match " ++ Text.quoted source)
    | _ => .ok []
  | .notNegative =>
    if isBelowZero v then violation "minimum" v " is less than the minimum of 0" else .ok []
  | .positive =>
    if isAtMostZero v then
      violation "exclusiveMinimum" v " is less than or equal to the minimum of 0"
    else .ok []

def rulesFindings (v : Value) (parts : JudgedParts) (rules : List Rule) : Findings :=
  together (rules.map (ruleFindings v parts))

mutual

def demandFindings (v : Value) (parts : JudgedParts) : Demand → Findings
  | .schema => rulesFindings v parts schemaRules
  | .rules rules => rulesFindings v parts rules
  | .anyOf demands => do
    if ← anyMet v parts demands then return []
    else violation "anyOf" v " is not valid under any of the given schemas"
  | .anything => .ok []
termination_by structural d => d

def anyMet (v : Value) (parts : JudgedParts) : List Demand → Except Limit Bool
  | [] => .ok false
  | d :: rest => do
    if (← demandFindings v parts d).isEmpty then return true
    else anyMet v parts rest
termination_by structural ds => ds

end

/-! ## Documents -/

/-- Whether a container meets a rule whatever it holds. -/
def ruleMetUnseen (v : Value) : Rule → Bool
  | .type names => names.any (hasType v)
  | .items .anything => true
  | _ => false

def metUnseen (v : Value) : Demand → Bool
  | .anything => true
  | .rules rules => rules.all (ruleMetUnseen v)
  | _ => false

/-- The verdict on a value with judged parts. Where a container inside of itself is cut off,
there is no end to a demand on what it holds. -/
def verdictOn (v : Value) (parts : JudgedParts) : Verdict :=
  match v with
  | .cut _ _ => fun demand => if metUnseen v demand then .ok [] else .error .endless
  | v => demandFindings v parts

mutual

def judgeParts : Value → JudgedParts
  | .list items => { items := judgeItems items }
  | .map entries => { entries := judgeEntries entries }
  | .knot _ container => judgeParts container
  | _ => {}
termination_by structural v => v

def judgeItems : List Value → List Verdict
  | [] => []
  | v :: rest => verdictOn v (judgeParts v) :: judgeItems rest
termination_by structural vs => vs

def judgeEntries : List (Value × Value) → List JudgedEntry
  | [] => []
  | (k, v) :: rest =>
    ⟨k, verdictOn k (judgeParts k), verdictOn v (judgeParts v)⟩ :: judgeEntries rest
termination_by structural es => es

end

def judge (v : Value) : Verdict := verdictOn v (judgeParts v)

/-- Whether one path comes before another, or is the same: their first different steps are
compared as texts, and a path comes before those that continue it. -/
def pathBefore : List Text → List Text → Bool
  | [], _ => true
  | _ :: _, [] => false
  | a :: p, b :: q => if a = b then pathBefore p q else Text.isUpTo a b

def Violation.steps (v : Violation) : List Text := v.path.map Value.keyText

/-- All violations in a document, in the order of their places. -/
def check (document : Value) : Findings := do
  let found ← judge document .schema
  if found.all fun v => v.path.all Value.isWritable then
    return found.mergeSort fun a b => pathBefore a.steps b.steps
  else throw .longNumeral

def isSchema (document : Value) : Bool :=
  match check document with
  | .ok found => found.isEmpty
  | .error _ => false

/-! ## Reports -/

def Violation.place (v : Violation) : Text :=
  if v.path.isEmpty then "root" else "." ++ Text.join "." v.steps

def report (violations : List Violation) : Text :=
  if violations.isEmpty then "No validation errors"
  else
    let title : Text := "Schema check failed with " ++ toString violations.length ++ " error(s):"
    let lines := violations.zipIdx.map fun (v, i) =>
      ("\n  " ++ toString (i + 1) ++ ". At " : Text) ++ v.place ++ ": " ++ v.message
    Text.join "\n" (title :: lines)

end TerseSchema.MetaSchema
