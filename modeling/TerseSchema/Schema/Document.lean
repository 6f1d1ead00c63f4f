import TerseSchema.Failure
/-!
# Schema documents

A schema as the map of its fields, and that map as JSON text. Fields that say nothing are left
out; an empty map of properties is kept.
-/

namespace TerseSchema

/-- The allowed values as a document holds them: a list of its own with the same items. -/
def enumDocument (v : Value) : Value :=
  match v.untied with
  | .tuple items => .list items
  | .list items => .list items
  | _ => v

def documentField (name : String) (v : Value) : Text × Value := (name, v)

mutual

/-- The document of a schema: its own fields in a fixed order, then the
extra fields in theirs. -/
def Schema.document : Schema → Value
  | ⟨type, description, enum, properties, items, required, additional, extras⟩ =>
    let own : Entries Value :=
      (if type.isEmpty then [] else [documentField "type" (.text type)]) ++
      (if description.isEmpty then [] else [documentField "description" (.text description)]) ++
      (match enum with
        | none => []
        | some v => [documentField "enum" (enumDocument v)]) ++
      (match properties with
        | none => []
        | some ps => [documentField "properties" (.ofEntries (propertyDocuments ps))]) ++
      (match items with
        | none => []
        | some s => [documentField "items" (s.document)]) ++
      (if required.isEmpty then []
        else [documentField "required" (.list (required.map .text))]) ++
      (match additional with
        | none => []
        | some a => [documentField "additionalProperties" (a.document)])
    .ofEntries (own.putAll (extraDocuments extras))
termination_by structural s => s

def Additional.document : Additional → Value
  | .forbidden => .bool false
  | .schema s => s.document
termination_by structural a => a

def propertyDocuments : List (Text × Schema) → List (Text × Value)
  | [] => []
  | (name, s) :: rest => (name, s.document) :: propertyDocuments rest
termination_by structural ps => ps

def extraDocuments : List (Text × Value) → List (Text × Value)
  | [] => []
  | (name, v) :: rest => (name, extraDocument v) :: extraDocuments rest
termination_by structural es => es

/-- An extra field: a schema, a list of schemas or a map of schemas as
documents, all else as it is. -/
def extraDocument : Value → Value
  | .schema s => s.document
  | .list items =>
    match itemDocuments? items with
    | some documents => .list documents
    | none => .list items
  | .map entries =>
    match entryDocuments? entries with
    | some documents => .map documents
    | none => .map entries
  | v => v
termination_by structural v => v

def itemDocuments? : List Value → Option (List Value)
  | [] => some []
  | .schema s :: rest => (itemDocuments? rest).map (s.document :: ·)
  | _ :: _ => none
termination_by structural vs => vs

def entryDocuments? : List (Value × Value) → Option (List (Value × Value))
  | [] => some []
  | (k, .schema s) :: rest => (entryDocuments? rest).map ((k, s.document) :: ·)
  | _ :: _ => none
termination_by structural es => es

end

/-- The failure of a document without JSON text. A limit of the indentation is
none of the document. -/
def Json.Fault.failure : Json.Fault → Failure
  | .limit .wideIndent => ⟨.limit .wideIndent, []⟩
  | .limit .memory => ⟨.limit .memory, []⟩
  | fault => ⟨.notEncodable fault, []⟩

def Schema.json (indent : Option Int) (s : Schema) (room : Nat := Json.usualRoom) :
    Except Failure Text :=
  (Json.text { indent, room } s.document).mapError Json.Fault.failure

end TerseSchema
