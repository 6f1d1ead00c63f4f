import TerseSchema.Json.Plain
import TerseSchema.Json.Reader
import TerseSchema.MetaSchema.Check
import TerseSchema.Terminal.Panel
/-!
# Display

What the program shows. Diagnostics are marked-up lines on the error stream, so that the output
stream holds nothing but JSON.
-/

namespace TerseSchema.Cli

open TerseSchema

structure Screen where
  output : String := ""
  errors : String := ""

inductive DisplayError where
  | markup (e : Terminal.MarkupError)
  | json (fault : Json.Fault)
  /-- A text that is to be JSON cannot be read. -/
  | reading (fault : Json.ReadFault)
  /-- A surrogate on the output stream. -/
  | surrogate

namespace Screen

/-- Writes to the output stream, which takes characters only. -/
def writeOutput (s : Screen) (text : Text) : Except DisplayError Screen :=
  match text.chars? with
  | some cs => .ok { s with output := s.output ++ String.ofList cs }
  | none => .error .surrogate

/-- Writes to the error stream, which shows surrogates as escapes. -/
def writeErrors (s : Screen) (text : Text) :
    Screen := { s with errors := s.errors ++ text.printed }

def diagnostic (s : Screen) (markup : Text) : Except DisplayError Screen := do
  let text ← (Terminal.render markup).mapError .markup
  return s.writeErrors (text ++ "\n")

def success (s : Screen) (message : Text) : Except DisplayError Screen :=
  s.diagnostic ("[green]✓[/green] " ++ message)

def failure (s : Screen) (message : Text) : Except DisplayError Screen :=
  s.diagnostic ("[red]✗[/red] " ++ message)

def problems (s : Screen) (found : List (Text × Text)) : Except DisplayError Screen := do
  if found.isEmpty then return s
  let s ← (s.writeErrors "\n").diagnostic "[bold red]Schema Errors:[/bold red]"
  let s ← found.foldlM (fun s (place, message) =>
    s.diagnostic
      ("  [red]•[/red] " ++ Terminal.escape place ++ ": " ++ Terminal.escape message)) s
  return s.writeErrors "\n"

def violations (s : Screen) (found : List MetaSchema.Violation) : Except DisplayError Screen :=
  s.problems (found.map fun v => (v.place, v.message))

def value (s : Screen) (indent : Option Int) (v : Value) (room : Nat := Json.usualRoom) :
    Except DisplayError Screen :=
  match Json.text { indent, ascii := false, room } v with
  | .ok text => s.writeOutput (text ++ "\n")
  | .error fault => .error (.json fault)

def panel (s : Screen) (title body : Text) : Except DisplayError Screen := do
  let text ← (Terminal.panel ("[bold]" ++ title ++ "[/bold]") body).mapError .markup
  s.writeOutput text

/-- What can be shown as JSON: a value, or text that is JSON already. -/
inductive Data where
  | value (v : Value)
  | text (json : Text)

/-- Shows data: in a panel if there is a title, and as JSON that other programs can read if not.
The latter is written anew from what the text is read as. -/
def data (s : Screen) (d : Data) (title : Text) (indent : Option Int)
    (room : Nat := Json.usualRoom) : Except DisplayError Screen := do
  let text ← match d with
    | .text json => pure json
    | .value v => (Json.text { indent, room } v).mapError .json
  if !title.isEmpty then s.panel title text
  else
    let v ← (Json.read text).mapError .reading
    s.value indent v room

end Screen
end TerseSchema.Cli
