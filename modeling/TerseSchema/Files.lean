import TerseSchema.Text.Basic
import TerseSchema.Text.Split
/-!
# Files

Paths and the files of a directory. A path is shown in a short form, without empty and idle
steps; steps back stay, as they have no meaning without the directories there are. Whoever
follows a path comes through existing directories only.
-/

namespace TerseSchema

structure FilePath where
  /-- What stands before the first step: nothing, or one slash or two for a
  path from the root on. -/
  root : String
  steps : List String
deriving DecidableEq

namespace FilePath

def writtenSteps (s : String) : List String :=
  (Text.splitOn '/' s.toList).map String.ofList

/-- Two slashes at the start of a path are kept; more are one. -/
def rootOf (s : String) : String :=
  match s.toList.takeWhile (· = '/') with
  | [] => ""
  | ['/', '/'] => "//"
  | _ => "/"

def isIdle (step : String) : Bool := step = "" || step = "."

def ofText (s : String) : FilePath :=
  { root := rootOf s, steps := (writtenSteps s).filter (!isIdle ·) }

def text (p : FilePath) : String :=
  let path := p.root ++ "/".intercalate p.steps
  if path.isEmpty then "." else path

def parent (p : FilePath) : FilePath := { p with steps := p.steps.dropLast }

def isAbsolute (p : FilePath) : Bool := p.root ≠ ""

end FilePath

/-- A place among the files, by the steps that lead to it from the directory of the program or
from the root. Steps back stand at the start only, where they lead out of that directory. -/
structure FilePlace where
  isAbsolute : Bool
  steps : List String
deriving DecidableEq

namespace FilePlace

def start (isAbsolute : Bool) : FilePlace := ⟨isAbsolute, []⟩

/-- The place that a step leads to. The root has nothing above it. -/
def next (p : FilePlace) (step : String) : FilePlace :=
  if FilePath.isIdle step then p
  else if step ≠ ".." then { p with steps := p.steps ++ [step] }
  else
    match p.steps.getLast? with
    | none => if p.isAbsolute then p else { p with steps := [step] }
    | some last =>
      if last = ".." then { p with steps := p.steps ++ [step] }
      else { p with steps := p.steps.dropLast }

def ofPath (p : FilePath) : FilePlace := p.steps.foldl next (start p.isAbsolute)

def ancestors (p : FilePlace) : List FilePlace :=
  (List.range p.steps.length).map fun n => { p with steps := p.steps.take n }

/-- Whether a place is the directory of the program, or one that it lies in. -/
def isOuter (p : FilePlace) : Bool := p.steps.all (· = "..")

def isInner (p : FilePlace) : Bool := !p.isAbsolute && p.steps.head? ≠ some ".."

def path (p : FilePlace) :
    FilePath := { root := if p.isAbsolute then "/" else "", steps := p.steps }

end FilePlace

inductive FileNode where
  | file (octets : List UInt8)
  /-- A file that cannot be read: whether the program may read it, and the
  reason why it cannot. -/
  | unreadable (isPermitted : Bool) (reason : Text)
  | directory
deriving DecidableEq

inductive PathFault where
  /-- Something on the way is not there, or there is no file at its end. -/
  | missing
  /-- There is a file that cannot be read. -/
  | unreadable (isPermitted : Bool) (reason : Text)
  /-- The path, or a step of it, has more octets than can be followed. -/
  | tooLong
deriving DecidableEq

structure Files where
  nodes : List (FilePlace × FileNode) := []

namespace Files

/-- The files put under some paths, with all directories that the paths lead through. Of several
things put at one place the last one stays. -/
def ofList (files : List (FilePath × FileNode)) : Files :=
  let placed := files.reverse.map fun f => (FilePlace.ofPath f.1, f.2)
  let passed := files.flatMap fun f => (List.range f.1.steps.length).map fun n =>
    (FilePlace.ofPath { f.1 with steps := f.1.steps.take n }, .directory)
  ⟨placed ++ passed⟩

/-- What stands at a place. Directories around files need not be listed. -/
def lookup (fs : Files) (p : FilePlace) : Option FileNode :=
  match fs.nodes.find? (·.1 = p) with
  | some (_, node) => some node
  | none =>
    if p.isOuter || fs.nodes.any fun n => n.1.ancestors.contains p then some .directory else none

def isFileAt (fs : Files) (p : FilePlace) : Bool :=
  match fs.lookup p with
  | some (.file _) => true
  | some (.unreadable _ _) => true
  | _ => false

def mostStepOctets : Nat := 255

def mostPathOctets : Nat := 4095

/-- The place to which some steps lead from a place. Each step, also an idle one, is
taken from a directory. -/
def follow (fs : Files) (p : FilePlace) : List String → Except PathFault FilePlace
  | [] => .ok p
  | step :: rest =>
    if fs.lookup p ≠ some .directory then .error .missing
    else if mostStepOctets < step.utf8ByteSize then .error .tooLong
    else fs.follow (p.next step) rest

/-- The octets of the file to which steps lead that are written as `text`. -/
def readAlong (fs : Files) (isAbsolute : Bool) (text : String) (steps : List String) :
    Except PathFault (List UInt8) := do
  if mostPathOctets < text.utf8ByteSize then throw .tooLong
  match fs.lookup (← fs.follow (.start isAbsolute) steps) with
  | some (.file octets) => return octets
  | some (.unreadable isPermitted reason) => throw (.unreadable isPermitted reason)
  | _ => throw .missing

def read (fs : Files) (p : FilePath) : Except PathFault (List UInt8) :=
  if p.text.toList.contains '\x00' then .error .missing
  else fs.readAlong p.isAbsolute p.text p.steps

/-- Whether a path leads, as it is written, to a file that the program may read: what comes
before a slash must be a directory. -/
def isFile (fs : Files) (text : String) : Bool :=
  match fs.readAlong ((FilePath.ofText text).isAbsolute) text (FilePath.writtenSteps text) with
  | .ok _ => !text.isEmpty
  | .error (.unreadable isPermitted _) => isPermitted && !text.isEmpty
  | .error _ => false

end Files
end TerseSchema
