import LintBridge.Fault
import LintBridge.Path
import LintBridge.Environment
import LintBridge.Text.Utf8

/-!
# Disks

Directories, files and programs by their place. A place is the list of names on the
way from the top; links do not exist.
-/

namespace LintBridge

/-- How a program is called. The name is the one that the program is called by. -/
structure Call where
  name : String
  arguments : List String
  environment : Environment
  directory : String
  /-- The bytes of the file at a path, as the program sees it. -/
  read : String → Except PathFault (List UInt8)

/-- What a program leaves when it ends, and how many microseconds it takes. A
negative code is the number of a signal that ended it. -/
structure Outcome where
  code : Int
  output : List UInt8
  errors : List UInt8
  duration : Nat
  deriving DecidableEq, Repr

/-- A program is whatever it does. -/
abbrev Program := Call → Outcome

/-- A place on a disk. -/
abbrev Place := List (List Char)

/-- What is at a place. -/
inductive Node where
  | directory
  | file (bytes : List UInt8) (executable : Bool)
  | program (run : Program)

/-- A disk. The entry that was made last counts. -/
structure Disk where
  entries : List (Place × Node)

namespace Disk

/-- What is at a place; the top is always a directory. -/
def node? (disk : Disk) (place : Place) : Option Node :=
  if place = [] then some .directory else disk.entries.lookup place

/-- Whether there is a directory at a place. -/
def isDirectory (disk : Disk) (place : Place) : Bool :=
  match disk.node? place with
  | some .directory => true
  | _ => false

/-- The most bytes that a name may have. -/
def maxNameBytes : Nat := 255

/-- The most bytes that a path may have. -/
def maxPathBytes : Nat := 4095

/-- Follow names from a place on. Every name but the last has to lead to a directory. -/
def walk (disk : Disk) : Place → List (List Char) → Except PathFault Place
  | place, [] => .ok place
  | place, name :: names =>
      match disk.node? place with
      | none => .error .missing
      | some .directory =>
          if name = [] ∨ name = Path.here then walk disk place names
          else if name = Path.above then walk disk place.dropLast names
          else if maxNameBytes < (Text.encode name).length then .error .nameTooLong
          else walk disk (place ++ [name]) names
      | some _ => .error .notDirectory

/-- The place that a path leads to, seen from a directory. There need not be
anything there yet. -/
def locate (disk : Disk) (directory path : String) : Except PathFault Place :=
  if path.isEmpty then .error .missing
  else if maxPathBytes < path.utf8ByteSize then .error .nameTooLong
  else disk.walk [] (Text.splitAtChar '/' (Path.join directory path).toList)

/-- What a path leads to, seen from a directory. -/
def find (disk : Disk) (directory path : String) : Except PathFault Node :=
  match disk.locate directory path with
  | .error fault => .error fault
  | .ok place =>
      match disk.node? place with
      | none => .error .missing
      | some node => .ok node

/-- Whether a path leads to anything. -/
def contains (disk : Disk) (directory path : String) : Bool :=
  match disk.find directory path with
  | .ok _ => true
  | .error _ => false

/-- Put something at a place. -/
def put (disk : Disk) (place : Place) (node : Node) : Disk :=
  ⟨(place, node) :: disk.entries.filter (·.1 ≠ place)⟩

/-- Remove what is at a place and below it. -/
def removeTree (disk : Disk) (place : Place) : Disk :=
  ⟨disk.entries.filter fun entry => !place.isPrefixOf entry.1⟩

/-- The number of entries of a directory. -/
def entryCount (disk : Disk) (place : Place) : Nat :=
  (disk.entries.filter fun entry => entry.1.dropLast = place ∧ entry.1 ≠ []).length

/-- Make the directories on the way from one place along some names. -/
def makeDirectories (disk : Disk) : Place → List (List Char) → Except PathFault Disk
  | place, [] => if disk.isDirectory place then .ok disk else .error .taken
  | place, name :: names =>
      if !disk.isDirectory place then .error .notDirectory
      else if name = [] ∨ name = Path.here then makeDirectories disk place names
      else if name = Path.above then makeDirectories disk place.dropLast names
      else if maxNameBytes < (Text.encode name).length then .error .nameTooLong
      else
        let next := place ++ [name]
        match disk.node? next with
        | none => makeDirectories (disk.put next .directory) next names
        | some _ => makeDirectories disk next names

/-- Make a directory with all directories on the way to it. -/
def makeDirectory (disk : Disk) (directory path : String) : Except PathFault Disk :=
  disk.makeDirectories [] (Text.splitAtChar '/' (Path.join directory path).toList)

/-- Make one directory where nothing is yet, in a directory that is there. -/
def addDirectory (disk : Disk) (directory path : String) : Except PathFault Disk :=
  match disk.locate directory path with
  | .error fault => .error fault
  | .ok place =>
      if (disk.node? place).isSome then .error .taken
      else if !disk.isDirectory place.dropLast then .error .missing
      else .ok (disk.put place .directory)

/-- The bytes of the file at a path. -/
def read (disk : Disk) (directory path : String) : Except PathFault (List UInt8) :=
  match disk.find directory path with
  | .error fault => .error fault
  | .ok .directory => .error .isDirectory
  | .ok (.file bytes _) => .ok bytes
  | .ok (.program _) => .ok []

/-- Write a file into a directory that is there. -/
def write (disk : Disk) (directory path : String) (bytes : List UInt8) (executable : Bool) :
    Except PathFault Disk :=
  match disk.locate directory path with
  | .error fault => .error fault
  | .ok place =>
      if disk.isDirectory place then .error .isDirectory
      else if path.toList.getLast? = some '/' then .error .isDirectory
      else if !disk.isDirectory place.dropLast then .error .missing
      else .ok (disk.put place (.file bytes executable))

end Disk

end LintBridge
