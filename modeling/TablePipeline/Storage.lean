import TablePipeline.Fault.Basic
import TablePipeline.Path
import TablePipeline.Text.Encoding.Encode

/-!
Storage: folders and files with their bytes, and paths to them. A path is walked one part at a time,
from the working folder or, if it starts with a slash, from the top. It leads to a folder, to a
file, to a free place in a folder, or nowhere. Of what lies outside the working folder only the
folders above it and the top are known.
-/
namespace TablePipeline

abbrev Bytes := List UInt8

/-- The parts of the way from the working folder. A way out of it starts with parts that go up, and
the way from the top starts with a slash. -/
abbrev Location := List String

/-- Folders and files. The working folder is always there. -/
structure Store where
  folders : List Location := []
  files : List (Location × Bytes) := []

/-- Where a path leads. -/
inductive Spot where
  | folder (at_ : Location)
  | file (at_ : Location)
  | free (at_ : Location)
  | nowhere (fault : String → FileFault)

/-- Why no file can have a path like this. Lone surrogates stand for bytes, if any do. -/
def Path.unwritable? (path : String) : Option FileFault :=
  match Text.Coding.utf8.encode .surrogateEscape path.toList with
  | .error fault => some (.unwritablePath fault)
  | .ok _ => if path.toList.contains '\x00' then some .nullInPath else none

namespace Store

def content? (store : Store) (at_ : Location) : Option Bytes := store.files.lookup at_

/-- One part up. There is nothing above the top. -/
def above (here : Location) : Location :=
  if here == ["/"] then here
  else if here.all (· == "..") then here ++ [".."]
  else here.dropLast

/-- The most bytes that the name of a file may have. -/
def nameLimit : Nat := 255

/-- The most bytes that a path may have. -/
def pathLimit : Nat := 4095

/-- One part further. -/
def step (store : Store) (spot : Spot) (part : String) : Spot :=
  match spot with
  | .folder here =>
    if part == "" || part == "." then spot
    else if part == ".." then .folder (above here)
    else if nameLimit < part.utf8ByteSize then .nowhere .nameTooLong
    else
      let there := here ++ [part]
      if store.folders.contains there then .folder there
      else if (store.content? there).isSome then .file there
      else .free there
  | .file _ => .nowhere .notDirectory
  | .free _ => .nowhere .missing
  | .nowhere fault => .nowhere fault

def walk (store : Store) (path : String) : Spot :=
  match Path.unwritable? path with
  | some fault => .nowhere fun _ => fault
  | none =>
    if path == "" then .nowhere .missing
    else if pathLimit < path.utf8ByteSize then .nowhere .nameTooLong
    else (Path.parts path).foldl store.step (.folder (if Path.root path == "" then [] else ["/"]))

def isFile (store : Store) (path : String) : Bool :=
  match store.walk path with
  | .file _ => true
  | _ => false

def isFolder (store : Store) (path : String) : Bool :=
  match store.walk path with
  | .folder _ => true
  | _ => false

/-- The bytes of the file at a path. -/
def read (store : Store) (path : String) : Except FileFault Bytes :=
  match store.walk path with
  | .file at_ => .ok ((store.content? at_).getD [])
  | .folder _ => .error (.isDirectory path)
  | .free _ => .error (.missing path)
  | .nowhere fault => .error (fault path)

/-- Put a file in place of the one that is there, or after all others. -/
def put (store : Store) (at_ : Location) (bytes : Bytes) : Store :=
  if (store.content? at_).isSome then
    { store with
      files := store.files.map fun (there, old) => (there, if there == at_ then bytes else old) }
  else { store with files := store.files ++ [(at_, bytes)] }

/-- Write a file at a path that leads to a file or a free place. -/
def write (store : Store) (path : String) (bytes : Bytes) : Except FileFault Store :=
  match store.walk path with
  | .file at_ | .free at_ => .ok (store.put at_ bytes)
  | .folder _ => .error (.isDirectory path)
  | .nowhere fault => .error (fault path)

def delete (store : Store) (path : String) : Except FileFault Store :=
  match store.walk path with
  | .file at_ => .ok { store with files := store.files.filter fun (there, _) => there != at_ }
  | .folder _ => .error (.isDirectory path)
  | .free _ => .error (.missing path)
  | .nowhere fault => .error (fault path)

/-- Make a folder and the folders on the way to it. -/
def makeFolder (store : Store) (path : String) : Store :=
  let names := Path.names path
  let ways := (List.range names.length).map fun n => names.take (n + 1)
  { store with folders := store.folders ++ ways.filter fun way => !store.folders.contains way }

/-- The names in a folder, sorted. -/
def list (store : Store) (path : String) : Except FileFault (List String) :=
  match store.walk path with
  | .folder at_ =>
    let all := store.folders ++ store.files.map (·.1)
    let inside := all.filter fun there => there.dropLast == at_ && there != at_
    .ok ((inside.filterMap List.getLast?).mergeSort fun a b => a ≤ b)
  | .file _ => .error (.notDirectory path)
  | .free _ => .error (.missing path)
  | .nowhere fault => .error (fault path)

end Store

end TablePipeline
