import Converge.Text.Basic

/-!
This module contains paths and the files that they lead to, as seen from a working directory. What is
not among the files does not exist.
-/

namespace Converge

def normalizePath (t : Text) : Text :=
  -- two slashes at the start are kept
  let root : Text :=
    if t.startsWith "//" && !t.startsWith "///" then "//"
    else if t.startsWith "/" then "/"
    else .empty
  let parts := (t.splitOn 47).filter fun (part : Text) => !part.isEmpty && part ≠ "."
  let path := root ++ Text.join "/" parts
  if path.isEmpty then "." else path

/--
What stands at a path. A pipe or a device is a stream: what is read of it is gone, and how much there
is to read is not known before.
-/
inductive Entry
  | file (octets : List UInt8)
  | stream (octets : List UInt8)
  | directory
deriving Inhabited

namespace Entry

def isFile : Entry → Bool
  | .file _ => true
  | _ => false

def size : Entry → Nat
  | .file octets => octets.length
  | _ => 0

def octets? : Entry → Option (List UInt8)
  | .file octets => some octets
  | .stream octets => some octets
  | .directory => none

end Entry

inductive Base
  | working
  | root
deriving DecidableEq, Inhabited, Repr

/--
The names that lead to an entry, the last name first.
-/
structure Location where
  base : Base
  names : List Text := []
deriving DecidableEq, Inhabited, Repr

def Location.step? (l : Location) (part : Text) : Option Location :=
  -- there is nothing above the root
  if part.isEmpty || part = "." then some l
  else if part = ".." then
    match l.base, l.names with
    | _, _ :: parents => some { l with names := parents }
    | .root, [] => some l
    | .working, [] => none
  else some { l with names := part :: l.names }

def startOf (path : Text) : Location :=
  { base := if path.startsWith "/" then .root else .working }

structure Files where
  entries : List (Location × Entry) := []
deriving Inhabited

namespace Files

def at? (files : Files) (l : Location) : Option Entry :=
  if l.names.isEmpty then some .directory else files.entries.lookup l

def walk? (files : Files) (l : Location) : List Text → Option Entry
  -- above the working directory nothing is known but that it is there
  | [] => files.at? l
  | part :: rest =>
    match files.at? l with
    | some .directory =>
      match l.step? part with
      | some l => walk? files l rest
      | none =>
        if rest.all fun (part : Text) => part.isEmpty || part = "." || part = ".." then
          some .directory
        else
          none
    | _ => none

def find? (files : Files) (path : Text) : Option Entry :=
  if path.isEmpty then none else files.walk? (startOf path) (path.splitOn 47)

def isFile (files : Files) (path : Text) : Bool :=
  (files.find? path).any Entry.isFile

def location? (path : Text) : Option Location :=
  (path.splitOn 47).foldlM Location.step? (startOf path)

def set (l : Location) (entry : Entry) (files : Files) : Files :=
  { entries := (l, entry) :: files.entries.filter fun (k, _) => k ≠ l }

def makeDirectories (files : Files) (base : Base) : List Text → Files
  | [] => files
  | name :: parents =>
    let files := makeDirectories files base parents
    let l : Location := { base, names := name :: parents }
    match files.at? l with
    | some _ => files
    | none => files.set l .directory

def makeDirectory (path : Text) (files : Files) : Files :=
  match location? path with
  | some l => files.makeDirectories l.base l.names
  | none => files

def place (path : Text) (entry : Entry) (files : Files) : Files :=
  match location? path with
  | some l => (files.makeDirectories l.base (l.names.drop 1)).set l entry
  | none => files

def write (path : Text) (octets : List UInt8) (files : Files) : Files :=
  files.place path (.file octets)

/--
The files after the one at a path has been read.
-/
def drained (path : Text) (files : Files) : Files :=
  match files.find? path, location? path with
  | some (.stream _), some l => files.set l (.stream [])
  | _, _ => files

theorem drained_of_isFile {files : Files} {path : Text} (h : files.isFile path = true) :
    files.drained path = files := by
  unfold drained
  split
  next hfind _ =>
    rw [isFile, hfind] at h
    cases h
  next => rfl

def remove (path : Text) (files : Files) : Files :=
  match location? path with
  | some l => { entries := files.entries.filter fun (k, _) => k ≠ l }
  | none => files

end Files

end Converge
