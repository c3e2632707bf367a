import Converge.Document.Record
import Converge.Files
import Converge.Yaml.Content

/-!
This module contains the loading of specs and snapshots from files. A file is YAML, of which JSON is
a part, and holds a mapping or one in a wrapper.
-/

namespace Converge.Document

def maxFileSize : Nat := 1048576

def normalizeBreaks (t : Text) : Text :=
  -- every line ends with a line feed, whatever ends it in the file
  ⟨go [] t.points⟩
where
  go (points : List Nat) : List Nat → List Nat
    | [] => points.reverse
    | 13 :: 10 :: rest => go (10 :: points) rest
    | 13 :: rest => go (10 :: points) rest
    | c :: rest => go (c :: points) rest

def readFile (kind : DocumentKind) (files : Files) (path : Text) : Except Fault Text :=
  match files.find? path with
  | none => .error (.load (.notFound kind path))
  | some entry =>
    if maxFileSize < entry.size then .error (.load (.tooLarge kind path maxFileSize))
    else
      match entry.octets? with
      | none => .error (.load (.directory kind path))
      | some octets =>
        match Utf8.decode? octets with
        | some t => .ok (normalizeBreaks t)
        | none => .error (.foreign .undecodable)

def mapping (kind : DocumentKind) (path : Text) : Value → Except Fault Entries
  | .map entries =>
    match Value.find? "apiVersion" entries, Value.find? "spec" entries with
    -- a wrapper with a version of its own has it in a section
    | some _, some (.map section_) => .ok section_
    | some _, some _ => .error (.load (.sectionNotMapping path))
    | _, _ => .ok entries
  | _ => .error (.load (.notMapping kind path))

def readMapping (kind : DocumentKind) (files : Files) (path : Text) : Except Fault Entries :=
  match readFile kind files path with
  | .error e => .error e
  | .ok t =>
    match Yaml.read t with
    | .error (.malformed reason) => .error (.load (.notYaml path reason))
    | .error (.foreign f) => .error (.foreign f)
    | .ok v => mapping kind path v

def accept {α : Type} (path : Text) : Checked α → Except Fault α
  | .valid a => .ok a
  | .invalid issues => .error (.load (.invalid path issues))

def loadSpec (files : Files) (path : Text) : Except Fault Spec :=
  match readMapping .spec files path with
  | .error e => .error e
  | .ok entries => accept path (spec (.map entries))

def inherit (entries : Entries) : Entries :=
  -- an endpoint may carry a service and a version of its own
  let inherited (key : Text) : Text × Value := (key, (Value.find? key entries).getD .null)
  let scope := [inherited "serviceId", inherited "version"]
  match Value.find? "endpoints" entries with
  | some (.list items) =>
    Value.put "endpoints" (.list (items.map fun
      | .map entry => .map (Value.putAll scope entry)
      | v => v)) entries
  | _ => entries

def loadSnapshot (files : Files) (path : Text) : Except Fault Snapshot :=
  match readMapping .snapshot files path with
  | .error e => .error e
  | .ok entries => accept path (snapshot (.map (inherit entries)))

end Converge.Document
