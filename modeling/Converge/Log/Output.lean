import Converge.Log.Line

/-!
This module contains the setting of where log records go: as JSON to the standard output or as text to
the standard error, from a level on.
-/

namespace Converge.Log

structure Console where
  output : Text := .empty
  errors : Text := .empty
deriving DecidableEq, Inhabited, Repr

namespace Console

def append (a b : Console) : Console where
  output := a.output ++ b.output
  errors := a.errors ++ b.errors

instance : Append Console where
  append := append

end Console

structure Output where
  json : Bool
deriving DecidableEq, Inhabited, Repr

structure Logging where
  level : Level := .warning
  output? : Option Output := none
  room : Room := {}
deriving DecidableEq, Inhabited, Repr

namespace Logging

def setup (json : Bool) (level : Level) : Logging where
  level := level
  output? := some { json }

def write (logging : Logging) (now : Text) (r : Record) : Except Foreign Console :=
  if r.level.severity < logging.level.severity then .ok {}
  else
    match logging.output? with
    | some output =>
      if output.json then (r.json logging.room now).map fun line => { output := line ++ "\n" }
      else (r.plain logging.room).map fun line => { errors := line ++ "\n" }
    -- without an output set, messages that matter still reach the terminal
    | none =>
      if r.level.severity < Level.warning.severity then .ok {}
      else (r.message logging.room).map fun line => { errors := line ++ "\n" }

end Logging

end Converge.Log
