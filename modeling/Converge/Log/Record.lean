import Converge.Log.Template

/-!
This module contains log records and the rendering of their messages.
-/

namespace Converge.Log

/--
How much a record matters, with the name that is shown for it. There may be others than those below.
-/
structure Level where
  label : Text
  severity : Int
deriving DecidableEq, Inhabited, Repr

namespace Level

def debug : Level := ⟨"DEBUG", 10⟩

def info : Level := ⟨"INFO", 20⟩

def warning : Level := ⟨"WARNING", 30⟩

def error : Level := ⟨"ERROR", 40⟩

def critical : Level := ⟨"CRITICAL", 50⟩

end Level

/--
How many lists and maps may be open at a time while a record is written. Each of them takes calls of the
interpreter, and of these it allows only so many; how many are left depends on where a record is
written.
-/
structure Room where
  -- those with something in them, in the literals of a message
  message : Nat := 990
  -- all of them, in a line of JSON
  line : Nat := 990
deriving DecidableEq, Inhabited, Repr

/--
An exception with all that is written of it, the calls that it went through included.
-/
structure Raised where
  className : Text
  text : Text
deriving DecidableEq, Inhabited, Repr

/--
An exception of which no calls are known.
-/
def Raised.bare (className message : Text) : Raised where
  className := className
  text := if message.isEmpty then className else className ++ ": " ++ message

/--
A log record. The message is `template` with `args` put in; `extra` holds fields of its own.
-/
structure Record where
  level : Level
  logger : Text
  template : Text
  args : List Value := []
  extra : List (Text × Value) := []
  raised? : Option Raised := none
deriving Inhabited, Repr

namespace Record

def interpolated (room : Room) (r : Record) : Except Foreign Text :=
  -- a template without arguments is taken as it is
  if r.args.isEmpty then .ok r.template else Template.fillIn room.message r.template r.args

/--
What the record answers when it is asked for its message. It is asked by name, and a field of that
name answers instead of the record.
-/
def message (room : Room) (r : Record) : Except Foreign Text :=
  if r.extra.any fun (name, _) => name = "getMessage" then .error .notCallable
  else r.interpolated room

end Record

end Converge.Log
