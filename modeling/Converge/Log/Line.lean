import Converge.Json.Writer
import Converge.Log.Record

/-!
This module contains the lines that log records are written as: JSON objects, or text for a terminal.
-/

namespace Converge.Log

/--
The names that belong to every record; a field of such a name is never written.
-/
def reservedNames : List Text := [
    "name", "msg", "args", "created", "filename", "funcName", "levelname", "levelno", "lineno",
    "module", "msecs", "pathname", "process", "processName", "relativeCreated", "stack_info",
    "exc_info", "exc_text", "thread", "threadName", "taskName", "message"]

def isReserved (name : Text) : Bool :=
  reservedNames.contains name

namespace Record

def fields (now message : Text) (r : Record) : List (Text × Value) :=
  let common : List (Text × Value) := [
    ("timestamp", .text now), ("level", .text r.level.label), ("message", .text message),
    ("logger", .text r.logger)]
  let own := r.extra.filter fun (name, _) => !isReserved name
  -- a field with the name of a common one takes that one's place, and the text of an exception
  -- takes the place of any other
  let all := Value.putAll common own
  match r.raised? with
  | some raised => Value.put "exception" (.text raised.text) all
  | none => all

def json (room : Room) (now : Text) (r : Record) : Except Foreign Text :=
  match r.message room with
  | .ok message => Json.dump room.line (.map (r.fields now message))
  | .error e => .error e

def plain (room : Room) (r : Record) : Except Foreign Text :=
  match r.message room with
  | .error e => .error e
  | .ok message =>
    let line := r.level.label ++ " " ++ r.logger ++ ": " ++ message
    match r.raised? with
    | some raised =>
      let gap : Text := if line.points.getLast? = some 10 then .empty else "\n"
      .ok (line ++ gap ++ raised.text)
    | none => .ok line

end Record

end Converge.Log
