import Converge.Cli.Program
import Std.Time.DateTime.Timestamp

/-!
This module contains the program itself: it collects the files and settings that the arguments may
mean, runs the command and prints what it wrote.
-/

namespace Converge.Main

def candidates (arg : String) : List String :=
  let attached := (arg.splitOn "=").drop 1
  let short := if arg.startsWith "-" then [String.ofList (arg.toList.drop 2)] else []
  arg :: (String.intercalate "=" attached) :: short

def stages (path : String) : List String :=
  let parts := path.splitOn "/"
  (List.range parts.length).map fun n => String.intercalate "/" (parts.take (n + 1))

def addEntry (files : Files) (path : String) : IO Files := do
  try
    let octets := (← IO.FS.readBinFile path).toList
    -- a device is read as a stream
    if path.startsWith "/dev/" then return files.place path (.stream octets)
    return files.place path (.file octets)
  catch
    | .inappropriateType .. => return files.makeDirectory path
    | _ => return files

def collectFiles (args : List String) : IO Files :=
  ((args.flatMap candidates).flatMap stages).foldlM addEntry {}

def settingKeys : List String :=
  ["SERVICE_ID", "SPEC_FILE", "SYNC_MODE", "VERIFY_AFTER_APPLY", "MAX_OPERATIONS_PER_SYNC",
    "ENABLE_AUDIT_LOGGING", "CONTAINER_INSTANCE_ID", "GIT_COMMIT_SHA", "GIT_BRANCH", "GIT_REPO"]

def environment : IO Config.Environment :=
  settingKeys.filterMapM fun key => do
    return (← IO.getEnv key).map fun value => ((key : Text), (value : Text))

def now : IO Timestamp := do
  let t ← Std.Time.Timestamp.now
  return .ofSeconds t.toSecondsSinceUnixEpoch.val 0

def string (t : Text) : String :=
  String.ofList (t.points.map Char.ofNat)

def stamp (t : Timestamp) : Text :=
  { t with offset? := none }.iso ++ "Z"

end Converge.Main

open Converge in
def main (args : List String) : IO UInt32 := do
  let files ← Main.collectFiles args
  let env ← Main.environment
  let now ← Main.now
  let ending := Cli.run { files, origin := .ofEnvironment env, now } env (Main.stamp now)
    (args.map Text.ofString)
  IO.print (Main.string ending.console.output)
  IO.eprint (Main.string ending.console.errors)
  match ending.escaped? with
  | some f => IO.eprintln (Main.string (f.className ++ ": " ++ f.message))
  | none => pure ()
  return ending.code.toUInt32
