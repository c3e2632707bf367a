import Converge.Cli.Arguments
import Converge.Files
import Converge.Log.Output

/-!
This module contains the commands of the program and how arguments describe one.
-/

namespace Converge.Cli

inductive Command
  | version
  | validate (spec : Text)
  | plan (spec observed : Text) (failOnDrift : Bool)
  | verify (spec observed : Text) (version? : Option Int)
  | info
deriving DecidableEq, Inhabited, Repr

structure Invocation where
  command : Command
  json : Bool := false
  level : Log.Level := .warning
deriving DecidableEq, Inhabited, Repr

inductive Subject
  | program
  | validate
  | plan
  | verify
  | info
deriving DecidableEq, Inhabited, Repr

namespace Subject

def ofName? (name : Text) : Option Subject :=
  if name = "validate" then some .validate
  else if name = "plan" then some .plan
  else if name = "verify" then some .verify
  else if name = "info" then some .info
  else none

def path : Subject → Text
  | .program => "cli"
  | .validate => "cli validate"
  | .plan => "cli plan"
  | .verify => "cli verify"
  | .info => "cli info"

def parameters : Subject → Text
  | .program => "[OPTIONS] COMMAND [ARGS]..."
  | .info => "[OPTIONS]"
  | _ => "[OPTIONS] SPEC_PATH"

def complain (s : Subject) (e : UsageFault) : Text :=
  "Usage: " ++ s.path ++ " " ++ s.parameters ++ "\nTry '" ++ s.path ++
    " --help' for help.\n\nError: " ++ e.message ++ "\n"

end Subject

inductive ProgramOption
  | jsonLogs
  | textLogs
  | verbose
  | version
deriving DecidableEq, Inhabited, Repr

def programGrammar : Grammar ProgramOption where
  long := [
    ("--json-logs", .jsonLogs), ("--text-logs", .textLogs), ("--verbose", .verbose),
    ("--version", .version)]
  short := [(118, .verbose)]
  takesValue _ := false
  isLeaf := false

inductive CommandOption
  | observed
  | failOnDrift
  | version
deriving DecidableEq, Inhabited, Repr

namespace CommandOption

def observedNames : Text :=
  "'--observed' / '-o'"

def versionNames : Text :=
  "'--version'"

end CommandOption

def commandGrammar : Subject → Grammar CommandOption
  | .plan => {
      long := [("--observed", .observed), ("--fail-on-drift", .failOnDrift)]
      short := [(111, .observed)]
      takesValue := fun o => o = .observed
    }
  | .verify => {
      long := [("--observed", .observed), ("--version", .version)]
      short := [(111, .observed)]
      takesValue := fun _ => true
    }
  | _ => { long := [], short := [], takesValue := fun _ => false }

def checkPath (files : Files) (subject path : Text) : Except UsageFault Unit :=
  -- the path is looked up as it was given
  match files.find? path with
  | none => .error (.invalidValue subject ("File " ++ path.quoted ++ " does not exist."))
  | some .directory => .error (.invalidValue subject ("File " ++ path.quoted ++ " is a directory."))
  | some _ => .ok ()

def specName : Text :=
  "SPEC_PATH"

def checkOption (files : Files) (args : Arguments CommandOption) :
    CommandOption → Except UsageFault Unit
  | .observed => checkPath files CommandOption.observedNames ((args.value? .observed).getD .empty)
  | .failOnDrift => .ok ()
  | .version =>
    let value := (args.value? .version).getD .empty
    match Numeral.readInt? 10 value with
    | some _ => .ok ()
    | none =>
      .error (.invalidValue CommandOption.versionNames
        (value.quoted ++ " is not a valid integer."))

def checkOptions (files : Files) (args : Arguments CommandOption) :
    List CommandOption → Except UsageFault Unit
  | [] => .ok ()
  | o :: rest =>
    match checkOption files args o with
    | .error e => .error e
    | .ok () => checkOptions files args rest

def checkArguments (files : Files) (args : Arguments CommandOption) (needsObserved : Bool) :
    Except UsageFault Text :=
  match checkOptions files args args.given with
  | .error e => .error e
  | .ok () =>
    match args.positional with
    | [] => .error (.argumentMissing specName)
    | spec :: rest =>
      match checkPath files ("'" ++ specName ++ "'") spec with
      | .error e => .error e
      | .ok () =>
        if needsObserved && !args.has .observed then
          .error (.optionMissing CommandOption.observedNames)
        else if !rest.isEmpty then .error (.extraArguments rest)
        else .ok spec

def readCommand (files : Files) (s : Subject) (args : Arguments CommandOption) :
    Except UsageFault Command :=
  let observed := normalizePath ((args.value? .observed).getD .empty)
  match s with
  | .program => .error .commandMissing
  | .info => if args.positional.isEmpty then .ok .info else .error (.extraArguments args.positional)
  | .validate =>
    (checkArguments files args false).map fun spec => .validate (normalizePath spec)
  | .plan =>
    (checkArguments files args true).map fun spec =>
      .plan (normalizePath spec) observed (args.has .failOnDrift)
  | .verify =>
    (checkArguments files args true).map fun spec =>
      .verify (normalizePath spec) observed ((args.value? .version).bind (Numeral.readInt? 10))

def readInvocation (files : Files) (args : List Text) : Except (Subject × UsageFault) Invocation :=
  match programGrammar.divide args with
  | .error e => .error (.program, e)
  | .ok program =>
    if program.has .version then .ok { command := .version }
    else
      let json :=
        match (program.given.filter fun o => o = .jsonLogs || o = .textLogs).isEmpty,
          (program.options.filter fun (o, _) => o = .jsonLogs || o = .textLogs).getLast? with
        | false, some (o, _) => o = .jsonLogs
        | _, _ => false
      let level := if program.has .verbose then Log.Level.debug else .warning
      match program.positional with
      | [] => .error (.program, .commandMissing)
      | name :: rest =>
        match Subject.ofName? name with
        | none => .error (.program, .unknownCommand name)
        | some s =>
          match (commandGrammar s).divide rest with
          | .error e => .error (s, e)
          | .ok args =>
            match readCommand files s args with
            | .error e => .error (s, e)
            | .ok command => .ok { command, json, level }

end Converge.Cli
