import Converge.Text.Quoted

/-!
This module contains the division of command line arguments into options and positional arguments.
-/

namespace Converge.Cli

inductive UsageFault
  | unknownOption (name : Text)
  | valueMissing (name : Text)
  | valueUnexpected (name : Text)
  | argumentMissing (name : Text)
  | optionMissing (names : Text)
  | invalidValue (subject reason : Text)
  | extraArguments (arguments : List Text)
  | unknownCommand (name : Text)
  | commandMissing
deriving DecidableEq, Inhabited, Repr

namespace UsageFault

def message : UsageFault → Text
  | .unknownOption name => "No such option " ++ name.quoted ++ "."
  | .valueMissing name => "Option " ++ name.quoted ++ " requires an argument."
  | .valueUnexpected name => "Option " ++ name.quoted ++ " does not take a value."
  | .argumentMissing name => "Missing argument '" ++ name ++ "'."
  | .optionMissing names => "Missing option " ++ names ++ "."
  | .invalidValue subject reason => "Invalid value for " ++ subject ++ ": " ++ reason
  | .extraArguments arguments =>
    let noun : Text := if arguments.length = 1 then "argument" else "arguments"
    "Got unexpected extra " ++ noun ++ " (" ++ Text.join " " arguments ++ ")"
  | .unknownCommand name => "No such command " ++ name.quoted ++ "."
  | .commandMissing => "Missing command."

end UsageFault

/--
The spellings of a command's options. Whatever stands behind an option that takes a value is that
value. A command that is no leaf leaves everything behind its first positional argument to another
one.
-/
structure Grammar (α : Type) where
  long : List (Text × α)
  short : List (Nat × α)
  takesValue : α → Bool
  isLeaf : Bool := true

structure Arguments (α : Type) where
  options : List (α × Option Text) := []
  positional : List Text := []

namespace Grammar

variable {α : Type}

def splitValue (arg : Text) : Text × Option Text :=
  match arg.points.span (· ≠ 61) with
  | (_, []) => (arg, none)
  | (name, _ :: value) => (⟨name⟩, some ⟨value⟩)

def looksLikeOption (arg : Text) : Bool :=
  arg.startsWith "-" && 1 < arg.length

/--
What an argument means that looks like an option: options with their values, and at its end maybe one
that takes the next argument as its value.
-/
structure Reading (α : Type) where
  given : List (α × Option Text)
  awaiting? : Option (Text × α) := none

def shortName (c : Nat) : Text :=
  ⟨[45, c]⟩

def readShort (g : Grammar α) : List (α × Option Text) → List Nat → Except UsageFault (Reading α)
  | given, [] => .ok { given }
  | given, c :: rest =>
    match g.short.lookup c with
    | none => .error (.unknownOption (shortName c))
    | some o =>
      if g.takesValue o then
        match rest with
        | [] => .ok { given, awaiting? := some (shortName c, o) }
        | _ => .ok { given := given ++ [(o, some ⟨rest⟩)] }
      else
        readShort g (given ++ [(o, none)]) rest

def readLong (g : Grammar α) (name : Text) (value? : Option Text) (o : α) :
    Except UsageFault (Reading α) :=
  match g.takesValue o, value? with
  | true, some value => .ok { given := [(o, some value)] }
  | true, none => .ok { given := [], awaiting? := some (name, o) }
  | false, some _ => .error (.valueUnexpected name)
  | false, none => .ok { given := [(o, none)] }

def readOption (g : Grammar α) (arg : Text) : Except UsageFault (Reading α) :=
  let (name, value?) := splitValue arg
  match g.long.lookup name with
  | some o => g.readLong name value? o
  | none =>
    if arg.startsWith "--" then .error (.unknownOption name)
    else g.readShort [] (arg.points.drop 1)

def divide (g : Grammar α) (args : List Text) : Except UsageFault (Arguments α) :=
  go [] [] args
where
  go (options : List (α × Option Text)) (positional : List Text) :
      List Text → Except UsageFault (Arguments α)
    | [] => .ok { options, positional }
    | arg :: rest =>
      -- two hyphens alone end the options
      if arg = "--" then .ok { options, positional := positional ++ rest }
      else if looksLikeOption arg then
        match g.readOption arg with
        | .error e => .error e
        | .ok reading =>
          let options := options ++ reading.given
          match reading.awaiting? with
          | none => go options positional rest
          | some (name, o) =>
            match rest with
            | [] => .error (.valueMissing name)
            | value :: rest => go (options ++ [(o, some value)]) positional rest
      else if g.isLeaf then go options (positional ++ [arg]) rest
      else .ok { options, positional := positional ++ arg :: rest }

end Grammar

namespace Arguments

variable {α : Type} [BEq α]

def value? (a : Arguments α) (o : α) : Option Text :=
  ((a.options.filter (·.1 == o)).getLast?).bind Prod.snd

def has (a : Arguments α) (o : α) : Bool :=
  a.options.any (·.1 == o)

def given (a : Arguments α) : List α :=
  (a.options.map Prod.fst).eraseDups

end Arguments

end Converge.Cli
