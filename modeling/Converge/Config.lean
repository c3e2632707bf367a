import Converge.Files
import Converge.Fault

/-!
This module contains the configuration of a cycle. A configuration that breaks a constraint is never
made, so that nothing is called before all of them hold.
-/

namespace Converge

inductive Mode
  | observe
  | enforce
deriving DecidableEq, Inhabited, Repr

namespace Mode

def label : Mode → Text
  | .observe => "observe"
  | .enforce => "enforce"

def ofLabel? (t : Text) : Option Mode :=
  if t = "observe" then some .observe
  else if t = "enforce" then some .enforce
  else none

end Mode

structure Config where
  serviceId : Text
  specPath : Text
  mode : Mode := .observe
  verifyAfterApply : Bool := true
  maxChanges : Int := 100
  auditLogging : Bool := true
deriving DecidableEq, Inhabited, Repr

namespace Config

def defaultSpecPath : Text :=
  "/specs/logging.yaml"

def isServiceIdPoint (c : Nat) : Bool :=
  (48 ≤ c && c ≤ 57) || (65 ≤ c && c ≤ 90) || (97 ≤ c && c ≤ 122) || c = 95 || c = 45

def isServiceId (t : Text) : Bool :=
  -- a line break at the very end is let pass
  let cs := if t.points.getLast? = some 10 then t.points.dropLast else t.points
  1 ≤ cs.length && cs.length ≤ 64 && cs.all isServiceIdPoint

def serviceFaults (serviceId : Text) : List ConfigFault :=
  if serviceId.isEmpty then [.serviceMissing]
  else if isServiceId serviceId then []
  else [.serviceMalformed serviceId]

def specFaults (files : Files) (specPath : Text) : List ConfigFault :=
  if files.isFile specPath then [] else [.specMissing specPath]

def limitFaults (limit : Int) : List ConfigFault :=
  if 1 ≤ limit && limit ≤ largestLimit then [] else [.limitOutOfRange]

def faults (files : Files) (c : Config) : List ConfigFault :=
  serviceFaults c.serviceId ++ specFaults files c.specPath ++ limitFaults c.maxChanges

def validate (files : Files) (c : Config) : Except Fault Config :=
  match faults files c with
  | [] => .ok c
  | broken => .error (.setting (.rejected broken))

abbrev Environment := List (Text × Text)

def setting? (env : Environment) (key : Text) : Option Text :=
  env.lookup key

def settingOrEmpty (env : Environment) (key : Text) : Text :=
  (setting? env key).getD .empty

def intSetting (env : Environment) (key : Text) (default : Int) : Except Fault Int :=
  match setting? env key with
  | none => .ok default
  | some value =>
    match Numeral.readInt? 10 value with
    | some n => .ok n
    | none => .error (.setting (.notInteger key value))

def boolSetting (env : Environment) (key : Text) (default : Bool) : Bool :=
  -- a switch that is left empty has its default
  let value := (settingOrEmpty env key).lowerAscii
  if value.isEmpty then default
  else value = "true" || value = "1" || value = "yes"

def modeSetting (env : Environment) (key : Text) : Except Fault Mode :=
  let value := settingOrEmpty env key
  if value.isEmpty then .ok .observe
  else
    match Mode.ofLabel? value.lowerAscii with
    | some mode => .ok mode
    | none => .error (.setting (.unknownMode value))

def ofEnvironment (files : Files) (env : Environment) : Except Fault Config :=
  match modeSetting env "SYNC_MODE" with
  | .error e => .error e
  | .ok mode =>
    match intSetting env "MAX_OPERATIONS_PER_SYNC" 100 with
    | .error e => .error e
    | .ok maxChanges =>
      validate files {
        serviceId := settingOrEmpty env "SERVICE_ID"
        specPath := normalizePath ((setting? env "SPEC_FILE").getD defaultSpecPath)
        mode := mode
        verifyAfterApply := boolSetting env "VERIFY_AFTER_APPLY" true
        maxChanges := maxChanges
        auditLogging := boolSetting env "ENABLE_AUDIT_LOGGING" true
      }

end Config

end Converge
