import Converge.Change
import Converge.Document.Issue
import Converge.Version

/-!
This module contains everything that can stop the work, by cause, with the wording of each. Every
exception is taken to have a text, and every version number to be one that can be written.
-/

namespace Converge

structure CallSite where
  operation : Text
  serviceId : Text
  version? : Option Int := none
  name? : Option Text := none
deriving DecidableEq, Inhabited, Repr

/--
Faults outside this library's own vocabulary. They are known by the name of their class.
-/
inductive Foreign
  | absentListing
  | undecodable
  | unencodable
  | malformedScalar
  | unknownWord
  | unmatchedTimestamp
  | emptyNumber
  | scalarOverflow
  | tooDeep
  | floatOverflow
  | badTemplate
  | wrongArguments
  | missingKey
  | tooManyDigits
  | infiniteNumber
  | noNumber
  | sizeOverflow
  | notCallable
  | other (className message : Text)
deriving DecidableEq, Inhabited, Repr

namespace Foreign

def className : Foreign → Text
  | .absentListing => "TypeError"
  | .undecodable => "UnicodeDecodeError"
  | .unencodable => "UnicodeEncodeError"
  | .malformedScalar => "ValueError"
  | .unknownWord => "KeyError"
  | .unmatchedTimestamp => "AttributeError"
  | .emptyNumber => "IndexError"
  | .scalarOverflow => "OverflowError"
  | .tooDeep => "RecursionError"
  | .floatOverflow => "OverflowError"
  | .badTemplate => "ValueError"
  | .wrongArguments => "TypeError"
  | .missingKey => "KeyError"
  | .tooManyDigits => "ValueError"
  | .infiniteNumber => "OverflowError"
  | .noNumber => "ValueError"
  | .sizeOverflow => "OverflowError"
  | .notCallable => "TypeError"
  | .other className _ => className

def message : Foreign → Text
  | .absentListing => "the listing is absent"
  | .undecodable => "the octets are not UTF-8"
  | .unencodable => "the text holds surrogates"
  | .malformedScalar => "the scalar does not fit its tag"
  | .unknownWord => "the word is not a boolean"
  | .unmatchedTimestamp => "the scalar is not a timestamp"
  | .emptyNumber => "the number is empty"
  | .scalarOverflow => "the code point is out of range"
  | .tooDeep => "the nesting is too deep"
  | .floatOverflow => "int too large to convert to float"
  | .badTemplate => "the template is malformed"
  | .wrongArguments => "the arguments do not fit the template"
  | .missingKey => "the map has no such key"
  | .tooManyDigits => "the integer has too many digits"
  | .infiniteNumber => "the number is infinite"
  | .noNumber => "the number is not a number"
  | .sizeOverflow => "the width or the precision is out of range"
  | .notCallable => "the value is not callable"
  | .other _ message => message

end Foreign

inductive Failure
  | remote (message : Text)
  | foreign (f : Foreign)
deriving DecidableEq, Inhabited, Repr

namespace Failure

def message : Failure → Text
  | .remote message => message
  | .foreign f => f.message

def className : Failure → Text
  | .remote _ => "RemoteError"
  | .foreign f => f.className

end Failure

inductive DocumentKind
  | spec
  | snapshot
deriving DecidableEq, Inhabited, Repr

namespace DocumentKind

def title : DocumentKind → Text
  | .spec => "Spec"
  | .snapshot => "Snapshot"

def label : DocumentKind → Text
  | .spec => "spec"
  | .snapshot => "snapshot"

end DocumentKind

inductive LoadFault
  | notFound (kind : DocumentKind) (path : Text)
  | tooLarge (kind : DocumentKind) (path : Text) (limit : Nat)
  | directory (kind : DocumentKind) (path : Text)
  | notYaml (path : Text) (reason : Text)
  | notMapping (kind : DocumentKind) (path : Text)
  | sectionNotMapping (path : Text)
  | invalid (path : Text) (issues : List Document.Issue)
deriving DecidableEq, Repr

namespace LoadFault

def message : LoadFault → Text
  | .notFound kind path => kind.title ++ " file not found: " ++ path
  | .tooLarge kind path limit =>
    kind.title ++ " file exceeds maximum size of " ++ Numeral.ofNat limit ++ " bytes: " ++ path
  | .directory kind path =>
    "Failed to read " ++ kind.label ++ " file " ++ path ++ ": [Errno 21] Is a directory: " ++
      path.quoted
  | .notYaml path reason => "Invalid YAML in " ++ path ++ ": " ++ reason
  | .notMapping kind path => kind.title ++ " file must contain a YAML mapping: " ++ path
  | .sectionNotMapping path => "Spec section must be a mapping: " ++ path
  | .invalid path issues =>
    "Validation failed for " ++ path ++ ":\n" ++
      Text.join "\n" (issues.map Document.Issue.line)

end LoadFault

inductive ConfigFault
  | serviceMissing
  | serviceMalformed (serviceId : Text)
  | specMissing (path : Text)
  | limitOutOfRange
deriving DecidableEq, Inhabited, Repr

def largestLimit : Int := 1000

namespace ConfigFault

def message : ConfigFault → Text
  | .serviceMissing => "SERVICE_ID is required"
  | .serviceMalformed serviceId =>
    "SERVICE_ID must match pattern ^[A-Za-z0-9_-]\x7b1,64\x7d$: " ++ serviceId
  | .specMissing path => "Spec file does not exist: " ++ path
  | .limitOutOfRange =>
    "MAX_OPERATIONS_PER_SYNC must be between 1 and " ++ Numeral.ofInt largestLimit

end ConfigFault

inductive SettingFault
  | rejected (faults : List ConfigFault)
  | notInteger (key value : Text)
  | unknownMode (value : Text)
  | otherService (path specService serviceId : Text)
deriving DecidableEq, Inhabited, Repr

namespace SettingFault

def message : SettingFault → Text
  | .rejected faults =>
    "Configuration validation failed:\n  - " ++
      Text.join "\n  - " (faults.map ConfigFault.message)
  | .notInteger key value => key ++ " must be an integer: " ++ value
  | .unknownMode value => "SYNC_MODE must be one of ['observe', 'enforce']: " ++ value
  | .otherService path specService serviceId =>
    "Spec " ++ path ++ " targets service '" ++ specService ++ "', configured service is '" ++
      serviceId ++ "'"

end SettingFault

structure Tally where
  expected? : Option Int := none
  observed? : Option Int := none
deriving DecidableEq, Inhabited, Repr

namespace Tally

def disagrees (t : Tally) : Bool :=
  t.expected?.isSome && t.expected? ≠ t.observed?

end Tally

inductive Fault
  | invalidRecord (field name : Text) (reason? : Option Text)
  | duplicateName (name : Text)
  | callFailed (call : CallSite) (cause? : Option Failure)
  | notConverged (version : Int) (pending : List Change) (tally : Tally)
  | cancelled (version? : Option Int) (applied : Int)
  | limitExceeded (count limit : Int)
  | stage (fault : VersionFault)
  | load (fault : LoadFault)
  | setting (fault : SettingFault)
  | remote (message : Text)
  | foreign (f : Foreign)
deriving DecidableEq, Repr

namespace Fault

def optionalInt : Option Int → Text
  | some n => Numeral.ofInt n
  | none => "None"

def recordSubject (name : Text) : Text :=
  if name.isEmpty then "Endpoint <unnamed>" else "Endpoint '" ++ name ++ "'"

def callMessage (call : CallSite) : Text :=
  "Remote call '" ++ call.operation ++ "' failed for service " ++ call.serviceId ++
    (match call.version? with
    | some version => ", version " ++ Numeral.ofInt version
    | none => .empty) ++
    (match call.name? with
    | some name => ", endpoint '" ++ name ++ "'"
    | none => .empty)

def message : Fault → Text
  | .invalidRecord field name none =>
    recordSubject name ++ " has an empty required field: " ++ field
  | .invalidRecord field name (some reason) =>
    recordSubject name ++ " has an invalid " ++ field ++ ": " ++ reason
  | .duplicateName name => "Duplicate endpoint name in desired state: '" ++ name ++ "'"
  | .callFailed call _ => callMessage call
  | .notConverged version pending tally =>
    if tally.disagrees then
      "Version " ++ Numeral.ofInt version ++ " endpoint count mismatch: expected " ++
        optionalInt tally.expected? ++ ", got " ++ optionalInt tally.observed?
    else
      "Version " ++ Numeral.ofInt version ++ " has not converged: " ++
        Text.join ", " (pending.map fun c => c.kind.label ++ " " ++ c.name)
  | .cancelled none _ => "Sync cancelled before cloning; nothing applied"
  | .cancelled (some version) applied =>
    "Sync cancelled after " ++ Numeral.ofInt applied ++ " operation(s); version " ++
      Numeral.ofInt version ++ " left un-activated"
  | .limitExceeded count limit =>
    "Sync would apply " ++ Numeral.ofInt count ++ " operations, exceeding limit of " ++
      Numeral.ofInt limit ++ ". Review the desired state before applying."
  | .stage fault => fault.message
  | .load fault => fault.message
  | .setting fault => fault.message
  | .remote message => message
  | .foreign f => f.message

def className : Fault → Text
  | .invalidRecord .. => "InvalidRecord"
  | .duplicateName _ => "DuplicateName"
  | .callFailed .. => "RemoteCallFailed"
  | .notConverged .. => "ConvergenceMismatch"
  | .cancelled .. => "SyncCancelled"
  | .limitExceeded .. => "OperationLimitExceeded"
  | .stage _ => "VersionStateError"
  | .load _ => "SpecLoadError"
  | .setting _ => "ConfigurationError"
  | .remote _ => "RemoteError"
  | .foreign f => f.className

end Fault

end Converge
