import Converge.Cli.Command
import Converge.Reconcile
import Converge.Remote.Snapshot

/-!
This module contains what the commands do. They work offline, on a spec and a snapshot.
-/

namespace Converge.Cli

structure Ending where
  code : Nat
  console : Log.Console := {}
  escaped? : Option Foreign := none
deriving DecidableEq, Inhabited, Repr

structure Answer where
  code : Nat := 0
  lines : List Text := []
  complaint? : Option Text := none
deriving DecidableEq, Inhabited, Repr

def marker : ChangeKind → Text
  | .delete => "-"
  | .create => "+"
  | .update => "~"

def changeLine (c : Change) : Text :=
  let fields := c.fields.map Field.label
  let suffix : Text := if fields.isEmpty then .empty else " (" ++ Text.join ", " fields ++ ")"
  "  " ++ marker c.kind ++ " " ++ c.kind.label ++ " " ++ c.name ++ suffix

def complain (e : Fault) : Answer where
  code := 1
  complaint? := some ("Error: " ++ e.message)

def validate {σ : Type} (files : Files) (spec : Text) : Run σ Answer := do
  let document ← Reconcile.loadSpec files spec
  let _ ← Run.lift (Plan.index document.endpoints)
  let count := Numeral.ofNat document.endpoints.length
  pure {
    lines := ["✓ " ++ spec ++ ": " ++ count ++ " endpoint(s) for service " ++ document.serviceId]
  }

def planLines (report : Report) : List Text :=
  let version := Fault.optionalInt report.version
  let head : Text := "Service " ++ report.serviceId ++ ", active version " ++ version
  if report.changes.isEmpty then
    [head, "✓ No changes. Endpoints are converged."]
  else
    let count : Text := Numeral.ofNat report.changes.length ++ " operation(s) needed."
    head :: report.changes.map changeLine ++ [count]

def against {σ α : Type} (snapshot : Document.Snapshot) (x : Run Document.Snapshot α) : Run σ α :=
  fun w =>
    match x { remote := snapshot } with
    | (r, v) => (r, { w with log := w.log ++ v.log })

def plan {σ : Type} (surroundings : Surroundings) (spec observed : Text) (failOnDrift : Bool) :
    Run σ Answer := do
  let snapshot ← Reconcile.loadSnapshot surroundings.files observed
  let config ← Run.lift (Config.validate surroundings.files
    { serviceId := snapshot.serviceId, specPath := spec, auditLogging := false })
  let (code, report) ← against snapshot
    (Reconcile.start surroundings Document.Snapshot.client config failOnDrift)
  match report.fault? with
  | some e => pure (complain e)
  | none => pure { code, lines := planLines report }

def verify {σ : Type} (files : Files) (spec observed : Text) (version? : Option Int) :
    Run σ Answer := do
  let document ← Reconcile.loadSpec files spec
  let snapshot ← Reconcile.loadSnapshot (files.drained spec) observed
  let version := version?.getD snapshot.version
  let outcome ← against snapshot (Run.outcome
    (Verify.run Document.Snapshot.client document.serviceId version document.endpoints))
  match outcome with
  | .ok () =>
    pure { lines := ["✓ Version " ++ Numeral.ofInt version ++ " matches " ++ spec] }
  | .error (.notConverged v pending tally) =>
    let e := Fault.notConverged v pending tally
    pure { code := 1, lines := pending.map changeLine, complaint? := some ("✗ " ++ e.message) }
  | .error e => Run.fail e

def infoKeys : List Text := [
    "SERVICE_ID", "SPEC_FILE", "SYNC_MODE", "VERIFY_AFTER_APPLY", "MAX_OPERATIONS_PER_SYNC",
    "ENABLE_AUDIT_LOGGING"]

def infoLines (env : Config.Environment) : List Text :=
  let line (key : Text) : Text := "  " ++ key ++ ": " ++ (Config.setting? env key).getD "(unset)"
  let head : List Text := ["logsync", ⟨List.replicate 40 61⟩, "Version: " ++ programVersion, "",
    "Environment:"]
  head ++ infoKeys.map line

def runCommand {σ : Type} (surroundings : Surroundings) (env : Config.Environment) :
    Command → Run σ Answer
  | .version => pure { lines := ["logsync, version " ++ programVersion] }
  | .validate spec => validate surroundings.files spec
  | .plan spec observed failOnDrift => plan surroundings spec observed failOnDrift
  | .verify spec observed version? => verify surroundings.files spec observed version?
  | .info => pure { lines := infoLines env }

def errorText (t : Text) : Text :=
  Text.concat (t.points.map fun c =>
    if 0xD800 ≤ c && c ≤ 0xDFFF then "\\u" ++ Numeral.hex 4 c else ⟨[c]⟩)

def writeLog (logging : Log.Logging) (now : Text) (log : List Log.Record) : Log.Console :=
  log.foldl (fun console r =>
    match logging.write now r with
    | .ok written => console ++ { written with errors := errorText written.errors }
    | .error _ => console) {}

def writeLines (console : Log.Console) : List Text → Log.Console × Bool
  | [] => (console, true)
  | line :: rest =>
    if line.isWellFormed then writeLines (console ++ { output := line ++ "\n" }) rest
    else (console, false)

def finish (console : Log.Console) (answer : Answer) : Ending :=
  let console :=
    match answer.complaint? with
    | some line => console ++ { errors := errorText line ++ "\n" }
    | none => console
  match writeLines console answer.lines with
  | (console, true) => { code := answer.code, console }
  | (console, false) => { code := 1, console, escaped? := some .unencodable }

def run (surroundings : Surroundings) (env : Config.Environment) (stamp : Text) (args : List Text) :
    Ending :=
  match readInvocation surroundings.files args with
  | .error (subject, e) => { code := 2, console := { errors := subject.complain e } }
  | .ok invocation =>
    let (outcome, world) : Except Fault Answer × World Unit :=
      runCommand surroundings env invocation.command { remote := () }
    let logging := Log.Logging.setup invocation.json invocation.level
    let console := writeLog logging stamp world.log
    match outcome with
    | .ok answer => finish console answer
    | .error (.foreign f) => { code := 1, console, escaped? := some f }
    | .error e => finish console (complain e)

end Converge.Cli
