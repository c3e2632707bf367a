import Converge.Sync

/-!
This module contains the check that a version has converged: it is read again and must need no change
and hold no endpoint twice.
-/

namespace Converge.Verify

variable {σ : Type}

def record (level : Log.Level) (message : Text) (serviceId : Text) (version : Int)
    (extra : List (Text × Value)) : Log.Record where
  level := level
  logger := "logsync.verifier"
  template := message
  extra := ("service_id", .text serviceId) :: ("version", .int version) :: extra

def remaining (changes : List Change) : Value :=
  .list (changes.map fun c => .text (c.kind.label ++ ":" ++ c.name))

/--
Stop unless a version holds exactly the desired endpoints.
-/
def run (client : Client σ) (serviceId : Text) (version : Int) (desired : List Declared) :
    Run σ Unit := do
  let expected ← Run.lift (Plan.index desired)
  let listing ← Run.call client (.list serviceId version)
  let changes ← Sync.diff desired listing
  let expectedCount : Int := expected.length
  let observedCount : Int := (listing.getD []).length
  if observedCount ≠ expectedCount then
    Run.log (record .error "Endpoint count mismatch" serviceId version [
      ("expected_count", .int expectedCount), ("observed_count", .int observedCount),
      ("remaining", remaining changes)])
    Run.fail (.notConverged version changes ⟨some expectedCount, some observedCount⟩)
  else if !changes.isEmpty then
    Run.log (record .error "Endpoints have not converged" serviceId version
      [("remaining", remaining changes)])
    Run.fail (.notConverged version changes {})
  else
    Run.log (record .info "Endpoints converged" serviceId version [("count", .int observedCount)])

end Converge.Verify
