import Converge.Document.Record
import Converge.Remote.Request

/-!
This module contains the client of a captured snapshot. It answers reads of the one version that the
snapshot holds and refuses everything else.
-/

namespace Converge.Document.Snapshot

def refuse {α : Type} (operation : Text) : Except Failure α :=
  .error (.remote ("Cannot " ++ operation ++ ": snapshot is read-only"))

def checkService (s : Snapshot) (serviceId : Text) : Except Failure Unit :=
  if serviceId = s.serviceId then .ok ()
  else
    .error (.remote ("Snapshot holds service '" ++ s.serviceId ++ "', not '" ++ serviceId ++ "'"))

def answer (s : Snapshot) : (r : Request) → Except Failure r.Reply
  | .activeVersion serviceId => (s.checkService serviceId).map fun () => s.version
  | .list serviceId version =>
    (s.checkService serviceId).map fun () => some (if version = s.version then s.endpoints else [])
  | .create .. => refuse "create endpoint"
  | .update .. => refuse "update endpoint"
  | .delete .. => refuse "delete endpoint"
  | .clone _ => refuse "clone version"
  | .activate .. => refuse "activate version"

def client : Client Snapshot := fun r s =>
  (s.answer r, s)

end Converge.Document.Snapshot
