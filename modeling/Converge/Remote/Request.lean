import Converge.Fault

/-!
This module contains the calls that a versioned service answers, and what a client of one is.
-/

namespace Converge

inductive Request
  | activeVersion (serviceId : Text)
  | list (serviceId : Text) (version : Int)
  | create (serviceId : Text) (version : Int) (record : Declared)
  | update (serviceId : Text) (version : Int) (name : Text) (record : Declared)
  | delete (serviceId : Text) (version : Int) (name : Text)
  | clone (serviceId : Text)
  | activate (serviceId : Text) (version : Int)
deriving DecidableEq, Inhabited, Repr

inductive Operation
  | activeVersion
  | list
  | create
  | update
  | delete
  | clone
  | activate
deriving DecidableEq, Inhabited, Repr

namespace Operation

def label : Operation → Text
  | .activeVersion => "get_active_version"
  | .list => "list"
  | .create => "create"
  | .update => "update"
  | .delete => "delete"
  | .clone => "clone"
  | .activate => "activate"

def all : List Operation :=
  [.activeVersion, .list, .create, .update, .delete, .clone, .activate]

end Operation

namespace Request

def operation : Request → Operation
  | .activeVersion .. => .activeVersion
  | .list .. => .list
  | .create .. => .create
  | .update .. => .update
  | .delete .. => .delete
  | .clone .. => .clone
  | .activate .. => .activate

def endpoint? : Request → Option Text
  | .create _ _ record => some record.name
  | .update _ _ name _ => some name
  | .delete _ _ name => some name
  | _ => none

def serviceId : Request → Text
  | .activeVersion serviceId => serviceId
  | .list serviceId _ => serviceId
  | .create serviceId _ _ => serviceId
  | .update serviceId _ _ _ => serviceId
  | .delete serviceId _ _ => serviceId
  | .clone serviceId => serviceId
  | .activate serviceId _ => serviceId

def version? : Request → Option Int
  | .activeVersion _ => none
  | .list _ version => some version
  | .create _ version _ => some version
  | .update _ version _ _ => some version
  | .delete _ version _ => some version
  | .clone _ => none
  | .activate _ version => some version

def site (r : Request) : CallSite where
  operation := r.operation.label
  serviceId := r.serviceId
  version? := r.version?
  name? := r.endpoint?

def Reply : Request → Type
  | .activeVersion _ => Int
  -- a listing may be absent altogether
  | .list .. => Option (List Stored)
  | .create .. => Stored
  | .update .. => Stored
  | .delete .. => Unit
  | .clone _ => Int
  | .activate .. => Unit

end Request

abbrev Client (σ : Type) := (r : Request) → σ → Except Failure r.Reply × σ

end Converge
