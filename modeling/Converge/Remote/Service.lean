import Converge.Binary64.Shortest
import Converge.Remote.Request
import Converge.Timestamp.Unix

/-!
This module contains a versioned service that is kept in memory. Exactly one of its versions is
active and locked; the others were cloned from an active one and can be changed.
-/

namespace Converge

/--
A version and its endpoints in stored order. Their names are distinct.
-/
structure HeldVersion where
  number : Int
  endpoints : List Stored := []
deriving DecidableEq, Inhabited, Repr

namespace HeldVersion

def hasEndpoint (v : HeldVersion) (name : Text) : Bool :=
  v.endpoints.any (·.name = name)

def putEndpoint (r : Stored) : List Stored → List Stored
  | [] => [r]
  | q :: rest => if q.name = r.name then r :: rest else q :: putEndpoint r rest

def put (v : HeldVersion) (r : Stored) : HeldVersion :=
  -- a new name goes to the end
  { v with endpoints := putEndpoint r v.endpoints }

def erase (v : HeldVersion) (name : Text) : HeldVersion :=
  { v with endpoints := v.endpoints.filter fun r => r.name ≠ name }

end HeldVersion

/--
How a service represents the format versions that it stores, those that it does not drop.
-/
abbrev Storage := Int → Except Failure (Option FormatVersion)

/--
A service. `clock` counts the seconds since its start, one for each endpoint that it stores;
`mutations` counts the changes made to endpoints. An injected failure makes the calls of an operation
fail, either those about one endpoint or all.
-/
structure Service where
  serviceId : Text
  versions : List HeldVersion
  active : Int
  clock : Nat := 0
  mutations : Nat := 0
  maxVersions : Nat := 1000
  failures : List ((Operation × Option Text) × Failure) := []
deriving Inhabited

namespace Service

def epoch : Int := 1704067200

def ofEndpoints (serviceId : Text) (active : Int) (endpoints : List Stored) (maxVersions : Nat) :
    Service where
  serviceId := serviceId
  versions := [endpoints.foldl (fun v r => v.put { r with serviceId, version := active })
    { number := active }]
  active := active
  maxVersions := maxVersions

def version? (s : Service) (number : Int) : Option HeldVersion :=
  s.versions.find? (·.number = number)

def failure? (s : Service) (r : Request) : Option Failure :=
  match s.failures.lookup (r.operation, r.endpoint?) with
  | some f => some f
  | none => s.failures.lookup (r.operation, none)

def failOn (s : Service) (operation : Operation) (name? : Option Text) (f : Failure) : Service :=
  { s with failures := ((operation, name?), f) :: s.failures }

def clearFailures (s : Service) : Service :=
  { s with failures := [] }

def fail {α : Type} (message : Text) : Except Failure α :=
  .error (.remote message)

def requireVersion (s : Service) (number : Int) : Except Failure HeldVersion :=
  match s.version? number with
  | some v => .ok v
  | none => fail ("Unknown version: " ++ Numeral.ofInt number)

def requireMutable (s : Service) (number : Int) : Except Failure HeldVersion :=
  match s.requireVersion number with
  | .error e => .error e
  | .ok v =>
    if number = s.active then
      fail ("Version " ++ Numeral.ofInt number ++ " is active and locked")
    else
      .ok v

def setVersion (s : Service) (v : HeldVersion) : Service :=
  { s with versions := s.versions.map fun w => if w.number = v.number then v else w }

def tick (s : Service) : Service :=
  { s with clock := s.clock + 1 }

def now (s : Service) : Timestamp :=
  .ofSeconds (epoch + s.clock) 0

def stored (store : Storage) (s : Service) (version : Int) (d : Declared)
    (createdAt? : Option Timestamp) : Except Failure Stored :=
  let represent : Except Failure (Option FormatVersion) :=
    match d.formatVersion with
    | none => .ok none
    | some n => store n
  represent.map fun formatVersion => {
    serviceId := s.serviceId
    version := version
    name := d.name
    credential := d.credential
    format := d.format
    formatVersion := formatVersion
    placement := d.placement
    responseCondition := d.responseCondition
    createdAt := some (createdAt?.getD s.now)
    updatedAt := some s.now
  }

def countMutation (s : Service) : Service :=
  { s with mutations := s.mutations + 1 }

def create (store : Storage) (s : Service) (version : Int) (d : Declared) :
    Except Failure Stored × Service :=
  match s.requireMutable version with
  | .error e => (.error e, s)
  | .ok v =>
    if v.hasEndpoint d.name then (fail ("Endpoint already exists: " ++ d.name), s)
    else
      let s := s.tick
      match s.stored store version d none with
      | .error e => (.error e, s)
      | .ok r => (.ok r, (s.setVersion (v.put r)).countMutation)

def update (store : Storage) (s : Service) (version : Int) (name : Text) (d : Declared) :
    Except Failure Stored × Service :=
  match s.requireMutable version with
  | .error e => (.error e, s)
  | .ok v =>
    match v.endpoints.find? (·.name = name) with
    | none => (fail ("Endpoint not found: " ++ name), s)
    | some old =>
      -- the old endpoint is gone even if the new one cannot be represented
      let v := v.erase name
      let s := (s.setVersion v).tick
      match s.stored store version d old.createdAt with
      | .error e => (.error e, s)
      | .ok r => (.ok r, (s.setVersion (v.put r)).countMutation)

def delete (s : Service) (version : Int) (name : Text) : Except Failure Unit × Service :=
  match s.requireMutable version with
  | .error e => (.error e, s)
  | .ok v =>
    if v.hasEndpoint name then (.ok (), (s.setVersion (v.erase name)).countMutation)
    else (fail ("Endpoint not found: " ++ name), s)

def lastNumber (s : Service) : Int :=
  s.versions.foldl (fun n v => max n v.number) s.active

def activeEndpoints (s : Service) : List Stored :=
  ((s.version? s.active).map HeldVersion.endpoints).getD []

def clone (s : Service) : Except Failure Int × Service :=
  if s.maxVersions ≤ s.versions.length then
    (fail ("Version limit exceeded: " ++ Numeral.ofNat s.maxVersions), s)
  else
    let number := s.lastNumber + 1
    let endpoints := s.activeEndpoints.map fun r => { r with version := number }
    (.ok number, { s with versions := s.versions ++ [{ number, endpoints }] })

def activate (s : Service) (number : Int) : Except Failure Unit × Service :=
  match s.requireVersion number with
  | .error e => (.error e, s)
  | .ok _ => (.ok (), { s with active := number })

def answer (store : Storage) : (r : Request) → Service → Except Failure r.Reply × Service
  | .activeVersion _, s => (.ok s.active, s)
  | .list _ version, s => ((s.requireVersion version).map fun v => some v.endpoints, s)
  | .create _ version d, s => s.create store version d
  | .update _ version name d, s => s.update store version name d
  | .delete _ version name, s => s.delete version name
  | .clone _, s => s.clone
  | .activate _ version, s => s.activate version

def client (store : Storage) : Client Service := fun r s =>
  match s.failure? r with
  | some f => (.error f, s)
  | none =>
    if r.serviceId = s.serviceId then answer store r s
    else (fail ("Unknown service: " ++ r.serviceId), s)

end Service

namespace Storage

def asFloat (n : Int) : Except Failure Binary64 :=
  match Binary64.ofInt? n with
  | some x => .ok x
  | none => .error (.foreign .floatOverflow)

def unchanged : Storage := fun n =>
  .ok (some (.int n))

def float : Storage := fun n =>
  (asFloat n).map fun x => some (.float x)

def text : Storage := fun n =>
  .ok (some (.text (Numeral.ofInt n)))

def floatText : Storage := fun n =>
  (asFloat n).map fun x => some (.text x.toText)

/--
A storage that is not faithful: what it stores is no integer.
-/
def plusHalf : Storage := fun n =>
  (asFloat n).map fun x => some (.float (x.add .half))

end Storage

end Converge
