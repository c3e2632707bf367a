import Converge.Endpoint.Projection

/-!
This module contains the computation of the changes that lead from observed to desired endpoints:
deletes, then creates, then updates, each group sorted by name. A name that a delete frees can be
created again by the same plan, and no name is both deleted and updated.
-/

namespace Converge.Plan

def index (desired : List Declared) : Except Fault (List Declared) :=
  go [] desired
where
  go (indexed : List Declared) : List Declared → Except Fault (List Declared)
    | [] => .ok indexed.reverse
    | d :: rest =>
      match d.withDefaults with
      | .error e => .error e
      | .ok d =>
        if indexed.any (·.name = d.name) then .error (.duplicateName d.name)
        else go (d :: indexed) rest

def latest : List Stored → List Stored
  -- of endpoints that share a name only the last counts
  | [] => []
  | r :: rest => if rest.any (·.name = r.name) then latest rest else r :: latest rest

def sortDeclared (ds : List Declared) : List Declared :=
  ds.mergeSort fun a b => a.name.ble b.name

def sortStored (rs : List Stored) : List Stored :=
  rs.mergeSort fun a b => a.name.ble b.name

def deletes (wanted : List Declared) (current : List Stored) : List Change :=
  (sortStored (current.filter fun r => !wanted.any (·.name = r.name))).map .delete

def creates (wanted : List Declared) (current : List Stored) : List Change :=
  (sortDeclared (wanted.filter fun d => !current.any (·.name = d.name))).map .create

def update? (desired : Declared) (observed : Stored) : Except Fault (Option Change) :=
  match observed.project with
  | .error e => .error e
  | .ok current =>
    match desired.changedFields current with
    | [] => .ok none
    | fields => .ok (some (.update desired observed fields))

def updates (wanted : List Declared) (current : List Stored) : Except Fault (List Change) :=
  go (sortDeclared wanted)
where
  go : List Declared → Except Fault (List Change)
    | [] => .ok []
    | d :: rest =>
      match current.find? (·.name = d.name) with
      | none => go rest
      | some r =>
        match update? d r with
        | .error e => .error e
        | .ok none => go rest
        | .ok (some c) => (go rest).map (c :: ·)

def changes (wanted : List Declared) (current : List Stored) : Except Fault (List Change) :=
  (updates wanted current).map fun us => deletes wanted current ++ creates wanted current ++ us

/--
The changes that lead from the observed to the desired endpoints. There are none if and only if the
two already match.
-/
def between (desired : List Declared) (observed : List Stored) : Except Fault (List Change) :=
  match index desired with
  | .error e => .error e
  | .ok wanted => changes wanted (latest observed)

end Converge.Plan
