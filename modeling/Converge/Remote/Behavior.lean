import Converge.Remote.Service

/-!
This module contains services that deviate from what they promise: clients between which and a
service something is lost or altered.
-/

namespace Converge

structure Behavior where
  dropsFormat : Bool := false
  listingAbsent : Bool := false
  listingDoubled : Bool := false
  listingReversed : Bool := false
  keepsDeleted : Bool := false
  clonesAs? : Option Int := none
deriving DecidableEq, Inhabited, Repr

namespace Behavior

def alterListing (b : Behavior) (listing : List Stored) : Option (List Stored) :=
  let listing := if b.listingDoubled then listing ++ listing else listing
  let listing := if b.listingReversed then listing.reverse else listing
  if b.listingAbsent then none else some listing

def alterRecord (b : Behavior) (d : Declared) : Declared :=
  if b.dropsFormat then { d with format := .empty } else d

def client (b : Behavior) (store : Storage) : Client Service
  | .list serviceId version, s =>
    match Service.client store (.list serviceId version) s with
    | (.ok listing, s) => (.ok (listing.bind b.alterListing), s)
    | (.error e, s) => (.error e, s)
  | .create serviceId version d, s =>
    Service.client store (.create serviceId version (b.alterRecord d)) s
  | .delete serviceId version name, s =>
    if b.keepsDeleted then
      match s.failure? (.delete serviceId version name) with
      | some f => (.error f, s)
      | none => (.ok (), s)
    else
      Service.client store (.delete serviceId version name) s
  | .clone serviceId, s =>
    match Service.client store (.clone serviceId) s with
    | (.ok number, s) => (.ok (b.clonesAs?.getD number), s)
    | (.error e, s) => (.error e, s)
  | r, s => Service.client store r s

end Behavior

end Converge
