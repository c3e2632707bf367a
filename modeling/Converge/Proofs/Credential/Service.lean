import Converge.Proofs.Credential.Renaming
import Converge.Proofs.Remote.Calls

/-!
This module contains that the service does not depend on credentials. Main statement: what it answers
to a renamed call in a renamed state is the renamed answer.
-/

namespace Converge

open List

variable {store : Storage}

namespace Request

def rename (ρ : Renaming) : Request → Request
  | .create serviceId version record => .create serviceId version (record.rename ρ)
  | .update serviceId version name record => .update serviceId version name (record.rename ρ)
  | r => r

def renameReply (ρ : Renaming) : (r : Request) → r.Reply → (r.rename ρ).Reply
  | .activeVersion _, number => number
  | .list .., listing => Option.map (map (Stored.rename ρ)) listing
  | .create .., reply => Stored.rename ρ reply
  | .update .., reply => Stored.rename ρ reply
  | .delete .., () => ()
  | .clone _, number => number
  | .activate .., () => ()

@[simp]
theorem operation_rename (ρ : Renaming) (r : Request) : (r.rename ρ).operation = r.operation := by
  cases r <;> rfl

@[simp]
theorem endpoint?_rename (ρ : Renaming) (r : Request) : (r.rename ρ).endpoint? = r.endpoint? := by
  cases r <;> rfl

@[simp]
theorem serviceId_rename (ρ : Renaming) (r : Request) : (r.rename ρ).serviceId = r.serviceId := by
  cases r <;> rfl

@[simp]
theorem site_rename (ρ : Renaming) (r : Request) : (r.rename ρ).site = r.site := by
  cases r <;> rfl

end Request

namespace HeldVersion

def rename (ρ : Renaming) (v : HeldVersion) : HeldVersion :=
  { v with endpoints := v.endpoints.map (·.rename ρ) }

theorem hasEndpoint_rename (ρ : Renaming) (v : HeldVersion) (name : Text) :
    (v.rename ρ).hasEndpoint name = v.hasEndpoint name := by
  unfold hasEndpoint rename
  rw [any_map]
  rfl

theorem putEndpoint_rename (ρ : Renaming) (r : Stored) (endpoints : List Stored) :
    putEndpoint (r.rename ρ) (endpoints.map (·.rename ρ))
      = (putEndpoint r endpoints).map (·.rename ρ) := by
  induction endpoints with
  | nil => rfl
  | cons q rest ih =>
    unfold putEndpoint
    rw [map_cons]
    dsimp only
    rw [ih]
    change (if q.name = r.name then _ else _) = _
    split <;> rfl

theorem put_rename (ρ : Renaming) (v : HeldVersion) (r : Stored) :
    (v.rename ρ).put (r.rename ρ) = (v.put r).rename ρ := by
  unfold put rename
  rw [putEndpoint_rename]

theorem erase_rename (ρ : Renaming) (v : HeldVersion) (name : Text) :
    (v.rename ρ).erase name = (v.erase name).rename ρ := by
  unfold erase rename
  rw [filter_map]
  rfl

end HeldVersion

namespace Service

def rename (ρ : Renaming) (s : Service) : Service :=
  { s with versions := s.versions.map (·.rename ρ) }

theorem version?_rename (ρ : Renaming) (s : Service) (number : Int) :
    (s.rename ρ).version? number = (s.version? number).map (·.rename ρ) := by
  unfold version? rename
  rw [find?_map]
  rfl

theorem requireVersion_rename (ρ : Renaming) (s : Service) (number : Int) :
    (s.rename ρ).requireVersion number = (s.requireVersion number).map (·.rename ρ) := by
  unfold requireVersion
  rw [version?_rename]
  cases s.version? number <;> rfl

theorem requireMutable_rename (ρ : Renaming) (s : Service) (number : Int) :
    (s.rename ρ).requireMutable number = (s.requireMutable number).map (·.rename ρ) := by
  unfold requireMutable
  rw [requireVersion_rename]
  cases s.requireVersion number with
  | error f => rfl
  | ok v =>
    change (if number = s.active then _ else _) = _
    dsimp only
    split <;> rfl

theorem setVersion_rename (ρ : Renaming) (s : Service) (v : HeldVersion) :
    (s.rename ρ).setVersion (v.rename ρ) = (s.setVersion v).rename ρ := by
  unfold setVersion rename
  simp only [map_map]
  congr 1
  apply map_congr_left
  intro w _
  rw [Function.comp_apply, Function.comp_apply]
  change (if w.number = v.number then _ else _) = _
  split <;> rfl

theorem stored_rename (ρ : Renaming) (s : Service) (number : Int) (d : Declared)
    (createdAt? : Option Timestamp) :
    (s.rename ρ).stored store number (d.rename ρ) createdAt?
      = (s.stored store number d createdAt?).map (·.rename ρ) := by
  unfold stored
  rw [show (d.rename ρ).formatVersion = d.formatVersion from rfl]
  cases d.formatVersion with
  | none => rfl
  | some n =>
    dsimp only
    cases store n <;> rfl

theorem create_rename (ρ : Renaming) (s : Service) (number : Int) (d : Declared) :
    (s.rename ρ).create store number (d.rename ρ)
      = ((s.create store number d).1.map (·.rename ρ), (s.create store number d).2.rename ρ) := by
  unfold Service.create
  rw [requireMutable_rename]
  cases s.requireMutable number with
  | error f => rfl
  | ok v =>
    dsimp only [Except.map]
    rw [HeldVersion.hasEndpoint_rename]
    change (if v.hasEndpoint d.name then _ else _) = _
    split
    · rfl
    · rw [show (s.rename ρ).tick = s.tick.rename ρ from rfl, stored_rename]
      cases s.tick.stored store number d none with
      | error f => rfl
      | ok r =>
        dsimp only [Except.map]
        rw [HeldVersion.put_rename, setVersion_rename]
        rfl

theorem update_rename (ρ : Renaming) (s : Service) (number : Int) (name : Text) (d : Declared) :
    (s.rename ρ).update store number name (d.rename ρ)
      = ((s.update store number name d).1.map (·.rename ρ),
        (s.update store number name d).2.rename ρ) := by
  unfold Service.update
  rw [requireMutable_rename]
  cases s.requireMutable number with
  | error f => rfl
  | ok v =>
    dsimp only [Except.map]
    rw [show (v.rename ρ).endpoints = v.endpoints.map (·.rename ρ) from rfl, Stored.find?_rename]
    cases v.endpoints.find? (·.name = name) with
    | none => rfl
    | some old =>
      dsimp only [Option.map_some]
      rw [HeldVersion.erase_rename, setVersion_rename,
        show ((s.setVersion (v.erase name)).rename ρ).tick
          = (s.setVersion (v.erase name)).tick.rename ρ from rfl,
        show (old.rename ρ).createdAt = old.createdAt from rfl, stored_rename]
      cases (s.setVersion (v.erase name)).tick.stored store number d old.createdAt with
      | error f => rfl
      | ok r =>
        dsimp only [Except.map]
        rw [HeldVersion.put_rename, setVersion_rename]
        rfl

theorem delete_rename (ρ : Renaming) (s : Service) (number : Int) (name : Text) :
    (s.rename ρ).delete number name
      = ((s.delete number name).1, (s.delete number name).2.rename ρ) := by
  unfold Service.delete
  rw [requireMutable_rename]
  cases s.requireMutable number with
  | error f => rfl
  | ok v =>
    dsimp only [Except.map]
    rw [HeldVersion.hasEndpoint_rename]
    split
    · rw [HeldVersion.erase_rename, setVersion_rename]
      rfl
    · rfl

theorem lastNumber_rename (ρ : Renaming) (s : Service) :
    (s.rename ρ).lastNumber = s.lastNumber := by
  unfold lastNumber rename
  rw [foldl_map]
  rfl

theorem activeEndpoints_rename (ρ : Renaming) (s : Service) :
    (s.rename ρ).activeEndpoints = s.activeEndpoints.map (·.rename ρ) := by
  unfold activeEndpoints
  rw [show (s.rename ρ).active = s.active from rfl, version?_rename]
  cases s.version? s.active <;> rfl

theorem clone_rename (ρ : Renaming) (s : Service) :
    (s.rename ρ).clone = (s.clone.1, s.clone.2.rename ρ) := by
  unfold clone
  rw [lastNumber_rename, activeEndpoints_rename,
    show (s.rename ρ).versions = s.versions.map (·.rename ρ) from rfl, length_map]
  change (if s.maxVersions ≤ s.versions.length then _ else _) = _
  split
  · rfl
  · simp [rename, HeldVersion.rename, Stored.rename]

theorem activate_rename (ρ : Renaming) (s : Service) (number : Int) :
    (s.rename ρ).activate number = ((s.activate number).1, (s.activate number).2.rename ρ) := by
  unfold activate
  rw [requireVersion_rename]
  cases s.requireVersion number <;> rfl

theorem answer_rename (ρ : Renaming) (r : Request) (s : Service) :
    answer store (r.rename ρ) (s.rename ρ)
      = ((answer store r s).1.map (r.renameReply ρ), (answer store r s).2.rename ρ) := by
  cases r with
  | activeVersion serviceId => rfl
  | list serviceId version =>
    simp only [Request.rename, answer, requireVersion_rename]
    cases s.requireVersion version <;> rfl
  | create serviceId version d => exact create_rename ρ s version d
  | update serviceId version name d => exact update_rename ρ s version name d
  | delete serviceId version name =>
    simp only [Request.rename, answer, delete_rename]
    rcases s.delete version name with ⟨reply, s'⟩
    cases reply <;> rfl
  | clone serviceId =>
    simp only [Request.rename, answer, clone_rename]
    rcases s.clone with ⟨reply, s'⟩
    cases reply <;> rfl
  | activate serviceId version =>
    simp only [Request.rename, answer, activate_rename]
    rcases s.activate version with ⟨reply, s'⟩
    cases reply <;> rfl

/--
What a service answers to a renamed call in a renamed state is the renamed answer.
-/
theorem client_rename (ρ : Renaming) (r : Request) (s : Service) :
    client store (r.rename ρ) (s.rename ρ)
      = ((client store r s).1.map (r.renameReply ρ), (client store r s).2.rename ρ) := by
  have hfailure : (s.rename ρ).failure? (r.rename ρ) = s.failure? r := by
    unfold failure?
    rw [Request.operation_rename, Request.endpoint?_rename]
    rfl
  unfold client
  rw [hfailure, Request.serviceId_rename]
  cases s.failure? r with
  | some f => rfl
  | none =>
    change (if r.serviceId = s.serviceId then _ else _) = _
    dsimp only
    split
    · exact answer_rename ρ r s
    · rfl

end Service

end Converge
