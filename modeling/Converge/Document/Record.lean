import Converge.Document.Scalar
import Converge.Endpoint.Basic

/-!
This module contains the reading of endpoints, specs and snapshots from a value. A key that has two
spellings is looked up by the first of them first. Keys that mean nothing are ignored.
-/

namespace Converge.Document

structure Spec where
  serviceId : Text
  endpoints : List Declared := []
deriving DecidableEq, Inhabited, Repr

structure Snapshot where
  serviceId : Text
  version : Int
  endpoints : List Stored := []
deriving DecidableEq, Inhabited, Repr

abbrev Entries := List (Text × Value)

def firstOf? (entries : Entries) : List Text → Option (Text × Value)
  | [] => none
  | key :: keys =>
    match Value.find? key entries with
    | some v => some (key, v)
    | none => firstOf? entries keys

def required {α : Type} (entries : Entries) (keys : List Text) (read : Value → Checked α) :
    Checked α :=
  match firstOf? entries keys with
  | some (key, v) => (read v).within key
  | none => (Checked.issue .missing).within (keys.headD .empty)

def withDefault {α : Type} (entries : Entries) (keys : List Text) (default : α)
    (read : Value → Checked α) : Checked α :=
  match firstOf? entries keys with
  | some (key, v) => (read v).within key
  | none => .valid default

def record {α : Type} (shape : Shape) (read : Entries → Checked α) : Value → Checked α
  | .map entries => read entries
  | _ => .issue (.notRecord shape)

def list {α : Type} (read : Value → Checked α) : Value → Checked (List α)
  | .list items => .list (items.map read)
  | _ => .issue .notList

def formatVersionKeys : List Text :=
  ["formatVersion", "format_version"]

def responseConditionKeys : List Text :=
  ["responseCondition", "response_condition"]

def serviceIdKeys : List Text :=
  ["serviceId", "service_id"]

def declared : Value → Checked Declared :=
  record .declared fun entries =>
    (required entries ["name"] text).map Declared.mk
      |>.and (required entries ["credential"] text)
      |>.and (withDefault entries ["format"] .empty text)
      |>.and (withDefault entries formatVersionKeys none (optional integer))
      |>.and (withDefault entries ["placement"] none (optional text))
      |>.and (withDefault entries responseConditionKeys none (optional text))

def stored : Value → Checked Stored :=
  record .stored fun entries =>
    (required entries serviceIdKeys text).map Stored.mk
      |>.and (required entries ["version"] integer)
      |>.and (required entries ["name"] text)
      |>.and (required entries ["credential"] text)
      |>.and (withDefault entries ["format"] .empty text)
      |>.and (withDefault entries formatVersionKeys none (optional storedFormatVersion))
      |>.and (withDefault entries ["placement"] none (optional text))
      |>.and (withDefault entries responseConditionKeys none (optional text))
      |>.and (withDefault entries ["createdAt", "created_at"] none (optional timestamp))
      |>.and (withDefault entries ["updatedAt", "updated_at"] none (optional timestamp))

def spec : Value → Checked Spec :=
  record .spec fun entries =>
    (required entries serviceIdKeys nonEmptyText).map Spec.mk
      |>.and (withDefault entries ["endpoints"] [] (list declared))

def snapshot : Value → Checked Snapshot :=
  record .snapshot fun entries =>
    (required entries serviceIdKeys nonEmptyText).map Snapshot.mk
      |>.and (required entries ["version"] versionNumber)
      |>.and (withDefault entries ["endpoints"] [] (list stored))

theorem required_eq_valid_iff {α : Type} {entries : Entries} {keys : List Text}
    {read : Value → Checked α} {a : α} :
    required entries keys read = .valid a ↔
      ∃ key v, firstOf? entries keys = some (key, v) ∧ read v = .valid a := by
  unfold required
  cases firstOf? entries keys with
  | none => simp [Checked.issue, Checked.within]
  | some e =>
    rw [Checked.within_eq_valid_iff]
    constructor
    · intro h
      exact ⟨e.1, e.2, rfl, h⟩
    · rintro ⟨key, v, he, h⟩
      cases he
      exact h

theorem spec_map_eq_valid_iff {entries : Entries} {s : Spec} :
    spec (.map entries) = .valid s ↔
      required entries serviceIdKeys nonEmptyText = .valid s.serviceId
        ∧ withDefault entries ["endpoints"] [] (list declared) = .valid s.endpoints := by
  simp only [spec, record, Checked.and_eq_valid_iff, Checked.map_eq_valid_iff]
  constructor
  · rintro ⟨_, endpoints, ⟨serviceId, hid, rfl⟩, hendpoints, rfl⟩
    exact ⟨hid, hendpoints⟩
  · rintro ⟨hid, hendpoints⟩
    exact ⟨_, _, ⟨_, hid, rfl⟩, hendpoints, rfl⟩

theorem snapshot_map_eq_valid_iff {entries : Entries} {s : Snapshot} :
    snapshot (.map entries) = .valid s ↔
      required entries serviceIdKeys nonEmptyText = .valid s.serviceId
        ∧ required entries ["version"] versionNumber = .valid s.version
        ∧ withDefault entries ["endpoints"] [] (list stored) = .valid s.endpoints := by
  simp only [snapshot, record, Checked.and_eq_valid_iff, Checked.map_eq_valid_iff]
  constructor
  · rintro ⟨_, endpoints, ⟨_, version, ⟨serviceId, hid, rfl⟩, hversion, rfl⟩, hendpoints, rfl⟩
    exact ⟨hid, hversion, hendpoints⟩
  · rintro ⟨hid, hversion, hendpoints⟩
    exact ⟨_, _, ⟨_, _, ⟨_, hid, rfl⟩, hversion, rfl⟩, hendpoints, rfl⟩

end Converge.Document
