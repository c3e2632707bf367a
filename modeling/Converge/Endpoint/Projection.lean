import Converge.Binary64.Decimal
import Converge.Fault

/-!
This module contains the passage between declared and stored endpoints. `Stored.project` is applied
before every comparison, so that what only the service knows never counts as a difference. Main
statement: a declared endpoint that is stored and projected again is itself with defaults filled in.
-/

namespace Converge

def defaultFormatVersion : Int := 2

def checkRequired (name credential : Text) : Except Fault Unit :=
  if name.isEmpty then .error (.invalidRecord Field.name.label name none)
  else if credential.isEmpty then .error (.invalidRecord Field.credential.label name none)
  else .ok ()

namespace FormatVersion

def toInt? : FormatVersion → Option Int
  | .int n => some n
  | .float x => x.toInt?
  | .text t =>
    match Numeral.readInt? 10 t with
    | some n => some n
    | none => (Binary64.read? t).bind Binary64.toInt?

end FormatVersion

namespace Declared

def check (d : Declared) : Except Fault Unit :=
  checkRequired d.name d.credential

def filled (d : Declared) : Declared :=
  { d with formatVersion := some (d.formatVersion.getD defaultFormatVersion) }

def withDefaults (d : Declared) : Except Fault Declared :=
  match d.check with
  | .ok () => .ok d.filled
  | .error e => .error e

def place (d : Declared) (serviceId : Text) (version : Int) : Except Fault Stored :=
  -- the timestamps are for the service to set
  match d.withDefaults with
  | .error e => .error e
  | .ok d =>
    .ok {
      serviceId := serviceId
      version := version
      name := d.name
      credential := d.credential
      format := d.format
      formatVersion := d.formatVersion.map .int
      placement := d.placement
      responseCondition := d.responseCondition
    }

@[simp]
theorem filled_filled (d : Declared) : d.filled.filled = d.filled := rfl

@[simp]
theorem name_filled (d : Declared) : d.filled.name = d.name := rfl

@[simp]
theorem credential_filled (d : Declared) : d.filled.credential = d.credential := rfl

end Declared

namespace Stored

def check (r : Stored) : Except Fault Unit :=
  checkRequired r.name r.credential

def projectVersion (r : Stored) : Except Fault (Option Int) :=
  match r.formatVersion with
  | none => .ok none
  | some v =>
    match v.toInt? with
    | some n => .ok (some n)
    | none =>
      .error (.invalidRecord Field.formatVersion.label r.name
        (some ("not an integer: " ++ v.toValue.literal)))

def withVersion (r : Stored) (formatVersion : Option Int) : Declared where
  name := r.name
  credential := r.credential
  format := r.format
  formatVersion := formatVersion
  placement := r.placement
  responseCondition := r.responseCondition

def project (r : Stored) : Except Fault Declared :=
  match r.check with
  | .error e => .error e
  | .ok () => (projectVersion r).map r.withVersion

end Stored

namespace Declared

def value (d : Declared) : Field → Value
  | .name => .text d.name
  | .credential => .text d.credential
  | .format => .text d.format
  | .formatVersion => optional .int d.formatVersion
  | .placement => optional .text d.placement
  | .responseCondition => optional .text d.responseCondition
where
  optional {α : Type} (f : α → Value) : Option α → Value
    | some a => f a
    | none => .null

def isUnset : Value → Bool
  | .null => true
  | .text t => t.isEmpty
  | _ => false

def attributes (d : Declared) : List (Field × Value) :=
  -- a field that is unset or empty is left out
  (Field.all.map fun f => (f, d.value f)).filter fun (_, v) => !isUnset v

end Declared

namespace Stored

def flatten : List Stored → Except Fault (List (List (Field × Value)))
  | [] => .ok []
  | r :: rest =>
    match r.project with
    | .error e => .error e
    | .ok d => (flatten rest).map (d.attributes :: ·)

end Stored

theorem checkRequired_eq_ok_iff {name credential : Text} :
    checkRequired name credential = .ok () ↔ name ≠ .empty ∧ credential ≠ .empty := by
  simp only [checkRequired]
  split
  · simp_all
  · split <;> simp_all

namespace Declared

theorem withDefaults_eq_ok_iff {d e : Declared} :
    d.withDefaults = .ok e ↔ d.check = .ok () ∧ e = d.filled := by
  unfold withDefaults
  cases h : d.check <;> simp [eq_comm]

/--
A declared endpoint that is stored and projected again is itself with defaults filled in.
-/
theorem project_of_place {d : Declared} {serviceId : Text} {version : Int} {r : Stored}
    (h : d.place serviceId version = .ok r) : r.project = d.withDefaults := by
  unfold place at h
  split at h
  · simp at h
  · next e he =>
    obtain ⟨hcheck, rfl⟩ := withDefaults_eq_ok_iff.1 he
    cases h
    rw [he]
    simp only [check] at hcheck
    simp [Stored.project, Stored.check, hcheck, Stored.projectVersion, filled,
      FormatVersion.toInt?, Except.map, Stored.withVersion]

end Declared

end Converge
