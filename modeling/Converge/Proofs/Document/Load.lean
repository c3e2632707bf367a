import Converge.Document.Load

/-!
This module contains on what the loading of a spec can stop. Main statement: if it stops then on
something about the file, and never on something about a service.
-/

namespace Converge.Document

variable {kind : DocumentKind} {files : Files} {path : Text} {e : Fault}

theorem loadSpec_eq (files : Files) (path : Text) :
    loadSpec files path =
      (readMapping .spec files path).bind fun entries => accept path (spec (.map entries)) := by
  unfold loadSpec
  cases readMapping .spec files path <;> rfl

theorem loadSnapshot_eq (files : Files) (path : Text) :
    loadSnapshot files path = (readMapping .snapshot files path).bind fun entries =>
      accept path (snapshot (.map (inherit entries))) := by
  unfold loadSnapshot
  cases readMapping .snapshot files path <;> rfl

theorem accept_eq_ok_iff {α : Type} {c : Checked α} {a : α} :
    accept path c = .ok a ↔ c = .valid a := by
  cases c with
  | valid a' => simp [accept]
  | invalid issues => simp [accept]

inductive Refusal : Fault → Prop
  | load (fault : LoadFault) : Refusal (.load fault)
  -- an error of a decoder or a number that does not fit
  | foreign (f : Foreign) : Refusal (.foreign f)

theorem refusal_of_readFile (h : readFile kind files path = .error e) : Refusal e := by
  unfold readFile at h
  split at h
  · cases h
    exact .load _
  · split at h
    · cases h
      exact .load _
    · split at h
      · cases h
        exact .load _
      · split at h
        · cases h
        · cases h
          exact .foreign _

theorem load_of_mapping {v : Value} (h : mapping kind path v = .error e) :
    ∃ fault, e = .load fault := by
  unfold mapping at h
  split at h
  · split at h
    · cases h
    · cases h
      exact ⟨_, rfl⟩
    · cases h
  · cases h
    exact ⟨_, rfl⟩

theorem refusal_of_readMapping (h : readMapping kind files path = .error e) : Refusal e := by
  unfold readMapping at h
  split at h
  · next hread =>
    cases h
    exact refusal_of_readFile hread
  · split at h
    · cases h
      exact .load _
    · cases h
      exact .foreign _
    · obtain ⟨fault, rfl⟩ := load_of_mapping h
      exact .load fault

theorem refusal_of_loadSpec (h : loadSpec files path = .error e) : Refusal e := by
  unfold loadSpec at h
  split at h
  · next hread =>
    cases h
    exact refusal_of_readMapping hread
  · unfold accept at h
    split at h
    · cases h
    · cases h
      exact .load _

end Converge.Document
