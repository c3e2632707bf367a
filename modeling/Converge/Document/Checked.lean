import Converge.Document.Issue

/-!
This module contains `Checked`, the outcome of reading a part of a document. Reading goes on after
an issue, so that all of them are reported together.
-/

namespace Converge.Document

inductive Checked (α : Type)
  | valid (a : α)
  | invalid (issues : List Issue)
deriving Repr

namespace Checked

variable {α β : Type}

def issue (kind : IssueKind) : Checked α :=
  .invalid [⟨[], kind⟩]

def map (f : α → β) : Checked α → Checked β
  | .valid a => .valid (f a)
  | .invalid issues => .invalid issues

def bind (c : Checked α) (f : α → Checked β) : Checked β :=
  match c with
  | .valid a => f a
  | .invalid issues => .invalid issues

def and : Checked (α → β) → Checked α → Checked β
  | .valid f, .valid a => .valid (f a)
  | .valid _, .invalid issues => .invalid issues
  | .invalid issues, .valid _ => .invalid issues
  -- the issues of the function come first
  | .invalid issues, .invalid issues' => .invalid (issues ++ issues')

def within (key : Text) : Checked α → Checked α
  | .valid a => .valid a
  | .invalid issues => .invalid (issues.map (Issue.within key))

def list (cs : List (Checked α)) : Checked (List α) :=
  go 0 cs
where
  go (position : Nat) : List (Checked α) → Checked (List α)
    | [] => .valid []
    | c :: rest =>
      ((c.within (Numeral.ofNat position)).map (fun a as => a :: as)).and (go (position + 1) rest)

theorem map_eq_valid_iff {f : α → β} {c : Checked α} {b : β} :
    c.map f = .valid b ↔ ∃ a, c = .valid a ∧ f a = b := by
  cases c with
  | valid a => simp [map]
  | invalid issues => simp [map]

theorem bind_eq_valid_iff {f : α → Checked β} {c : Checked α} {b : β} :
    c.bind f = .valid b ↔ ∃ a, c = .valid a ∧ f a = .valid b := by
  cases c with
  | valid a => simp [bind]
  | invalid issues => simp [bind]

theorem and_eq_valid_iff {f : Checked (α → β)} {c : Checked α} {b : β} :
    f.and c = .valid b ↔ ∃ g a, f = .valid g ∧ c = .valid a ∧ g a = b := by
  cases f with
  | valid g =>
    cases c with
    | valid a => simp [and]
    | invalid issues => simp [and]
  | invalid issues =>
    cases c with
    | valid a => simp [and]
    | invalid issues => simp [and]

theorem within_eq_valid_iff {key : Text} {c : Checked α} {a : α} :
    c.within key = .valid a ↔ c = .valid a := by
  cases c with
  | valid a => simp [within]
  | invalid issues => simp [within]

theorem list_go_eq_valid_iff {position : Nat} {cs : List (Checked α)} {as : List α} :
    list.go position cs = .valid as ↔ cs = as.map .valid := by
  induction cs generalizing position as with
  | nil => cases as <;> simp [list.go]
  | cons c rest ih =>
    rw [list.go, and_eq_valid_iff]
    constructor
    · rintro ⟨g, rest', hg, hrest, rfl⟩
      obtain ⟨a, ha, rfl⟩ := map_eq_valid_iff.mp hg
      rw [List.map_cons, ← ih.mp hrest, within_eq_valid_iff.mp ha]
    · intro h
      cases as with
      | nil => cases h
      | cons a as =>
        obtain ⟨rfl, hrest⟩ := List.cons.inj h
        exact ⟨_, as, rfl, ih.mpr hrest, rfl⟩

theorem list_eq_valid_iff {cs : List (Checked α)} {as : List α} :
    list cs = .valid as ↔ cs = as.map .valid :=
  list_go_eq_valid_iff

end Checked

end Converge.Document
