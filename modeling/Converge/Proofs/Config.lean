import Converge.Config
import Mathlib

/-!
This module contains which configurations are made. Main statement: a configuration is made if and
only if it breaks no constraint, and otherwise all constraints that it breaks are reported in one
fault, in order. The one departure is a service id with a line break at its end, which is let pass.
-/

namespace Converge

open List

namespace Config

variable {files : Files} {c : Config} {f : ConfigFault} {IsId : Text → Prop} {t : Text}

/--
One to 64 ASCII letters, digits, underscores and hyphens.
-/
structure IsServiceId (t : Text) : Prop where
  pos : 0 < t.length
  le : t.length ≤ 64
  points : ∀ c ∈ t.points, ∃ p : Char, p.toNat = c ∧ (p.isAlphanum = true ∨ p = '_' ∨ p = '-')

/--
A service id that has a line break after it.
-/
def IsBrokenId (t : Text) : Prop :=
  ∃ id, IsServiceId id ∧ t = id ++ "\n"

/--
That a fault is of this configuration, if `IsId` holds of the service ids.
-/
def Breaks (IsId : Text → Prop) (files : Files) (c : Config) : ConfigFault → Prop
  | .serviceMissing => c.serviceId = .empty
  | .serviceMalformed id => id = c.serviceId ∧ id ≠ .empty ∧ ¬IsId id
  | .specMissing path => path = c.specPath ∧ files.isFile path = false
  | .limitOutOfRange => c.maxChanges < 1 ∨ 1000 < c.maxChanges

/--
The place of a fault among those that are reported.
-/
def rank : ConfigFault → Nat
  | .serviceMissing => 0
  | .serviceMalformed _ => 0
  | .specMissing _ => 1
  | .limitOutOfRange => 2

/--
What making a configuration has to come to, if `IsId` holds of the service ids.
-/
inductive Answers (IsId : Text → Prop) (files : Files) (c : Config) : Except Fault Config → Prop
  | accepted (hid : IsId c.serviceId) (hspec : files.isFile c.specPath = true)
    (hlimit : 1 ≤ c.maxChanges ∧ c.maxChanges ≤ 1000) : Answers IsId files c (.ok c)
  | rejected {faults : List ConfigFault} (hne : faults ≠ [])
    (hmem : ∀ f, f ∈ faults ↔ Breaks IsId files c f)
    (hsorted : faults.Pairwise fun f g => rank f < rank g) :
    Answers IsId files c (.error (.setting (.rejected faults)))

theorem isServiceIdPoint_toNat_iff (p : Char) :
    isServiceIdPoint p.toNat = true ↔ p.isAlphanum = true ∨ p = '_' ∨ p = '-' := by
  simp only [isServiceIdPoint, Char.isAlphanum, Char.isAlpha, Char.isUpper, Char.isLower,
    Char.isDigit, Char.ext_iff, ← UInt32.toNat_inj, ge_iff_le, UInt32.le_iff_toNat_le,
    Bool.or_eq_true, Bool.and_eq_true, decide_eq_true_eq, Char.toNat]
  simp
  omega

theorem isServiceIdPoint_iff {c : Nat} :
    isServiceIdPoint c = true ↔
      ∃ p : Char, p.toNat = c ∧ (p.isAlphanum = true ∨ p = '_' ∨ p = '-') := by
  constructor
  · intro h
    have hc : c < 123 := by
      simp only [isServiceIdPoint, Bool.or_eq_true, Bool.and_eq_true, decide_eq_true_eq] at h
      omega
    have hvalid : c.isValidChar := .inl (by omega)
    have htoNat : (Char.ofNat c).toNat = c := by
      rw [Char.toNat_ofNat, if_pos hvalid]
    rw [← htoNat] at h
    exact ⟨_, htoNat, (isServiceIdPoint_toNat_iff _).1 h⟩
  · rintro ⟨p, rfl, h⟩
    exact (isServiceIdPoint_toNat_iff p).2 h

theorem isServiceId_iff_of_points {cs : List Nat} :
    (1 ≤ cs.length && cs.length ≤ 64 && cs.all isServiceIdPoint) = true ↔ IsServiceId ⟨cs⟩ := by
  simp only [Bool.and_eq_true, decide_eq_true_eq, all_eq_true, isServiceIdPoint_iff]
  constructor
  · rintro ⟨⟨hpos, hle⟩, hpoints⟩
    exact ⟨hpos, hle, hpoints⟩
  · rintro ⟨hpos, hle, hpoints⟩
    exact ⟨⟨hpos, hle⟩, hpoints⟩

theorem IsServiceId.break_notMem (h : IsServiceId t) : 10 ∉ t.points := by
  intro hmem
  have hpoint := isServiceIdPoint_iff.2 (h.points 10 hmem)
  exact absurd hpoint (by decide)

/--
A service id is let pass with or without a line break after it.
-/
theorem isServiceId_iff : isServiceId t = true ↔ IsServiceId t ∨ IsBrokenId t := by
  unfold isServiceId
  dsimp only
  rw [isServiceId_iff_of_points]
  split
  next hlast =>
    obtain ⟨cs, hcs⟩ := getLast?_eq_some_iff.1 hlast
    have ht : t = ⟨cs⟩ ++ "\n" := Text.ext hcs
    rw [hcs, dropLast_concat]
    constructor
    · intro h
      exact .inr ⟨_, h, ht⟩
    · rintro (h | ⟨id, h, rfl⟩)
      · exact absurd (by rw [hcs]; simp) h.break_notMem
      · rw [Text.points_append] at hcs
        rwa [← append_cancel_right hcs]
  next hlast =>
    rw [or_iff_left]
    rintro ⟨id, -, rfl⟩
    exact hlast getLast?_concat

theorem mem_faults_iff (hid : IsId c.serviceId ↔ isServiceId c.serviceId = true) :
    f ∈ faults files c ↔ Breaks IsId files c f := by
  have hlargest : largestLimit = 1000 := rfl
  unfold faults serviceFaults specFaults limitFaults
  cases f with
  | serviceMissing => grind [Breaks, Text.isEmpty_iff]
  | serviceMalformed id => grind [Breaks, Text.isEmpty_iff]
  | specMissing path => grind [Breaks]
  | limitOutOfRange => grind [Breaks]

theorem serviceFaults_sublist (serviceId : Text) :
    ∃ f, rank f = 0 ∧ serviceFaults serviceId <+ [f] := by
  unfold serviceFaults
  split
  · exact ⟨.serviceMissing, rfl, Sublist.refl _⟩
  · refine ⟨.serviceMalformed serviceId, rfl, ?_⟩
    split
    · exact nil_sublist _
    · exact Sublist.refl _

theorem specFaults_sublist (files : Files) (path : Text) :
    specFaults files path <+ [.specMissing path] := by
  unfold specFaults
  split
  · exact nil_sublist _
  · exact Sublist.refl _

theorem limitFaults_sublist (limit : Int) : limitFaults limit <+ [.limitOutOfRange] := by
  unfold limitFaults
  split
  · exact nil_sublist _
  · exact Sublist.refl _

theorem pairwise_faults (files : Files) (c : Config) :
    (faults files c).Pairwise fun f g => rank f < rank g := by
  obtain ⟨f, hrank, hservice⟩ := serviceFaults_sublist c.serviceId
  have hfaults := (hservice.append (specFaults_sublist files c.specPath)).append
    (limitFaults_sublist c.maxChanges)
  refine Pairwise.sublist hfaults ?_
  have hspec : rank (.specMissing c.specPath) = 1 := rfl
  have hlimit : rank .limitOutOfRange = 2 := rfl
  simp [hrank, hspec, hlimit]

theorem answers_validate (hid : IsId c.serviceId ↔ isServiceId c.serviceId = true) :
    Answers IsId files c (validate files c) := by
  have hmem (f : ConfigFault) : f ∈ faults files c ↔ Breaks IsId files c f := mem_faults_iff hid
  unfold validate
  split
  next hnil =>
    -- no fault is reported, so none is to be
    have hnone (f : ConfigFault) : ¬Breaks IsId files c f := by
      rw [← hmem, hnil]
      exact not_mem_nil
    have hne : c.serviceId ≠ .empty := hnone .serviceMissing
    have hwell : ¬(c.serviceId ≠ .empty ∧ ¬IsId c.serviceId) := fun h =>
      hnone (.serviceMalformed c.serviceId) ⟨rfl, h⟩
    have hspec : files.isFile c.specPath ≠ false := fun h => hnone (.specMissing _) ⟨rfl, h⟩
    have hlimit : ¬(c.maxChanges < 1 ∨ 1000 < c.maxChanges) := hnone .limitOutOfRange
    exact .accepted (by tauto) (by simpa using hspec) (by omega)
  next hne => exact .rejected hne hmem (pairwise_faults files c)

theorem Answers.isServiceId_iff (hempty : ¬IsId .empty)
    (h : Answers IsId files c (validate files c)) :
    IsId c.serviceId ↔ isServiceId c.serviceId = true := by
  generalize hout : validate files c = outcome at h
  have hcode (f : ConfigFault) :
      f ∈ faults files c ↔ Breaks (fun t => isServiceId t = true) files c f :=
    mem_faults_iff .rfl
  unfold validate at hout
  split at hout
  next hnil =>
    cases hout
    cases h with
    | accepted hid =>
      refine iff_of_true hid ?_
      by_contra hnot
      have hmissing := (hcode .serviceMissing).not.1 (by simp [hnil])
      have hmalformed := (hcode (.serviceMalformed c.serviceId)).not.1 (by simp [hnil])
      exact hmalformed ⟨rfl, hmissing, hnot⟩
  next hne =>
    cases hout
    cases h with
    | rejected _ hmem =>
      by_cases hid : c.serviceId = .empty
      · rw [hid]
        exact iff_of_false hempty (by decide)
      · have hsame := (hmem (.serviceMalformed c.serviceId)).symm.trans (hcode _)
        simp only [Breaks, true_and, ne_eq, hid, not_false_eq_true] at hsame
        exact not_iff_not.1 hsame

/--
Making a configuration answers as it has to for service ids, but for one that has a line break after
it. That is let pass, and the other constraints are checked all the same.
-/
theorem answers_validate_iff (files : Files) (c : Config) :
    (Answers IsServiceId files c (validate files c) ↔ ¬IsBrokenId c.serviceId)
      ∧ Answers (fun t => IsServiceId t ∨ IsBrokenId t) files c (validate files c) := by
  have hempty : ¬IsServiceId .empty := fun h => absurd h.pos (by decide)
  constructor
  · have hexclusive (h : IsServiceId c.serviceId) : ¬IsBrokenId c.serviceId := by
      rintro ⟨id, -, ht⟩
      apply h.break_notMem
      rw [ht, Text.points_append]
      simp [Text.ofString]
    constructor
    · intro h hbroken
      have hid := (h.isServiceId_iff hempty).2 (Config.isServiceId_iff.2 (.inr hbroken))
      exact hexclusive hid hbroken
    · intro hbroken
      apply answers_validate
      rw [Config.isServiceId_iff, or_iff_left hbroken]
  · exact answers_validate Config.isServiceId_iff.symm

/-
The line break is let pass, where a service id has to be refused for it.
-/
theorem not_answers_trailing_break :
    let files := Files.write "spec.yaml" [] {}
    let c : Config := { serviceId := "svc-1\n", specPath := "spec.yaml" }
    IsBrokenId c.serviceId ∧ validate files c = .ok c
      ∧ ¬Answers IsServiceId files c (validate files c) := by
  intro files c
  have hid : IsServiceId "svc-1" := isServiceId_iff_of_points.1 (by decide)
  have hbroken : IsBrokenId c.serviceId := ⟨"svc-1", hid, rfl⟩
  have hvalid : validate files c = .ok c := by decide +kernel
  refine ⟨hbroken, hvalid, ?_⟩
  rw [hvalid]
  intro h
  cases h with
  | accepted hid =>
    have hmem : 10 ∈ c.serviceId.points := by decide
    exact hid.break_notMem hmem

end Config

end Converge
