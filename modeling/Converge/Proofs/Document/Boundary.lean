import Converge.Proofs.Document.Load
import Converge.Proofs.Yaml.Content
import Mathlib.Data.List.Basic

/-!
This module contains what the loading of a file may come to. Main statement: it comes to a valid
document or to a fault of loading if and only if the file is digestible, that is its octets are UTF-8
and everything in it fits its tag. Where it comes to anything else, that is one of a few faults which
a decoder leaves behind.
-/

namespace Converge.Document

variable {kind : DocumentKind} {files : Files} {path : Text} {octets : List UInt8} {e : Fault}
  {α : Type} {P : α → Prop}

/--
That loading comes to a document of which `P` holds, or to a fault of loading.
-/
def Contained (P : α → Prop) (outcome : Except Fault α) : Prop :=
  (∃ document, outcome = .ok document ∧ P document) ∨ ∃ fault, outcome = .error (.load fault)

def Spec.IsValid (s : Spec) : Prop :=
  s.serviceId.isWellFormed ∧ ¬s.serviceId.isEmpty

def Snapshot.IsValid (s : Snapshot) : Prop :=
  (s.serviceId.isWellFormed ∧ ¬s.serviceId.isEmpty) ∧ 1 ≤ s.version

/--
That octets are read at a path: those of a file that is not too large, or those of a stream.
-/
inductive Reads (files : Files) (path : Text) (octets : List UInt8) : Prop
  | file (hfind : files.find? path = some (.file octets)) (hsize : octets.length ≤ maxFileSize)
  | stream (hfind : files.find? path = some (.stream octets))

/--
That the octets of a file are UTF-8 and that what they spell is YAML whose values fit their tags, or
is malformed as YAML. A file that is not there or not read is digestible.
-/
def Digestible (files : Files) (path : Text) : Prop :=
  ∀ octets, Reads files path octets →
    ∃ t, Utf8.decode? octets = some t ∧ ∀ f, Yaml.read (normalizeBreaks t) ≠ .error (.foreign f)

/--
The faults that loading stops at. All but the first are faults that a decoder leaves behind.
-/
inductive Stop : Fault → Prop
  | load (fault : LoadFault) : Stop (.load fault)
  | undecodable : Stop (.foreign .undecodable)
  | misfit {f : Foreign} (h : Yaml.Misfit f) : Stop (.foreign f)

theorem isValid_of_spec {entries : Entries} {s : Spec} (h : spec (.map entries) = .valid s) :
    s.IsValid := by
  obtain ⟨hid, -⟩ := spec_map_eq_valid_iff.mp h
  obtain ⟨_, _, -, htext⟩ := required_eq_valid_iff.mp hid
  exact (nonEmptyText_eq_valid_iff.mp htext).2

theorem isValid_of_snapshot {entries : Entries} {s : Snapshot}
    (h : snapshot (.map entries) = .valid s) : s.IsValid := by
  obtain ⟨hid, hversion, -⟩ := snapshot_map_eq_valid_iff.mp h
  obtain ⟨_, _, -, htext⟩ := required_eq_valid_iff.mp hid
  obtain ⟨_, _, -, hnumber⟩ := required_eq_valid_iff.mp hversion
  exact ⟨(nonEmptyText_eq_valid_iff.mp htext).2, (versionNumber_eq_valid_iff.mp hnumber).2⟩

theorem readFile_of_reads (h : Reads files path octets) :
    readFile kind files path =
      match Utf8.decode? octets with
      | some t => .ok (normalizeBreaks t)
      | none => .error (.foreign .undecodable) := by
  unfold readFile
  cases h with
  | file hfind hsize =>
    rw [hfind]
    exact if_neg (Nat.not_lt.mpr hsize)
  | stream hfind =>
    rw [hfind]
    rfl

theorem reads_or_load (kind : DocumentKind) (files : Files) (path : Text) :
    (∃ octets, Reads files path octets) ∨ ∃ fault, readFile kind files path = .error (.load fault) := by
  unfold readFile
  cases hfind : files.find? path with
  | none => exact .inr ⟨.notFound kind path, rfl⟩
  | some entry =>
    cases entry with
    | directory => exact .inr ⟨.directory kind path, rfl⟩
    | stream octets => exact .inl ⟨octets, .stream hfind⟩
    | file octets =>
      by_cases hsize : octets.length ≤ maxFileSize
      · exact .inl ⟨octets, .file hfind hsize⟩
      · exact .inr ⟨.tooLarge kind path maxFileSize, if_pos (Nat.not_le.mp hsize)⟩

theorem readFile_eq_foreign_iff {f : Foreign} :
    readFile kind files path = .error (.foreign f) ↔
      f = .undecodable ∧ ∃ octets, Reads files path octets ∧ Utf8.decode? octets = none := by
  constructor
  · intro h
    obtain ⟨octets, hreads⟩ | ⟨fault, hload⟩ := reads_or_load kind files path
    · rw [readFile_of_reads hreads] at h
      split at h
      next => cases h
      next hdecode =>
        cases h
        exact ⟨rfl, octets, hreads, hdecode⟩
    · rw [hload] at h
      cases h
  · rintro ⟨rfl, octets, hreads, hdecode⟩
    rw [readFile_of_reads hreads, hdecode]

theorem readFile_eq_ok_iff {t : Text} :
    readFile kind files path = .ok t ↔
      ∃ octets raw, Reads files path octets ∧ Utf8.decode? octets = some raw
        ∧ normalizeBreaks raw = t := by
  constructor
  · intro h
    obtain ⟨octets, hreads⟩ | ⟨fault, hload⟩ := reads_or_load kind files path
    · rw [readFile_of_reads hreads] at h
      split at h
      next raw hdecode =>
        cases h
        exact ⟨octets, raw, hreads, hdecode, rfl⟩
      next => cases h
    · rw [hload] at h
      cases h
  · rintro ⟨octets, raw, hreads, hdecode, rfl⟩
    rw [readFile_of_reads hreads, hdecode]

theorem stop_of_readFile (h : readFile kind files path = .error e) : Stop e := by
  cases refusal_of_readFile h with
  | load fault => exact .load fault
  | foreign f =>
    obtain ⟨rfl, -⟩ := readFile_eq_foreign_iff.mp h
    exact .undecodable

theorem stop_of_readMapping (h : readMapping kind files path = .error e) : Stop e := by
  unfold readMapping at h
  split at h
  next hread =>
    cases h
    exact stop_of_readFile hread
  next =>
    split at h
    next =>
      cases h
      exact .load _
    next hread =>
      cases h
      exact .misfit ((Yaml.tame_read _).of_error hread)
    next =>
      obtain ⟨fault, rfl⟩ := load_of_mapping h
      exact .load fault

/--
A file is digestible if and only if its mapping is read without a fault of a decoder.
-/
theorem digestible_iff (kind : DocumentKind) (files : Files) (path : Text) :
    Digestible files path ↔ ∀ f, readMapping kind files path ≠ .error (.foreign f) := by
  constructor
  · intro h f hf
    unfold readMapping at hf
    split at hf
    next hread =>
      cases hf
      obtain ⟨-, octets, hreads, hnone⟩ := readFile_eq_foreign_iff.mp hread
      obtain ⟨t, hsome, -⟩ := h octets hreads
      cases hnone.symm.trans hsome
    next t hread =>
      obtain ⟨octets, raw, hreads, hsome, rfl⟩ := readFile_eq_ok_iff.mp hread
      obtain ⟨t, hsome', hyaml⟩ := h octets hreads
      cases hsome.symm.trans hsome'
      split at hf
      · cases hf
      next f' hforeign => exact hyaml f' hforeign
      · obtain ⟨fault, heq⟩ := load_of_mapping hf
        cases heq
  · intro h octets hreads
    cases hdecode : Utf8.decode? octets with
    | none =>
      refine absurd ?_ (h .undecodable)
      unfold readMapping
      rw [readFile_eq_foreign_iff.mpr ⟨rfl, octets, hreads, hdecode⟩]
    | some t =>
      refine ⟨t, rfl, fun f hforeign => h f ?_⟩
      unfold readMapping
      rw [readFile_eq_ok_iff.mpr ⟨octets, t, hreads, hdecode, rfl⟩]
      simp only [hforeign]

/--
A loader reads a mapping and accepts what it stands for, if that is valid.
-/
theorem contained_iff {read : Entries → Checked α}
    (hread : ∀ {entries a}, read entries = .valid a → P a) :
    Contained P ((readMapping kind files path).bind fun entries => accept path (read entries)) ↔
      Digestible files path := by
  rw [digestible_iff kind]
  cases hmapping : readMapping kind files path with
  | error e =>
    cases stop_of_readMapping hmapping with
    | load fault => simp [Contained, Except.bind]
    | undecodable => simp [Contained, Except.bind]
    | misfit h => simp [Contained, Except.bind]
  | ok entries =>
    cases hvalid : read entries with
    | valid a => simp [Contained, Except.bind, accept, hvalid, hread hvalid]
    | invalid issues => simp [Contained, Except.bind, accept, hvalid]

theorem stop_of_load {read : Entries → Checked α}
    (h : ((readMapping kind files path).bind fun entries => accept path (read entries)) = .error e) :
    Stop e := by
  cases hmapping : readMapping kind files path with
  | error e' =>
    rw [hmapping] at h
    cases h
    exact stop_of_readMapping hmapping
  | ok entries =>
    rw [hmapping] at h
    change accept path (read entries) = .error e at h
    unfold accept at h
    split at h
    · cases h
    · cases h
      exact .load _

/--
Whatever stands at a path, both loaders come to a valid document or to a fault of loading if and only
if it is digestible; and where they come to neither, a decoder has left a fault of its own behind.
-/
theorem contained_iff_digestible (files : Files) (path : Text) :
    (Contained Spec.IsValid (loadSpec files path) ↔ Digestible files path)
      ∧ (Contained Snapshot.IsValid (loadSnapshot files path) ↔ Digestible files path)
      ∧ (∀ e, loadSpec files path = .error e → Stop e)
      ∧ ∀ e, loadSnapshot files path = .error e → Stop e := by
  rw [loadSpec_eq, loadSnapshot_eq]
  refine ⟨?_, ?_, ?_, ?_⟩
  · exact contained_iff isValid_of_spec
  · exact contained_iff isValid_of_snapshot
  · exact fun e h => stop_of_load h
  · exact fun e h => stop_of_load h

/-
A date that no month has, in an entry that nothing looks at.
-/
theorem not_contained_impossible_date :
    let files := Files.write "f.yaml"
      ("serviceId: s\nx: 2024-02-30\n".toList.map fun c => UInt8.ofNat c.toNat) {}
    ¬Contained Spec.IsValid (loadSpec files "f.yaml")
      ∧ ¬Contained Snapshot.IsValid (loadSnapshot files "f.yaml") := by
  intro files
  have hspec : loadSpec files "f.yaml" = .error (.foreign .malformedScalar) := by decide +kernel
  have hsnapshot : loadSnapshot files "f.yaml" = .error (.foreign .malformedScalar) := by
    decide +kernel
  rw [hspec, hsnapshot]
  simp [Contained]

end Converge.Document
