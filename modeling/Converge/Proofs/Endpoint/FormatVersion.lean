import Converge.Endpoint.Projection
import Converge.Proofs.Binary64.Literal

/-!
This module contains what stored format versions are projected to. Main statement: a decimal literal
is read as the rational number that it denotes, with one departure: what is not a numeral of an
integer is rounded to a floating point number before it is asked whether it is whole.
-/

namespace Converge

open Binary64

variable {r : Stored} {l : Literal} {n : ℤ} {q : ℚ}

namespace FormatVersion

/--
A literal that is not a numeral is read as a floating point number.
-/
theorem toInt?_literal_eq_some_iff :
    (FormatVersion.text l.text).toInt? = some n ↔
      l.IsNumeral ∧ l.value = n ∨ ¬l.IsNumeral ∧ RoundsTo l.value n := by
  unfold toInt?
  dsimp only
  by_cases hnumeral : l.IsNumeral
  · rw [l.readInt?_text hnumeral, hnumeral.value_eq]
    simp [hnumeral]
  · obtain ⟨x, hread, hrounds⟩ := l.exists_read?_text
    rw [l.readInt?_text_eq_none hnumeral, hread, Option.bind_some]
    simp [hnumeral, hrounds.toInt?_eq_some_iff l.value_signed]

end FormatVersion

namespace Stored

/--
That the format version of an endpoint is projected to `q` if it is a whole number, and that it is
refused if it is not.
-/
structure ReadExactly (r : Stored) (q : ℚ) : Prop where
  value : ∀ n : ℤ, (∃ d, r.project = .ok d ∧ d.formatVersion = some n) ↔ q = n
  refusal :
    (∃ reason, r.project = .error (.invalidRecord Field.formatVersion.label r.name reason)) ↔
      ∀ n : ℤ, q ≠ n

/--
What an endpoint is projected to whose format version is a literal.
-/
inductive ProjectsLiteral (r : Stored) (l : Literal) : Except Fault Declared → Prop
  | numeral {n : ℤ} (h : l.IsNumeral) (hvalue : l.value = n) :
    ProjectsLiteral r l (.ok (r.withVersion (some n)))
  | rounded {n : ℤ} (h : ¬l.IsNumeral) (hvalue : RoundsTo l.value n) :
    ProjectsLiteral r l (.ok (r.withVersion (some n)))
  | refused (h : ¬l.IsNumeral) (hvalue : ∀ n, ¬RoundsTo l.value n) :
    ProjectsLiteral r l (.error (.invalidRecord Field.formatVersion.label r.name
      (some ("not an integer: " ++ (FormatVersion.text l.text).toValue.literal))))

theorem check_eq_ok (hname : r.name ≠ .empty) (hcredential : r.credential ≠ .empty) :
    r.check = .ok () :=
  checkRequired_eq_ok_iff.2 ⟨hname, hcredential⟩

theorem projectsLiteral_project (hcheck : r.check = .ok ())
    (hversion : r.formatVersion = some (.text l.text)) : ProjectsLiteral r l r.project := by
  unfold project projectVersion
  rw [hcheck, hversion]
  dsimp only
  split
  next n hn =>
    obtain ⟨hnumeral, hvalue⟩ | ⟨hnumeral, hvalue⟩ := FormatVersion.toInt?_literal_eq_some_iff.1 hn
    · exact .numeral hnumeral hvalue
    · exact .rounded hnumeral hvalue
  next hnone =>
    have hnot (n : ℤ) : ¬(l.IsNumeral ∧ l.value = n ∨ ¬l.IsNumeral ∧ RoundsTo l.value n) := by
      rw [← FormatVersion.toInt?_literal_eq_some_iff, hnone]
      nofun
    have hnumeral : ¬l.IsNumeral := fun h => hnot _ (.inl ⟨h, h.value_eq⟩)
    exact .refused hnumeral fun n h => hnot n (.inr ⟨hnumeral, h⟩)

theorem readExactly_iff_of_ok (h : r.project = .ok (r.withVersion (some n))) :
    ReadExactly r q ↔ q = n := by
  constructor
  · intro hexact
    exact (hexact.value n).1 ⟨_, h, rfl⟩
  · rintro rfl
    constructor
    · intro m
      rw [h]
      simp [withVersion]
    · rw [h]
      simp

theorem readExactly_iff_of_error {reason : Option Text}
    (h : r.project = .error (.invalidRecord Field.formatVersion.label r.name reason)) :
    ReadExactly r q ↔ ∀ n : ℤ, q ≠ n := by
  constructor
  · intro hexact
    exact hexact.refusal.1 ⟨_, h⟩
  · intro hne
    constructor
    · intro n
      rw [h]
      simp [hne n]
    · simp [h, hne]

/--
A literal is read exactly if it is a numeral, if it denotes an integer of at most 53 bits before its
zeros, or if it denotes no integer and is not near enough to one to be rounded to it.
-/
theorem projectsLiteral_and_readExactly_iff (hname : r.name ≠ .empty)
    (hcredential : r.credential ≠ .empty) (hversion : r.formatVersion = some (.text l.text)) :
    ProjectsLiteral r l r.project
      ∧ (ReadExactly r l.value ↔
        l.IsNumeral
          ∨ (∃ n : ℤ, l.value = n ∧ Representable n.natAbs ∧ n.natAbs < 2 ^ 1024)
          ∨ ∀ n : ℤ, l.value ≠ n ∧ ¬RoundsTo l.value n) := by
  have hproject := projectsLiteral_project (check_eq_ok hname hcredential) hversion
  refine ⟨hproject, ?_⟩
  generalize hresult : r.project = result at hproject
  cases hproject with
  | numeral hnumeral hvalue =>
    rw [readExactly_iff_of_ok hresult]
    exact iff_of_true hvalue (.inl hnumeral)
  | @rounded n hnumeral hrounds =>
    rw [readExactly_iff_of_ok hresult]
    constructor
    · intro hvalue
      rw [hvalue] at hrounds
      exact .inr (.inl ⟨n, hvalue, roundsTo_self_iff.1 hrounds⟩)
    · rintro (h | ⟨m, hvalue, hm⟩ | h)
      · exact absurd h hnumeral
      · rw [hvalue] at hrounds ⊢
        rw [hrounds.unique (roundsTo_self_iff.2 hm)]
      · exact absurd hrounds (h n).2
  | refused hnumeral hrounds =>
    rw [readExactly_iff_of_error hresult]
    constructor
    · intro hne
      exact .inr (.inr fun n => ⟨hne n, hrounds n⟩)
    · rintro (h | ⟨m, hvalue, hm⟩ | h)
      · exact absurd h hnumeral
      · have hself := roundsTo_self_iff.2 hm
        rw [← hvalue] at hself
        exact absurd hself (hrounds m)
      · exact fun n => (h n).1

/--
An endpoint whose format version is stored as this text.
-/
def ofVersionText (t : Text) : Stored where
  serviceId := "svc-1"
  version := 1
  name := "a"
  credential := "key"
  formatVersion := some (.text t)

/- An exponent may make a whole number of a literal with a fraction. -/
theorem readExactly_exponent :
    let l : Literal :=
      { sign := .minus
        whole := .ofNat 12
        fraction := some (.ofNat 50)
        exponent := some ⟨false, .none, .ofNat 1, Numeral.Digits.ofNat_ne_nil _⟩
        nonempty := Numeral.Digits.ofNat_ne_nil _ }
    l.text = "-12.50e1" ∧ l.value = (-125 : ℤ)
      ∧ ReadExactly (ofVersionText "-12.50e1") (-125 : ℤ) := by
  intro l
  have htext : l.text = "-12.50e1" := by decide +kernel
  have hvalue : l.value = (-125 : ℤ) := by decide +kernel
  refine ⟨htext, hvalue, ?_⟩
  have h := projectsLiteral_and_readExactly_iff (r := ofVersionText "-12.50e1") (l := l)
    (by decide) (by decide) (by rw [htext]; rfl)
  rw [← hvalue]
  refine h.2.2 (.inr (.inl ⟨-125, hvalue, ⟨125, 0, by decide, by decide⟩, ?_⟩))
  decide +kernel

/- The number `2 ^ 53 + 1` has 54 bits, so that it is read as the even one of its neighbours. -/
theorem not_readExactly_rounded :
    let l : Literal :=
      { sign := .none
        whole := .ofNat 9007199254740993
        fraction := some (.ofNat 0)
        exponent := none
        nonempty := Numeral.Digits.ofNat_ne_nil _ }
    l.text = "9007199254740993.0" ∧ l.value = (9007199254740993 : ℤ)
      ∧ ¬ReadExactly (ofVersionText "9007199254740993.0") (9007199254740993 : ℤ) := by
  refine ⟨by decide +kernel, by decide +kernel, ?_⟩
  intro h
  have hread : (ofVersionText "9007199254740993.0").project =
      .ok ((ofVersionText "9007199254740993.0").withVersion (some 9007199254740992)) := by
    decide +kernel
  have hvalue := (h.value 9007199254740992).1 ⟨_, hread, rfl⟩
  exact absurd hvalue (by decide +kernel)

end Stored

end Converge
