import Converge.Config
import Mathlib.Data.List.Basic

/-!
This module contains which texts hold no surrogates, so that they can be written out. Main statement:
the id of a service that is configured can be.
-/

namespace Converge

open List

namespace Text

variable {s t : Text}

theorem isWellFormed_iff : t.isWellFormed = true ↔ ∀ c ∈ t.points, c < 0xD800 ∨ 0xDFFF < c := by
  simp only [isWellFormed, all_eq_true, Bool.not_eq_true', Bool.and_eq_false_iff,
    decide_eq_false_iff_not, Nat.not_le]

@[simp]
theorem isWellFormed_append (s t : Text) :
    (s ++ t).isWellFormed = (s.isWellFormed && t.isWellFormed) := by
  unfold isWellFormed
  rw [points_append, all_append]

theorem isWellFormed_chars (cs : List Char) : (⟨cs.map Char.toNat⟩ : Text).isWellFormed = true := by
  rw [isWellFormed_iff]
  intro n hn
  obtain ⟨c, -, rfl⟩ := mem_map.1 hn
  obtain h | h := c.valid
  · exact .inl h
  · exact .inr h.1

@[simp]
theorem isWellFormed_ofString (s : String) : (ofString s).isWellFormed = true :=
  isWellFormed_chars s.toList

end Text

namespace Numeral

@[simp]
theorem isWellFormed_ofNat (n : Nat) : (ofNat n).isWellFormed = true :=
  Text.isWellFormed_chars _

@[simp]
theorem isWellFormed_ofInt (n : Int) : (ofInt n).isWellFormed = true := by
  unfold ofInt
  split <;> simp

end Numeral

theorem Config.isWellFormed_of_serviceFaults {serviceId : Text} (h : serviceFaults serviceId = []) :
    serviceId.isWellFormed = true := by
  have hid : isServiceId serviceId = true := by
    unfold serviceFaults at h
    split at h
    · cases h
    · split at h
      · assumption
      · cases h
  unfold isServiceId at hid
  rw [Bool.and_eq_true, all_eq_true] at hid
  have hpoint {c : Nat} (h : isServiceIdPoint c = true) : c < 0xD800 := by
    simp only [isServiceIdPoint, Bool.or_eq_true, Bool.and_eq_true, decide_eq_true_eq] at h
    omega
  rw [Text.isWellFormed_iff]
  intro c hc
  left
  by_cases hlast : serviceId.points.getLast? = some 10
  · rw [if_pos hlast] at hid
    rw [← dropLast_append_getLast? 10 hlast, mem_append, mem_singleton] at hc
    obtain hc | rfl := hc
    · exact hpoint (hid.2 c hc)
    · omega
  · rw [if_neg hlast] at hid
    exact hpoint (hid.2 c hc)

end Converge
