import Converge.Log.Line
import Converge.Proofs.Entries

/-!
This module contains the fields that the line of a log record shows. Main statement: every name is
there once and in its place, and each with the value that counts.
-/

namespace Converge.Log

open List

/--
The names that every line shows.
-/
def commonNames : List Text := ["timestamp", "level", "message", "logger"]

namespace Record

variable {r : Record} {key : Text}

/--
That the fields of a record have different names, none of which belongs to every record.
-/
structure Named (r : Record) : Prop where
  nodup : (r.extra.map Prod.fst).Nodup
  unreserved : ∀ field ∈ r.extra, isReserved field.1 = false

def common (now message : Text) (r : Record) : List (Text × Value) := [
    ("timestamp", .text now), ("level", .text r.level.label), ("message", .text message),
    ("logger", .text r.logger)]

def others (r : Record) : List Text :=
  (r.extra.map Prod.fst).filter (· ∉ commonNames)

/--
The names that the line of a record shows, in their order.
-/
def names (r : Record) : List Text :=
  let last : List Text :=
    if r.raised?.isSome ∧ ("exception" : Text) ∉ r.others then ["exception"] else []
  commonNames ++ r.others ++ last

/--
That `entries` show all that a record tells, and no more.
-/
structure Shows (r : Record) (now message : Text) (entries : List (Text × Value)) : Prop where
  names : entries.map Prod.fst = r.names
  nodup : (entries.map Prod.fst).Nodup
  -- a field may stand for the time, the level and the logger
  common : ∀ field ∈ r.common now message, field.1 ∉ r.extra.map Prod.fst → field ∈ entries
  -- an exception is shown rather than a field of that name
  extra : ∀ field ∈ r.extra, (field.1 = "exception" → r.raised? = none) → field ∈ entries
  raised : ∀ raised, r.raised? = some raised →
    (("exception" : Text), Value.text raised.text) ∈ entries
  message : (("message" : Text), Value.text message) ∈ entries

theorem fields_eq (h : r.Named) (now message : Text) :
    r.fields now message =
      match r.raised? with
      | some raised =>
        Value.put "exception" (.text raised.text) (Value.putAll (r.common now message) r.extra)
      | none => Value.putAll (r.common now message) r.extra := by
  have hown : (r.extra.filter fun field => !isReserved field.1) = r.extra := by
    rw [filter_eq_self]
    intro field hfield
    rw [h.unreserved field hfield]
    rfl
  unfold fields
  rw [hown]
  rfl

theorem keys_common (now message : Text) (r : Record) :
    (r.common now message).map Prod.fst = commonNames :=
  rfl

theorem nodup_keys_common (now message : Text) (r : Record) :
    ((r.common now message).map Prod.fst).Nodup := by
  rw [keys_common]
  decide

theorem keys_putAll_common (h : r.Named) (now message : Text) :
    (Value.putAll (r.common now message) r.extra).map Prod.fst = commonNames ++ r.others :=
  Value.keys_putAll h.nodup

theorem mem_append_others : ("exception" : Text) ∈ commonNames ++ r.others ↔
    ("exception" : Text) ∈ r.others := by
  have hnot : ("exception" : Text) ∉ commonNames := by decide
  rw [mem_append, or_iff_right hnot]

theorem keys_fields (h : r.Named) (now message : Text) :
    (r.fields now message).map Prod.fst = r.names := by
  have hkeys := keys_putAll_common h now message
  rw [fields_eq h]
  unfold names
  cases r.raised? with
  | none =>
    dsimp only
    rw [if_neg (fun hlast => Bool.false_ne_true hlast.1), append_nil, hkeys]
  | some raised =>
    dsimp only
    by_cases hmem : ("exception" : Text) ∈ r.others
    · rw [if_neg (fun hlast => hlast.2 hmem), append_nil, Value.keys_put_of_mem, hkeys]
      rwa [hkeys, mem_append_others]
    · rw [if_pos ⟨rfl, hmem⟩, Value.put_of_notMem, map_append, hkeys, map_singleton]
      rwa [hkeys, mem_append_others]

theorem nodup_keys_fields (h : r.Named) (now message : Text) :
    ((r.fields now message).map Prod.fst).Nodup := by
  have hall := Value.nodup_putAll (nodup_keys_common now message r) r.extra
  rw [fields_eq h]
  split
  · exact Value.nodup_put hall
  · exact hall

theorem find?_fields (h : r.Named) (now message : Text)
    (hkey : key = "exception" → r.raised? = none) :
    Value.find? key (r.fields now message) =
      (Value.find? key r.extra).or (Value.find? key (r.common now message)) := by
  rw [fields_eq h]
  split
  next raised hraised =>
    have hne : key ≠ "exception" := by
      intro heq
      rw [hkey heq] at hraised
      cases hraised
    rw [Value.find?_put_of_ne _ _ hne, Value.find?_putAll h.nodup]
  next => exact Value.find?_putAll h.nodup

theorem mem_fields_of_mem_common (h : r.Named) (now message : Text) {field : Text × Value}
    (hfield : field ∈ r.common now message) (hnot : field.1 ∉ r.extra.map Prod.fst) :
    field ∈ r.fields now message := by
  have hmem : field.1 ∈ commonNames := mem_map_of_mem hfield
  apply Value.mem_of_find?
  rw [find?_fields h, Value.find?_eq_none hnot, Option.none_or]
  · exact Value.find?_of_mem (nodup_keys_common now message r) hfield
  · intro heq
    rw [heq] at hmem
    exact absurd hmem (by decide)

theorem shows_fields (h : r.Named) (now message : Text) :
    r.Shows now message (r.fields now message) where
  names := keys_fields h now message
  nodup := nodup_keys_fields h now message
  message := by
    apply mem_fields_of_mem_common h
    · simp [Record.common]
    · intro hmem
      obtain ⟨field, hfield, hname⟩ := mem_map.1 hmem
      have hreserved : isReserved field.1 = true := by
        rw [hname]
        rfl
      rw [h.unreserved field hfield] at hreserved
      cases hreserved
  common _ := mem_fields_of_mem_common h now message
  extra field hfield hkey := by
    apply Value.mem_of_find?
    rw [find?_fields h now message hkey, Value.find?_of_mem h.nodup hfield, Option.some_or]
  raised raised hraised := by
    apply Value.mem_of_find?
    rw [fields_eq h, hraised]
    exact Value.find?_put_self _ _ _

theorem mem_fields (h : r.Named) {now message : Text} {field : Text × Value}
    (hfield : field ∈ r.fields now message) :
    field ∈ r.common now message ∨ field ∈ r.extra ∨
      ∃ raised, r.raised? = some raised ∧
        field = (("exception" : Text), Value.text raised.text) := by
  rw [fields_eq h] at hfield
  split at hfield
  next raised hraised =>
    obtain rfl | hfield := Value.mem_put hfield
    · exact .inr (.inr ⟨raised, hraised, rfl⟩)
    · exact (Value.mem_putAll hfield).imp_right .inl
  next => exact (Value.mem_putAll hfield).imp_right .inl

end Record

end Converge.Log
