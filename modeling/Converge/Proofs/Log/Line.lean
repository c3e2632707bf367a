import Converge.Proofs.Json.Depth
import Converge.Proofs.Log.Fields
import Converge.Proofs.Log.Template

/-!
This module contains what is read again of the line that a log record is written as. Main statement: a
record that has a message is written as one line of printable ASCII, from which every field is read
again in its place, with the pairs of surrogates in its texts joined.
-/

namespace Converge.Log

open List

variable {message : Text} {room : Room}

theorem Record.all_interpolated {r : Record} (htemplate : r.template.All IsCodePoint)
    (hargs : ∀ v ∈ r.args, v.IsUnicode) (h : r.interpolated room = .ok message) :
    message.All IsCodePoint := by
  unfold interpolated at h
  split at h
  · cases h
    exact htemplate
  · exact Template.all_fillIn htemplate hargs h

def Raised.joined (raised : Raised) : Raised :=
  { raised with text := raised.text.joined }

namespace Record

variable {r : Record} {now : Text}

/--
What can be logged: the values of the fields have a form in JSON, and all texts are made of code
points.
-/
structure Loggable (r : Record) : Prop extends Named r where
  names : ∀ field ∈ r.extra, field.1.All IsCodePoint
  values : ∀ field ∈ r.extra, field.2.IsJson
  level : r.level.label.All IsCodePoint
  logger : r.logger.All IsCodePoint
  template : r.template.All IsCodePoint
  args : ∀ v ∈ r.args, v.IsUnicode
  raised : ∀ raised, r.raised? = some raised → raised.text.All IsCodePoint

/--
What is left of a record when all texts that its line shows have their pairs joined, the message
apart.
-/
def joined (r : Record) : Record :=
  { r with
    level := { r.level with label := r.level.label.joined }
    logger := r.logger.joined
    extra := Value.putAll [] (Value.joinedEntries r.extra)
    raised? := r.raised?.map Raised.joined }

theorem isReserved_joined (name : Text) : isReserved name.joined = isReserved name := by
  have hjoined : ∀ reserved ∈ reservedNames, name.joined = reserved ↔ name = reserved := by
    have hall : ∀ reserved ∈ reservedNames, reserved.All (· < 0xD800) := by decide
    exact fun reserved hmem => Text.joined_eq_iff (hall reserved hmem)
  unfold isReserved
  rw [Bool.eq_iff_iff, contains_iff_mem, contains_iff_mem]
  constructor
  · intro hmem
    rwa [(hjoined _ hmem).1 rfl]
  · intro hmem
    rwa [(hjoined _ hmem).2 rfl]

theorem Named.joined (h : r.Named) : r.joined.Named where
  nodup := Value.nodup_putAll_nil _
  unreserved field hfield := by
    have hmem : field ∈ Value.joinedEntries r.extra :=
      (Value.mem_putAll hfield).resolve_left not_mem_nil
    rw [Value.joinedEntries_eq] at hmem
    obtain ⟨own, hown, rfl⟩ := mem_map.1 hmem
    rw [isReserved_joined, h.unreserved own hown]

theorem joinedEntries_common (hnow : now.joined = now) (message : Text) (r : Record) :
    (r.common now message).map (fun e => (e.1.joined, e.2.joined)) =
      r.joined.common now message.joined := by
  change [_, _, _, _] = [_, _, _, _]
  simp only [Value.joined, hnow]
  rfl

theorem putAll_joinedEntries_fields (h : r.Named) (hnow : now.joined = now) (message : Text) :
    Value.putAll [] (Value.joinedEntries (r.fields now message)) =
      r.joined.fields now message.joined := by
  have hcommon := nodup_keys_common now message r
  -- the names that every line shows are ASCII, so that no other name can become equal to one of them
  have hkeys : ∀ key ∈ (r.common now message).map Prod.fst, ∀ k : Text, k.joined = key.joined →
      k = key := by
    have hnames : ∀ key ∈ commonNames, key.All (· < 0xD800) := by decide
    exact fun key hmem k => (Text.joined_inj (hnames key hmem)).1
  have hall :
      Value.putAll []
          ((Value.putAll (r.common now message) r.extra).map fun e => (e.1.joined, e.2.joined)) =
        Value.putAll (r.joined.common now message.joined) r.joined.extra := by
    rw [Value.putAll_map_putAll hcommon h.nodup hkeys, joinedEntries_common hnow,
      ← Value.joinedEntries_eq]
    unfold joined
    rw [Value.putAll_putAll_nil]
    rfl
  have hraised : r.joined.raised? = r.raised?.map Raised.joined := rfl
  rw [Value.joinedEntries_eq, fields_eq h, fields_eq h.joined, hraised]
  cases r.raised? with
  | none => exact hall
  | some raised =>
    have hexception : ("exception" : Text).All (· < 0xD800) := by decide
    dsimp only [Option.map]
    rw [Value.putAll_map_put (Value.nodup_putAll hcommon r.extra), hall]
    · rfl
    · exact fun _ k _ => (Text.joined_inj hexception).1

theorem isJson_fields (h : r.Loggable) (hnow : now.All IsCodePoint)
    (hmessage : message.All IsCodePoint) : (Value.map (r.fields now message)).IsJson := by
  have hcommon : ∀ field ∈ r.common now message, field.2.IsJson := by
    simp only [common, forall_mem_cons]
    exact ⟨.text hnow, .text h.level, .text hmessage, .text h.logger, forall_mem_nil _⟩
  have hnames : ∀ name ∈ commonNames, name.All IsCodePoint := by decide
  have hall : ∀ field ∈ r.fields now message, field.1.All IsCodePoint ∧ field.2.IsJson := by
    intro field hfield
    obtain hfield | hfield | ⟨raised, hraised, rfl⟩ := mem_fields h.toNamed hfield
    · exact ⟨hnames _ (mem_map_of_mem hfield), hcommon field hfield⟩
    · exact ⟨h.names field hfield, h.values field hfield⟩
    · exact ⟨Text.all_ofString _, .text (h.raised raised hraised)⟩
  exact .map (fun field hfield => (hall field hfield).1) fun field hfield => (hall field hfield).2

/--
That no pairs are in the texts that the line of a record shows, the message apart.
-/
structure IsWhole (r : Record) : Prop where
  level : r.level.label.IsWhole
  logger : r.logger.IsWhole
  names : ∀ field ∈ r.extra, field.1.IsWhole
  values : ∀ field ∈ r.extra, field.2.IsWhole
  raised : ∀ raised, r.raised? = some raised → raised.text.IsWhole

theorem IsWhole.joined_eq (h : r.IsWhole) (hnamed : r.Named) : r.joined = r := by
  have hextra : Value.putAll [] (Value.joinedEntries r.extra) = r.extra := by
    rw [Value.joinedEntries_eq_self h.names fun field hfield => (h.values field hfield).joined_eq,
      Value.putAll_nil_of_nodup hnamed.nodup]
  have hraised : r.raised?.map Raised.joined = r.raised? := by
    cases hraised : r.raised? with
    | none => rfl
    | some raised =>
      rw [Option.map_some, Raised.joined, Text.joined_eq_self_iff.2 (h.raised raised hraised)]
  unfold joined
  rw [Text.joined_eq_self_iff.2 h.level, Text.joined_eq_self_iff.2 h.logger, hextra, hraised]

end Record

/--
That a line is one line of ASCII, and is read as all that a record tells.
-/
structure Renders (line : Text) (r : Record) (now message : Text) : Prop where
  printable : line.All IsPrintable
  shows : ∃ entries, Json.read? line = some (.map entries) ∧ r.Shows now message entries

namespace Record

variable {r : Record} {now : Text}

theorem renders_write (h : r.Loggable) (hnow : now.All IsPrintable)
    (hmessage : message.All IsCodePoint) :
    Renders (Json.write (.map (r.fields now message))) r.joined now message.joined := by
  have hjson := isJson_fields h (hnow.mono fun _ => IsPrintable.isCodePoint) hmessage
  refine ⟨Json.all_write hjson, _, Json.read?_write hjson, ?_⟩
  rw [putAll_joinedEntries_fields h.toNamed (Text.joined_eq_of_isPrintable hnow)]
  exact shows_fields h.toNamed.joined now message.joined

theorem json_eq (hname : ("getMessage" : Text) ∉ r.extra.map Prod.fst)
    (h : r.interpolated room = .ok message) (now : Text) :
    r.json room now = Json.dump room.line (.map (r.fields now message)) := by
  have hmessage : r.message room = .ok message := by
    unfold Record.message
    rw [if_neg, h]
    simpa using hname
  unfold json
  rw [hmessage]

theorem depth_fields_le (h : r.Named) {n : Nat} (hdepth : (Value.map r.extra).depth ≤ n) :
    (Value.map (r.fields now message)).depth ≤ n := by
  have hcommon : ∀ field ∈ r.common now message, field.2.depth = 0 := by
    simp only [common, forall_mem_cons]
    exact ⟨rfl, rfl, rfl, rfl, forall_mem_nil _⟩
  rw [Value.depth_map_le_iff] at hdepth ⊢
  refine ⟨hdepth.1, fun field hfield => ?_⟩
  obtain hfield | hfield | ⟨raised, -, rfl⟩ := mem_fields h hfield
  · rw [hcommon field hfield]
    exact Nat.zero_le _
  · exact hdepth.2 field hfield
  · exact Nat.zero_le _

/--
Every record that has a message is written as one line that tells all of it, if its fields are not
nested too deep. A high surrogate that a low one follows comes back as the one code point that the two
stand for.
-/
theorem exists_json_renders (h : r.Loggable) (hnow : now.All IsPrintable)
    (hname : ("getMessage" : Text) ∉ r.extra.map Prod.fst)
    (hdepth : (Value.map r.extra).depth ≤ room.line)
    (hmessage : r.interpolated room = .ok message) :
    ∃ line, r.json room now = .ok line
      ∧ Renders line r.joined now message.joined
      ∧ (r.IsWhole → message.IsWhole → Renders line r now message) := by
  have htext := all_interpolated h.template h.args hmessage
  have hjson := isJson_fields h (hnow.mono fun _ => IsPrintable.isCodePoint) htext
  have hrenders := renders_write h hnow htext
  refine ⟨Json.write (.map (r.fields now message)), ?_, hrenders, fun hwhole htext => ?_⟩
  · rw [json_eq hname hmessage, Json.dump_eq hjson, if_pos (depth_fields_le h.toNamed hdepth)]
  · rwa [hwhole.joined_eq h.toNamed, Text.joined_eq_self_iff.2 htext] at hrenders

def midnight : Text := "2025-01-01T00:00:00Z"

/--
A record whose fields stand for the level and for the exception, with surrogates that are no pair.
-/
def retried : Record where
  level := .warning
  logger := "logsync.sync"
  template := "Attempt %02d for %r took %.1f s"
  args := [.int 2, .text "svc-1", .float .half]
  extra := [
    ("level", .text "NOTICE"),
    ("exception", .null),
    ("state", .map [
      ("counts", .list [.int (-7), .bool true]),
      ("note", .text ⟨[0xDE00, 0xD83D, 10]⟩)])]
  raised? := some (.bare "RuntimeError" "no\nanswer")

theorem loggable_retried : retried.Loggable where
  nodup := by decide
  unreserved := by decide
  names := by decide
  values := by
    simp only [retried, forall_mem_cons]
    refine ⟨.text (by decide), .null, .map (by decide) ?_, forall_mem_nil _⟩
    simp only [forall_mem_cons]
    refine ⟨.list ?_, .text (by decide), forall_mem_nil _⟩
    simp only [forall_mem_cons]
    exact ⟨.int (by decide), .bool true, forall_mem_nil _⟩
  level := by decide
  logger := by decide
  template := by decide
  args := by
    simp only [retried, forall_mem_cons]
    exact ⟨.int 2, .text (by decide), .float _, forall_mem_nil _⟩
  raised := by
    rintro _ ⟨⟩
    decide

theorem isWhole_retried : retried.IsWhole where
  level := by decide
  logger := by decide
  names := by decide
  values := by
    simp only [retried, forall_mem_cons]
    refine ⟨.text (by decide), .null, .map (by decide) (by decide) ?_, forall_mem_nil _⟩
    simp only [forall_mem_cons]
    refine ⟨.list ?_, .text (by decide), forall_mem_nil _⟩
    simp only [forall_mem_cons]
    exact ⟨.int _, .bool true, forall_mem_nil _⟩
  raised := by
    rintro _ ⟨⟩
    decide

theorem exists_json_renders_retried :
    retried.Loggable
      ∧ retried.interpolated {} = .ok "Attempt 02 for 'svc-1' took 0.5 s"
      ∧ ∃ line, retried.json {} midnight = .ok line
        ∧ Renders line retried midnight "Attempt 02 for 'svc-1' took 0.5 s" := by
  have hmessage : retried.interpolated {} = .ok "Attempt 02 for 'svc-1' took 0.5 s" := by
    decide +kernel
  have hnow : midnight.All IsPrintable := by decide
  obtain ⟨line, hline, -, hrenders⟩ :=
    exists_json_renders loggable_retried hnow (by decide) (by decide) hmessage
  exact ⟨loggable_retried, hmessage, line, hline, hrenders isWhole_retried (by decide)⟩

/--
A record that says `hi` and has one field.
-/
def greeting (name : Text) (v : Value) : Record where
  level := .info
  logger := "logsync"
  template := "hi"
  extra := [(name, v)]

/--
A record that is asked for its message by calling the text of a field.
-/
def shadowed : Record :=
  greeting "getMessage" (.text "x")

/--
A record with the two surrogates of one code point.
-/
def paired : Record :=
  greeting "face" (.text ⟨[0xD83D, 0xDE00]⟩)

/--
A record with an argument too many.
-/
def overfull : Record :=
  { greeting "face" (.text "x") with args := [.text "you"] }

/--
Lists inside one another, an empty one innermost.
-/
def nested : Nat → Value
  | 0 => .list []
  | n + 1 => .list [nested n]

/--
A record with more lists inside one another than there is room for.
-/
def deep : Record :=
  greeting "face" (nested 1000)

theorem depth_nested (n : Nat) : (nested n).depth = n + 1 := by
  induction n with
  | zero => rfl
  | succ n ih => rw [nested, Value.depth, Value.depthItems, ih, Value.depthItems, Nat.max_zero]

theorem isJson_nested (n : Nat) : (nested n).IsJson := by
  induction n with
  | zero => exact .list (forall_mem_nil _)
  | succ n ih => exact .list (forall_mem_singleton.2 ih)

theorem loggable_greeting {name : Text} {v : Value} (hreserved : isReserved name = false)
    (hname : name.All IsCodePoint) (hvalue : v.IsJson) : (greeting name v).Loggable where
  nodup := nodup_singleton name
  unreserved := forall_mem_singleton.2 hreserved
  names := forall_mem_singleton.2 hname
  values := forall_mem_singleton.2 hvalue
  level := Text.all_ofString _
  logger := Text.all_ofString _
  template := Text.all_ofString _
  args := forall_mem_nil _
  raised := by rintro _ ⟨⟩

theorem loggable_paired : paired.Loggable :=
  loggable_greeting rfl (by decide) (.text (by decide))

theorem loggable_deep : deep.Loggable :=
  loggable_greeting rfl (by decide) (isJson_nested 1000)

theorem not_renders_paired {line : Text} (h : paired.json {} midnight = .ok line) :
    ¬Renders line paired midnight "hi" := by
  have hmessage : paired.interpolated {} = .ok "hi" := rfl
  have hnow : midnight.All IsPrintable := by decide
  have hjoined : Renders line paired.joined midnight ("hi" : Text).joined := by
    obtain ⟨line', hline, hrenders, -⟩ :=
      exists_json_renders loggable_paired hnow (by decide) (by decide) hmessage
    obtain rfl : line' = line := Except.ok.inj (hline.symm.trans h)
    exact hrenders
  intro hrenders
  obtain ⟨entries, hread, hshows⟩ := hrenders.shows
  obtain ⟨entries', hread', hshows'⟩ := hjoined.shows
  rw [hread] at hread'
  cases hread'
  -- the field would be shown both as two code points and as one
  have htwo : (("face" : Text), Value.text ⟨[0xD83D, 0xDE00]⟩) ∈ entries :=
    hshows.extra _ mem_cons_self (fun _ => rfl)
  have hone : (("face" : Text), Value.text ⟨[0x1F600]⟩) ∈ entries :=
    hshows'.extra _ mem_cons_self (fun _ => rfl)
  have hfind := Value.find?_of_mem hshows.nodup htwo
  rw [Value.find?_of_mem hshows.nodup hone] at hfind
  cases hfind

theorem json_deep : deep.json {} midnight = .error .tooDeep := by
  have hmessage : deep.interpolated {} = .ok "hi" := rfl
  have hfields : (Value.map (deep.fields midnight "hi")).IsJson :=
    isJson_fields loggable_deep (by decide) (by decide)
  have hmem : (("face" : Text), nested 1000) ∈ deep.fields midnight "hi" :=
    (shows_fields loggable_deep.toNamed midnight "hi").extra _ mem_cons_self (fun _ => rfl)
  rw [json_eq (by decide) hmessage, Json.dump_eq hfields, if_neg]
  intro hdepth
  have hnested := (Value.depth_map_le_iff.1 hdepth).2 _ hmem
  rw [depth_nested] at hnested
  exact absurd hnested (by decide)

theorem not_exists_renders :
    (shadowed.Loggable ∧ shadowed.interpolated {} = .ok "hi"
        ∧ ¬∃ line, shadowed.json {} midnight = .ok line)
      ∧ (paired.Loggable ∧ paired.interpolated {} = .ok "hi"
        ∧ ¬∃ line, paired.json {} midnight = .ok line ∧ Renders line paired midnight "hi")
      ∧ (deep.Loggable ∧ deep.interpolated {} = .ok "hi"
        ∧ ¬∃ line, deep.json {} midnight = .ok line)
      ∧ (overfull.Loggable ∧ ¬∃ line, overfull.json {} midnight = .ok line) := by
  have htext : (Value.text "x").IsJson := .text (by decide)
  have hgreeting : (greeting "face" (.text "x")).Loggable :=
    loggable_greeting rfl (by decide) htext
  have hoverfull : overfull.Loggable :=
    { hgreeting with args := forall_mem_singleton.2 (.text (by decide)) }
  refine ⟨⟨loggable_greeting rfl (by decide) htext, rfl, ?_⟩, ⟨loggable_paired, rfl, ?_⟩,
    ⟨loggable_deep, rfl, ?_⟩, hoverfull, ?_⟩
  · rintro ⟨line, ⟨⟩⟩
  · rintro ⟨line, hline, hrenders⟩
    exact not_renders_paired hline hrenders
  · rintro ⟨line, hline⟩
    rw [json_deep] at hline
    cases hline
  · rintro ⟨line, ⟨⟩⟩

end Record

end Converge.Log
