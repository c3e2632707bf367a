import Converge.Value
import Mathlib.Data.List.Induction
import Mathlib.Data.List.Nodup
import Mathlib.Tactic.Tauto

/-!
This module contains what entries of a map are there after others have been put into it. Main
statements: keys keep their places and never repeat, what was put last counts, and what replaces
entries that are all there already may be put before or after others.
-/

namespace Converge.Value

open List

variable {key k : Text} {v w : Value} {e : Text × Value} {entries news : List (Text × Value)}

theorem mem_of_find? (h : find? key entries = some v) : (key, v) ∈ entries := by
  induction entries with
  | nil => cases h
  | cons e rest ih =>
    unfold find? at h
    split at h
    next hk =>
      cases h
      rw [← hk]
      exact mem_cons_self
    next => exact mem_cons_of_mem _ (ih h)

theorem find?_of_mem (h : (entries.map Prod.fst).Nodup) (he : (key, v) ∈ entries) :
    find? key entries = some v := by
  induction entries with
  | nil => cases he
  | cons e rest ih =>
    rw [map_cons, nodup_cons] at h
    obtain rfl | he := mem_cons.1 he
    · rw [find?, if_pos rfl]
    · have hne : e.1 ≠ key := by
        intro heq
        rw [heq] at h
        exact h.1 (mem_map.2 ⟨(key, v), he, rfl⟩)
      rw [find?, if_neg hne]
      exact ih h.2 he

theorem put_cons_self (key : Text) (v w : Value) (rest : List (Text × Value)) :
    put key v ((key, w) :: rest) = (key, v) :: rest :=
  if_pos rfl

theorem put_cons_of_ne (h : k ≠ key) (v w : Value) (rest : List (Text × Value)) :
    put key v ((k, w) :: rest) = (k, w) :: put key v rest :=
  if_neg h

theorem mem_put (h : e ∈ put key v entries) : e = (key, v) ∨ e ∈ entries := by
  induction entries with
  | nil => exact .inl (mem_singleton.1 h)
  | cons e' rest ih =>
    unfold put at h
    split at h
    next hk =>
      obtain h | h := mem_cons.1 h
      · exact .inl (by rw [h, hk])
      · exact .inr (mem_cons_of_mem _ h)
    next =>
      obtain rfl | h := mem_cons.1 h
      · exact .inr mem_cons_self
      · exact (ih h).imp_right (mem_cons_of_mem _)

theorem keys_put_of_mem (h : key ∈ entries.map Prod.fst) :
    (put key v entries).map Prod.fst = entries.map Prod.fst := by
  induction entries with
  | nil => cases h
  | cons e rest ih =>
    obtain ⟨k, w⟩ := e
    by_cases hk : k = key
    · rw [hk, put_cons_self]
      rfl
    · have hmem : key ∈ rest.map Prod.fst := (mem_cons.1 h).resolve_left (Ne.symm hk)
      rw [put_cons_of_ne hk, map_cons, ih hmem, map_cons]

theorem put_of_notMem (h : key ∉ entries.map Prod.fst) :
    put key v entries = entries ++ [(key, v)] := by
  induction entries with
  | nil => rfl
  | cons e rest ih =>
    rw [map_cons, mem_cons, not_or] at h
    rw [put_cons_of_ne (Ne.symm h.1), ih h.2, cons_append]

theorem mem_keys_put :
    k ∈ (put key v entries).map Prod.fst ↔ k = key ∨ k ∈ entries.map Prod.fst := by
  by_cases h : key ∈ entries.map Prod.fst
  · rw [keys_put_of_mem h, or_iff_right_of_imp]
    rintro rfl
    exact h
  · rw [put_of_notMem h, map_append, mem_append, map_singleton, mem_singleton, or_comm]

theorem nodup_put (h : (entries.map Prod.fst).Nodup) :
    ((put key v entries).map Prod.fst).Nodup := by
  by_cases hkey : key ∈ entries.map Prod.fst
  · rwa [keys_put_of_mem hkey]
  · rw [put_of_notMem hkey, map_append, map_singleton, nodup_append_comm]
    exact nodup_cons.2 ⟨hkey, h⟩

theorem putAll_concat (entries news : List (Text × Value)) (e : Text × Value) :
    putAll entries (news ++ [e]) = put e.1 e.2 (putAll entries news) :=
  foldl_append

theorem nodup_putAll (h : (entries.map Prod.fst).Nodup) (news : List (Text × Value)) :
    ((putAll entries news).map Prod.fst).Nodup := by
  induction news generalizing entries with
  | nil => exact h
  | cons e news ih => exact ih (nodup_put h)

theorem nodup_putAll_nil (news : List (Text × Value)) :
    ((putAll [] news).map Prod.fst).Nodup := by
  apply nodup_putAll
  exact nodup_nil

theorem mem_keys_putAll :
    k ∈ (putAll entries news).map Prod.fst ↔ k ∈ entries.map Prod.fst ∨ k ∈ news.map Prod.fst := by
  induction news generalizing entries with
  | nil => simp [putAll]
  | cons e news ih =>
    change k ∈ (putAll (put e.1 e.2 entries) news).map Prod.fst ↔ _
    rw [ih, mem_keys_put, map_cons, mem_cons]
    tauto

theorem mem_putAll (h : e ∈ putAll entries news) : e ∈ entries ∨ e ∈ news := by
  induction news generalizing entries with
  | nil => exact .inl h
  | cons e' news ih =>
    obtain h | h := ih h
    · exact (mem_put h).elim (fun heq => .inr (mem_cons.2 (.inl heq))) .inl
    · exact .inr (mem_cons_of_mem _ h)

/--
Keys that are new come after those that are there.
-/
theorem keys_putAll (h : (news.map Prod.fst).Nodup) :
    (putAll entries news).map Prod.fst =
      entries.map Prod.fst ++ (news.map Prod.fst).filter (· ∉ entries.map Prod.fst) := by
  induction news generalizing entries with
  | nil => simp [putAll]
  | cons e news ih =>
    rw [map_cons, nodup_cons] at h
    change (putAll (put e.1 e.2 entries) news).map Prod.fst = _
    rw [ih h.2, map_cons]
    by_cases hmem : e.1 ∈ entries.map Prod.fst
    · rw [keys_put_of_mem hmem, filter_cons_of_neg]
      simpa using hmem
    · rw [put_of_notMem hmem, filter_cons_of_pos (by simpa using hmem), map_append, map_singleton,
        append_assoc, singleton_append]
      congr 2
      refine filter_congr fun k hk => ?_
      have hne : k ≠ e.1 := ne_of_mem_of_not_mem hk h.1
      simp [hne]

theorem putAll_eq_append (h : ((entries ++ news).map Prod.fst).Nodup) :
    putAll entries news = entries ++ news := by
  induction news generalizing entries with
  | nil => rw [append_nil]; rfl
  | cons e news ih =>
    have hput : put e.1 e.2 entries = entries ++ [e] := by
      apply put_of_notMem
      rw [map_append, map_cons] at h
      intro hmem
      exact (nodup_append'.1 h).2.2 hmem mem_cons_self
    change putAll (put e.1 e.2 entries) news = _
    rw [append_cons] at h ⊢
    rw [hput, ih h]

theorem putAll_nil_of_nodup (h : (news.map Prod.fst).Nodup) : putAll [] news = news :=
  putAll_eq_append h

theorem find?_eq_none (h : key ∉ entries.map Prod.fst) : find? key entries = none := by
  induction entries with
  | nil => rfl
  | cons e rest ih =>
    have hne : key ≠ e.1 := ne_of_not_mem_cons h
    rw [find?, if_neg hne.symm, ih (not_mem_of_not_mem_cons h)]

theorem find?_putAll {news : List (Text × Value)} (h : (news.map Prod.fst).Nodup) :
    find? key (putAll entries news) = (find? key news).or (find? key entries) := by
  -- the last of two news with one key would win, but the first of them is found
  induction news generalizing entries with
  | nil => rfl
  | cons e rest ih =>
    have ⟨hnot, hrest⟩ := nodup_cons.mp h
    change find? key (putAll (Value.put e.1 e.2 entries) rest) = _
    rw [ih hrest]
    by_cases hkey : e.1 = key
    · subst hkey
      rw [find?_eq_none hnot, find?_put_self, find?, if_pos rfl, Option.none_or, Option.some_or]
    · rw [find?_put_of_ne _ _ (Ne.symm hkey), find?, if_neg hkey]

theorem find?_putAll_of_find? {news : List (Text × Value)} (h : (news.map Prod.fst).Nodup)
    (hv : find? key entries = some v) :
    find? key (putAll entries news) = some ((find? key news).getD v) := by
  rw [find?_putAll h, hv]
  cases find? key news with
  | none => rfl
  | some w => rfl

/-! ### Entries that are put before others or after them -/

theorem put_put (key : Text) (v w : Value) (entries : List (Text × Value)) :
    put key v (put key w entries) = put key v entries := by
  induction entries with
  | nil => simp [put]
  | cons e rest ih =>
    by_cases h : e.1 = key <;> simp [put, h, ih]

theorem put_comm (hne : k ≠ key) (h : key ∈ entries.map Prod.fst) :
    put k w (put key v entries) = put key v (put k w entries) := by
  induction entries with
  | nil => cases h
  | cons e rest ih =>
    by_cases hkey : e.1 = key
    · have hk : e.1 ≠ k := fun hk => hne (hk.symm.trans hkey)
      simp [put, hkey, hne.symm]
    · have hmem : key ∈ rest.map Prod.fst := (mem_cons.1 h).resolve_left (Ne.symm hkey)
      by_cases hk : e.1 = k
      · simp [put, hk, hne]
      · simp [put, hk, hkey, ih hmem]

theorem putAll_put_of_mem (hmem : key ∈ entries.map Prod.fst) (hnot : key ∉ news.map Prod.fst) :
    putAll (put key v entries) news = put key v (putAll entries news) := by
  induction news generalizing entries with
  | nil => rfl
  | cons e news ih =>
    rw [map_cons, mem_cons, not_or] at hnot
    change putAll (put e.1 e.2 (put key v entries)) news = _
    rw [put_comm (Ne.symm hnot.1) hmem, ih (mem_keys_put.2 (.inr hmem)) hnot.2]
    rfl

section

variable {f : Text → Text} {g : Value → Value}

/--
A changed key counts as put if no other key has become equal to it.
-/
theorem putAll_map_put (h : (news.map Prod.fst).Nodup)
    (hf : key ∈ news.map Prod.fst → ∀ k ∈ news.map Prod.fst, f k = f key → k = key) :
    putAll entries ((put key v news).map fun e => (f e.1, g e.2)) =
      put (f key) (g v) (putAll entries (news.map fun e => (f e.1, g e.2))) := by
  induction news generalizing entries with
  | nil => rfl
  | cons e news ih =>
    obtain ⟨k, w⟩ := e
    rw [map_cons, nodup_cons] at h
    by_cases hkey : k = key
    · subst hkey
      have hnot : f k ∉ (news.map fun e => (f e.1, g e.2)).map Prod.fst := by
        rw [map_map, mem_map]
        rintro ⟨e, he, heq⟩
        have hmem : e.1 ∈ news.map Prod.fst := mem_map_of_mem he
        rw [hf mem_cons_self e.1 (mem_cons_of_mem _ hmem) heq] at hmem
        exact h.1 hmem
      rw [put_cons_self, map_cons, map_cons]
      change putAll (put (f k) (g v) entries) _ = put (f k) (g v) (putAll (put (f k) (g w) entries) _)
      rw [← putAll_put_of_mem (mem_keys_put.2 (.inl rfl)) hnot, put_put]
    · rw [put_cons_of_ne hkey, map_cons, map_cons]
      refine ih h.2 fun hmem k' hk' => ?_
      exact hf (mem_cons_of_mem _ hmem) k' (mem_cons_of_mem _ hk')

theorem putAll_put (h : (news.map Prod.fst).Nodup) :
    putAll entries (put key v news) = put key v (putAll entries news) := by
  have hput : putAll entries ((put key v news).map id) = put key v (putAll entries (news.map id)) :=
    putAll_map_put (f := id) (g := id) h fun _ _ _ => id
  rwa [map_id, map_id] at hput

theorem putAll_putAll_nil (entries news : List (Text × Value)) :
    putAll entries (putAll [] news) = putAll entries news := by
  induction news using List.reverseRecOn with
  | nil => rfl
  | append_singleton news e ih =>
    rw [putAll_concat, putAll_concat, putAll_put (nodup_putAll_nil news), ih]

theorem putAll_map_putAll (h : (entries.map Prod.fst).Nodup) (hnews : (news.map Prod.fst).Nodup)
    (hf : ∀ key ∈ entries.map Prod.fst, ∀ k, f k = f key → k = key) :
    putAll [] ((putAll entries news).map fun e => (f e.1, g e.2)) =
      putAll (putAll [] (entries.map fun e => (f e.1, g e.2)))
        (news.map fun e => (f e.1, g e.2)) := by
  induction news using List.reverseRecOn with
  | nil => rfl
  | append_singleton news e ih =>
    rw [map_append, map_singleton, nodup_append_comm, singleton_append, nodup_cons] at hnews
    rw [putAll_concat, map_append, map_singleton, putAll_concat, ← ih hnews.2]
    apply putAll_map_put (nodup_putAll h news)
    intro hmem k _ heq
    exact hf e.1 ((mem_keys_putAll.1 hmem).resolve_right hnews.1) k heq

end

end Converge.Value
