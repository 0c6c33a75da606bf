import Audience.Store
import Mathlib.Data.List.Induction
import Mathlib.Data.List.Nodup
import Mathlib.Tactic.SplitIfs

/-!
# Writing to a store

`insert` sets the predicate under one name and `erase` takes one name out; what is under the other
names stays. Inserting leaves the names as they are if the name is there and otherwise puts it at
their end, erasing leaves the others in their order. `restrict` leaves out all names but those that
are asked for: it passes over writing to the others, and commutes with writing to these.
-/

namespace Audience.Store

section Entries

variable {n m : String} {p : Predicate} {entries : List (String × Predicate)}

theorem lookup_cons_ite {k : String} {q : Predicate} :
    List.lookup m ((k, q) :: entries) = if m = k then some q else entries.lookup m := by
  by_cases hm : m = k
  · rw [if_pos hm, hm, List.lookup_cons_self]
  · rw [if_neg hm, List.lookup_cons, beq_false_of_ne hm]

theorem lookup_putEntry :
    (putEntry n p entries).lookup m = if m = n then some p else entries.lookup m := by
  induction entries with
  | nil => exact lookup_cons_ite
  | cons e entries ih =>
    obtain ⟨k, q⟩ := e
    unfold putEntry
    by_cases hk : k = n
    · rw [if_pos hk, lookup_cons_ite, lookup_cons_ite, hk]
      split_ifs <;> rfl
    · rw [if_neg hk, lookup_cons_ite, lookup_cons_ite, ih]
      by_cases hm : m = k
      · rw [if_pos hm, if_pos hm, if_neg (hm ▸ hk)]
      · rw [if_neg hm, if_neg hm]

theorem putEntry_of_not_mem (h : n ∉ entries.map (·.1)) :
    putEntry n p entries = entries ++ [(n, p)] := by
  induction entries with
  | nil => rfl
  | cons e entries ih =>
    obtain ⟨hne, hrest⟩ := not_or.1 (fun h' => h (List.mem_cons.2 h'))
    rw [putEntry, if_neg (Ne.symm hne), ih hrest, List.cons_append]

theorem keys_putEntry_of_mem (h : n ∈ entries.map (·.1)) :
    (putEntry n p entries).map (·.1) = entries.map (·.1) := by
  induction entries with
  | nil => cases h
  | cons e entries ih =>
    unfold putEntry
    by_cases hk : e.1 = n
    · rw [if_pos hk]
      rfl
    · have hrest := (List.mem_cons.1 h).resolve_left (Ne.symm hk)
      rw [if_neg hk, List.map_cons, ih hrest, List.map_cons]

theorem mem_putEntry {e : String × Predicate} (h : e ∈ putEntry n p entries) :
    e = (n, p) ∨ e ∈ entries := by
  induction entries with
  | nil => exact .inl (List.mem_singleton.1 h)
  | cons e' entries ih =>
    unfold putEntry at h
    split at h
    · rename_i hk
      rcases List.mem_cons.1 h with rfl | h
      · exact .inl (by rw [hk])
      · exact .inr (List.mem_cons_of_mem _ h)
    · rcases List.mem_cons.1 h with rfl | h
      · exact .inr List.mem_cons_self
      · exact (ih h).imp_right (List.mem_cons_of_mem _)

theorem lookup_filter_ne :
    (entries.filter fun e => e.1 ≠ n).lookup m = if m = n then none else entries.lookup m := by
  induction entries with
  | nil => simp
  | cons e entries ih =>
    obtain ⟨k, q⟩ := e
    by_cases hk : k = n
    · rw [List.filter_cons_of_neg (by simpa using hk), ih, lookup_cons_ite, hk]
      split_ifs <;> rfl
    · rw [List.filter_cons_of_pos (by simpa using hk), lookup_cons_ite, ih, lookup_cons_ite]
      by_cases hm : m = k
      · rw [if_pos hm, if_pos hm, if_neg (hm ▸ hk)]
      · rw [if_neg hm, if_neg hm]

end Entries

variable {s : Store} {n m : String} {p : Predicate}

theorem get?_insert : (s.insert p).get? n = if n = p.name then some p else s.get? n :=
  lookup_putEntry

theorem get?_erase : (s.erase n).get? m = if m = n then none else s.get? m :=
  lookup_filter_ne

theorem names_insert_of_mem (h : p.name ∈ s.names) : (s.insert p).names = s.names :=
  keys_putEntry_of_mem h

theorem names_insert_of_not_mem (h : p.name ∉ s.names) :
    (s.insert p).names = s.names ++ [p.name] := by
  rw [names, insert, putEntry_of_not_mem h, List.map_append]
  rfl

theorem mem_names_insert : n ∈ (s.insert p).names ↔ n = p.name ∨ n ∈ s.names := by
  by_cases h : p.name ∈ s.names
  · rw [names_insert_of_mem h]
    refine ⟨.inr, ?_⟩
    rintro (rfl | hn)
    · exact h
    · exact hn
  · rw [names_insert_of_not_mem h, List.mem_append, List.mem_singleton, or_comm]

theorem nodup_names_insert (h : s.names.Nodup) : (s.insert p).names.Nodup := by
  by_cases hmem : p.name ∈ s.names
  · rwa [names_insert_of_mem hmem]
  · rw [names_insert_of_not_mem hmem]
    refine List.nodup_append.2 ⟨h, List.nodup_singleton _, fun a ha b hb => ?_⟩
    rintro rfl
    exact hmem (List.mem_singleton.1 hb ▸ ha)

theorem eraseDups_append_singleton {names : List String} :
    (names ++ [n]).eraseDups = if n ∈ names then names.eraseDups else names.eraseDups ++ [n] := by
  rw [List.eraseDups_append, List.removeAll]
  split_ifs with h <;> simp [h, List.eraseDups_cons]

/-- The names of what is inserted into a new store, each at the place where it comes up first. -/
theorem names_insertAll_empty (ps : List Predicate) :
    (empty.insertAll ps).names = (ps.map Predicate.name).eraseDups := by
  induction ps using List.reverseRecOn with
  | nil => rfl
  | append_singleton ps p ih =>
    have hmem : p.name ∈ (empty.insertAll ps).names ↔ p.name ∈ ps.map Predicate.name := by
      rw [ih, List.mem_eraseDups]
    rw [insertAll, List.foldl_append, List.map_append, List.map_singleton,
      eraseDups_append_singleton]
    change ((empty.insertAll ps).insert p).names = _
    split_ifs with h
    · rw [names_insert_of_mem (hmem.2 h), ih]
    · rw [names_insert_of_not_mem (mt hmem.1 h), ih]

theorem names_erase : (s.erase n).names = s.names.filter (· ≠ n) := by
  rw [names, names, erase, List.filter_map]
  rfl

theorem mem_names_erase : m ∈ (s.erase n).names ↔ m ∈ s.names ∧ m ≠ n := by
  rw [names_erase, List.mem_filter, decide_eq_true_iff]

theorem erase_of_not_mem (h : n ∉ s.names) : s.erase n = s := by
  have hkept : s.entries.filter (fun e => e.1 ≠ n) = s.entries := by
    refine List.filter_eq_self.2 fun e he => decide_eq_true fun hn => h ?_
    exact List.mem_map.2 ⟨e, he, hn⟩
  rw [erase, hkept]

/-- What is under a name is what stands beside it, as long as no name is repeated. -/
theorem get?_eq_some_iff_mem (h : s.names.Nodup) : s.get? n = some p ↔ (n, p) ∈ s.entries := by
  obtain ⟨entries⟩ := s
  change (entries.map (·.1)).Nodup at h
  change entries.lookup n = some p ↔ (n, p) ∈ entries
  induction entries with
  | nil => simp
  | cons e entries ih =>
    obtain ⟨k, q⟩ := e
    obtain ⟨hnew, hrest⟩ := List.nodup_cons.1 h
    rw [lookup_cons_ite, List.mem_cons, Prod.mk.injEq]
    split_ifs with hn
    · subst hn
      have hnot : (n, p) ∉ entries := fun hmem => hnew (List.mem_map.2 ⟨_, hmem, rfl⟩)
      simp [hnot, eq_comm]
    · simp [hn, ih hrest]

theorem has_iff_mem_names : s.has n = true ↔ n ∈ s.names := by
  unfold has get? names
  rw [List.lookup_isSome_iff, List.mem_map]
  exact exists_congr fun e => and_congr_right fun _ => beq_iff_eq.trans eq_comm

/-- Predicates that stand under their own names. -/
theorem map_name_predicates (h : ∀ e ∈ s.entries, e.2.name = e.1) :
    s.predicates.map Predicate.name = s.names := by
  rw [predicates, names, List.map_map]
  exact List.map_congr_left h

/-! ## Some of the names -/

/-- What a store holds under the names that are asked for. -/
def restrict (keep : String → Bool) (s : Store) : Store :=
  ⟨s.entries.filter fun e => keep e.1⟩

section Restrict

variable {keep : String → Bool} {entries : List (String × Predicate)}

theorem filter_entry_pos (h : keep n = true) :
    ((n, p) :: entries).filter (fun e => keep e.1) =
      (n, p) :: entries.filter fun e => keep e.1 :=
  List.filter_cons_of_pos h

theorem filter_entry_neg (h : ¬ keep n = true) :
    ((n, p) :: entries).filter (fun e => keep e.1) = entries.filter fun e => keep e.1 :=
  List.filter_cons_of_neg h

theorem names_restrict : (s.restrict keep).names = s.names.filter keep := by
  rw [names, names, restrict, List.filter_map]
  rfl

theorem get?_restrict (h : keep n = true) : (s.restrict keep).get? n = s.get? n := by
  obtain ⟨entries⟩ := s
  change (entries.filter fun e => keep e.1).lookup n = entries.lookup n
  induction entries with
  | nil => rfl
  | cons e entries ih =>
    obtain ⟨k, q⟩ := e
    by_cases hk : keep k = true
    · rw [filter_entry_pos hk, lookup_cons_ite, lookup_cons_ite, ih]
    · have hne : n ≠ k := fun hn => hk (hn ▸ h)
      rw [filter_entry_neg hk, lookup_cons_ite, if_neg hne, ih]

/-- Writing to a name that is asked for can be done before the others are left out, or after. -/
theorem restrict_insert_of_pos (h : keep p.name = true) :
    (s.insert p).restrict keep = (s.restrict keep).insert p := by
  obtain ⟨entries⟩ := s
  refine congrArg Store.mk ?_
  change (putEntry p.name p entries).filter _ = putEntry p.name p (entries.filter _)
  induction entries with
  | nil => exact filter_entry_pos h
  | cons e entries ih =>
    obtain ⟨k, q⟩ := e
    by_cases hk : k = p.name
    · subst hk
      rw [putEntry, if_pos rfl, filter_entry_pos h, filter_entry_pos h, putEntry, if_pos rfl]
    · rw [putEntry, if_neg hk]
      by_cases hkeep : keep k = true
      · rw [filter_entry_pos hkeep, filter_entry_pos hkeep, putEntry, if_neg hk, ih]
      · rw [filter_entry_neg hkeep, filter_entry_neg hkeep, ih]

theorem restrict_insert_of_neg (h : ¬ keep p.name = true) :
    (s.insert p).restrict keep = s.restrict keep := by
  obtain ⟨entries⟩ := s
  refine congrArg Store.mk ?_
  change (putEntry p.name p entries).filter _ = entries.filter _
  induction entries with
  | nil => exact filter_entry_neg h
  | cons e entries ih =>
    obtain ⟨k, q⟩ := e
    by_cases hk : k = p.name
    · subst hk
      rw [putEntry, if_pos rfl, filter_entry_neg h, filter_entry_neg h]
    · rw [putEntry, if_neg hk, List.filter_cons, ih, List.filter_cons]

theorem restrict_erase : (s.erase n).restrict keep = (s.restrict keep).erase n := by
  refine congrArg Store.mk ?_
  change List.filter _ (s.entries.filter _) = List.filter _ (s.entries.filter _)
  rw [List.filter_filter, List.filter_filter]
  exact List.filter_congr fun e _ => Bool.and_comm _ _

theorem restrict_erase_of_neg (h : ¬ keep n = true) :
    (s.erase n).restrict keep = s.restrict keep := by
  rw [restrict_erase, erase_of_not_mem]
  rw [names_restrict, List.mem_filter]
  exact fun hmem => h hmem.2

theorem restrict_eq_empty (h : ∀ n, ¬ keep n = true) : s.restrict keep = empty :=
  congrArg Store.mk (List.filter_eq_nil_iff.2 fun e _ => h e.1)

end Restrict

end Audience.Store
