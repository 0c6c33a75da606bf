import Audience.Proofs.Store.Runs

/-!
# Batches

`loadAll` makes every segment of a batch ready before it writes the first, so a batch is loaded
whole or not at all. A batch that is loaded comes to the same as loading its segments one after
another (`forM segments load`): both insert the same predicates in the same order. A batch that is
refused tells what is wrong with the first of its segments that cannot be made ready.
-/

namespace Audience.Store

variable {segments : List Segment} {s s' : Store} {ps : List Predicate} {names : List String}
  {e : Error}

/-! ## Making a batch ready -/

theorem exists_ofSegments_iff :
    (∃ ps, Predicate.ofSegments segments = .ok ps) ↔
      ∀ segment ∈ segments, ∃ p, Predicate.ofSegment segment = .ok p := by
  constructor
  · rintro ⟨ps, hps⟩ segment hmem
    obtain ⟨p, -, hp⟩ := exists_right_of_mem (mapM_eq_ok_iff.1 hps) hmem
    exact ⟨p, hp⟩
  · intro hall
    rcases h : Predicate.ofSegments segments with e | ps
    · obtain ⟨before, segment, after, rfl, -, hfails⟩ := mapM_eq_error_iff.1 h
      obtain ⟨p, hp⟩ := hall segment (by simp)
      simp [hp] at hfails
    · exact ⟨ps, rfl⟩

theorem names_of_ofSegments (h : Predicate.ofSegments segments = .ok ps) :
    ps.map Predicate.name = segments.map fun segment => segment.name := by
  have hready := mapM_eq_ok_iff.1 h
  clear h
  induction hready with
  | nil => rfl
  | cons hp _ ih => rw [List.map_cons, List.map_cons, ih, name_of_ofSegment hp]

/-! ## Loading -/

/-- Loading segments one after another inserts them made ready, in their order. -/
theorem on_forM_load_eq_ok_iff :
    (forM segments load).on s = (.ok (), s') ↔
      ∃ ps, Predicate.ofSegments segments = .ok ps ∧ s' = s.insertAll ps := by
  simp only [Predicate.ofSegments, mapM_eq_ok_iff]
  induction segments generalizing s with
  | nil =>
    rw [List.forM_nil, Action.on_pure]
    simp [insertAll, eq_comm]
  | cons segment segments ih =>
    rw [List.forM_cons, Action.on_bind, on_load]
    rcases hready : Predicate.ofSegment segment with e | p
    · simp [hready, List.forall₂_cons_left_iff]
    · simp only [hready, ih, List.forall₂_cons_left_iff, Except.ok.injEq]
      constructor
      · rintro ⟨ps, hps, rfl⟩
        exact ⟨p :: ps, ⟨p, ps, rfl, hps, rfl⟩, rfl⟩
      · rintro ⟨_, ⟨_, ps, rfl, hps, rfl⟩, rfl⟩
        exact ⟨ps, hps, rfl⟩

/-- Loading a batch inserts its segments made ready, in their order, and there must be one. -/
theorem on_loadAll_eq_ok_iff :
    (loadAll segments).on s = (.ok names, s') ↔
      segments ≠ [] ∧ ∃ ps, Predicate.ofSegments segments = .ok ps ∧
        names = ps.map Predicate.name ∧ s' = s.insertAll ps := by
  rw [on_loadAll]
  rcases segments with _ | ⟨segment, segments⟩
  · simp
  · rcases Predicate.ofSegments (segment :: segments) with e | ps
    · simp
    · simp [eq_comm]

/-- A batch that is refused leaves the store as it is. It is empty, or it has a segment that cannot
be made ready. -/
theorem on_loadAll_eq_error_iff :
    (loadAll segments).on s = (.error e, s') ↔
      s' = s ∧ (segments = [] ∧ e = .noSegments ∨ Predicate.ofSegments segments = .error e) := by
  rw [on_loadAll]
  rcases segments with _ | ⟨segment, segments⟩
  · have hnone : Predicate.ofSegments [] ≠ .error e := by
      simp [Predicate.ofSegments, pure, Except.pure]
    simp [hnone, eq_comm, and_comm]
  · rcases Predicate.ofSegments (segment :: segments) with e' | ps
    · simp [eq_comm, and_comm]
    · simp

theorem ofSegments_eq_ok_iff :
    ofSegments segments = .ok s ↔
      segments ≠ [] ∧ ∃ ps, Predicate.ofSegments segments = .ok ps ∧ s = empty.insertAll ps := by
  rcases hload : (loadAll segments).on empty with ⟨e | names, s'⟩
  · have hfails := (on_loadAll_eq_error_iff.1 hload).2
    unfold ofSegments
    rw [hload]
    refine iff_of_false (fun h => by cases h) ?_
    rintro ⟨hne, ps, hps, -⟩
    rcases hfails with ⟨rfl, -⟩ | hfails
    · exact hne rfl
    · cases hps.symm.trans hfails
  · obtain ⟨hne, ps, hps, -, rfl⟩ := on_loadAll_eq_ok_iff.1 hload
    unfold ofSegments
    rw [hload]
    simp [Except.map, hne, hps, eq_comm]

/-- A new store has each name at the place where it comes up first. -/
theorem names_of_ofSegments_eq_ok (h : ofSegments segments = .ok s) :
    s.names = (segments.map fun segment => segment.name).eraseDups := by
  obtain ⟨-, ps, hps, rfl⟩ := ofSegments_eq_ok_iff.1 h
  rw [names_insertAll_empty, names_of_ofSegments hps]

/-- A batch is loaded exactly if it has a segment and all of them can be made ready. It then answers
with the names of its segments, and leaves the store as loading them one after another does.
Otherwise the store stays as it is, and the answer is the error of the first segment that cannot be
made ready. A store of given segments is a new store that they are loaded into. -/
theorem loadAll_atomic (segments : List Segment) (s : Store) :
    ((∃ names s', (loadAll segments).on s = (.ok names, s')) ↔
        segments ≠ [] ∧ ∀ segment ∈ segments, ∃ p, Predicate.ofSegment segment = .ok p) ∧
      (∀ names s', (loadAll segments).on s = (.ok names, s') ↔
        segments ≠ [] ∧ names = segments.map (fun segment => segment.name) ∧
          (forM segments load).on s = (.ok (), s')) ∧
      (∀ e s', (loadAll segments).on s = (.error e, s') ↔
        s' = s ∧ (segments = [] ∧ e = .noSegments ∨
          ∃ before segment after, segments = before ++ segment :: after ∧
            (∀ b ∈ before, ∃ p, Predicate.ofSegment b = .ok p) ∧
            Predicate.ofSegment segment = .error e)) ∧
      (∀ s', ofSegments segments = .ok s' ↔
        ∃ names, (loadAll segments).on empty = (.ok names, s')) ∧
      ∀ e, ofSegments segments = .error e ↔ ∃ s', (loadAll segments).on empty = (.error e, s') := by
  refine ⟨?_, fun names s' => ?_, fun e s' => ?_, fun s' => ?_, fun e => ?_⟩
  · simp only [on_loadAll_eq_ok_iff, ← exists_ofSegments_iff]
    constructor
    · rintro ⟨names, s', hne, ps, hps, -⟩
      exact ⟨hne, ps, hps⟩
    · rintro ⟨hne, ps, hps⟩
      exact ⟨ps.map Predicate.name, s.insertAll ps, hne, ps, hps, rfl, rfl⟩
  · rw [on_loadAll_eq_ok_iff, on_forM_load_eq_ok_iff]
    refine and_congr_right fun _ => ?_
    constructor
    · rintro ⟨ps, hps, rfl, rfl⟩
      exact ⟨names_of_ofSegments hps, ps, hps, rfl⟩
    · rintro ⟨rfl, ps, hps, rfl⟩
      exact ⟨ps, hps, (names_of_ofSegments hps).symm, rfl⟩
  · rw [on_loadAll_eq_error_iff, Predicate.ofSegments, mapM_eq_error_iff]
  · unfold ofSegments
    rcases (loadAll segments).on empty with ⟨e | names, s₁⟩ <;> simp [Except.map]
  · unfold ofSegments
    rcases (loadAll segments).on empty with ⟨e | names, s₁⟩ <;> simp [Except.map]

end Audience.Store
