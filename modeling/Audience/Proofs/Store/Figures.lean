import Audience.Proofs.Documents.Matches
import Audience.Proofs.Groups
import Mathlib.Algebra.GroupWithZero.Nat

/-!
# Figures of a store

A store counts the checks and the groups of its predicates. As predicates are well formed, these are
the conditions of the segments that it holds and the different names of their groups
(`stats_eq_of_ready`). Which segments those are is told by the history of the store.
-/

namespace Audience.Store

/-- The segments that a store holds, in order. -/
def segments (s : Store) : List Segment :=
  s.predicates.map (·.segment)

variable {events : List Event} {s : Store}

theorem Reflects.forall₂_segments (h : Reflects events s) :
    List.Forall₂ (LastLoaded events) s.names s.segments := by
  unfold segments names predicates
  rw [List.map_map, List.forall₂_map_left_iff, List.forall₂_map_right_iff, List.forall₂_same]
  rintro ⟨name, p⟩ hmem
  obtain ⟨segment, hlast, hready⟩ :=
    (h.latest name p).1 ((get?_eq_some_iff_mem h.nodup).2 hmem)
  rwa [Function.comp_apply, Predicate.segment_of_ofSegment hready]

theorem Reflects.ready (h : Reflects events s) {p : Predicate} (hp : p ∈ s.predicates) :
    Predicate.ofSegment p.segment = .ok p := by
  obtain ⟨⟨name, q⟩, hmem, rfl⟩ := List.mem_map.1 hp
  obtain ⟨segment, -, hready⟩ := (h.latest name q).1 ((get?_eq_some_iff_mem h.nodup).2 hmem)
  rwa [Predicate.segment_of_ofSegment hready]

/-- A store of predicates made from segments counts what is in the segments. -/
theorem stats_eq_of_ready (h : ∀ p ∈ s.predicates, Predicate.ofSegment p.segment = .ok p) :
    s.stats = ⟨s.segments.length, (s.segments.map fun segment => segment.conditions.length).sum,
      (s.segments.map fun segment => segment.groupNames.length).sum⟩ := by
  have hchecks : s.predicates.map (fun p => p.checks.length) =
      s.predicates.map fun p => p.segment.conditions.length :=
    List.map_congr_left fun p hp =>
      (Predicate.wellFormed_of_ofSegment (h p hp)).checks.length_eq.symm
  have hgroups : s.predicates.map (fun p => p.groups.length) =
      s.predicates.map fun p => p.segment.groupNames.length :=
    List.map_congr_left fun p hp => by rw [(Predicate.wellFormed_of_ofSegment (h p hp)).groups]
  unfold stats segments size
  rw [hchecks, hgroups, ← List.sum_eq_foldl, ← List.sum_eq_foldl, List.map_map, List.map_map,
    List.length_map, predicates, List.length_map]
  rfl

/-- A predicate made from a segment is well formed. So a store, however it was built, counts the
conditions and the different names of groups of the segments that it holds, which are those that its
names were last loaded with. -/
theorem wellFormed_and_stats_of_built :
    (∀ segment p, Predicate.ofSegment segment = .ok p → Predicate.WellFormed segment p) ∧
      ∀ events s, Built events s → ∃ segments, List.Forall₂ (LastLoaded events) s.names segments ∧
        (∀ name, name ∈ s.names ↔ Present events name) ∧ s.names.Nodup ∧
        s.stats = ⟨segments.length, (segments.map fun segment => segment.conditions.length).sum,
          (segments.map fun segment => segment.groupNames.length).sum⟩ := by
  refine ⟨fun segment p h => Predicate.wellFormed_of_ofSegment h, fun events s hbuilt => ?_⟩
  have h := hbuilt.reflects
  exact ⟨s.segments, h.forall₂_segments, h.present, h.nodup, stats_eq_of_ready fun p => h.ready⟩

/-- The sample has its one group, and a store that it was loaded into counts two conditions. -/
theorem sample_stats :
    Predicate.ofSegment .sample = .ok .sample ∧ Segment.sample.groupNames = ["free"] ∧
      Built [.loaded .sampleRead] ⟨[("minors", samplePredicate)]⟩ ∧
      (Store.mk [("minors", samplePredicate)]).stats = ⟨1, 2, 1⟩ := by
  have hbuilt : Built [.loaded .sampleRead] ⟨[("minors", samplePredicate)]⟩ :=
    .segments ofSegments_sampleRead
  obtain ⟨hwell, hstats⟩ := wellFormed_and_stats_of_built
  have hgroups : Segment.sample.groupNames = ["free"] :=
    (hwell _ _ Predicate.ofSegment_sample).groups.symm
  refine ⟨Predicate.ofSegment_sample, hgroups, hbuilt, ?_⟩
  obtain ⟨segments, hlast, -, -, h⟩ := hstats _ _ hbuilt
  obtain ⟨segment, rest, hsegment, hrest, rfl⟩ := List.forall₂_cons_left_iff.1 hlast
  obtain rfl := List.forall₂_nil_left_iff.1 hrest
  have hread : LastLoaded [.loaded .sampleRead] "minors" .sampleRead :=
    ⟨rfl, [], [], rfl, fun e he => (by cases he)⟩
  obtain rfl := hsegment.unique hread
  have hnames : Segment.sampleRead.groupNames = Segment.sample.groupNames := rfl
  rw [h, List.map_singleton, List.map_singleton, hnames, hgroups]
  rfl

end Audience.Store
