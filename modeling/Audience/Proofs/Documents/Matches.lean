import Audience.Proofs.Documents.Segments
import Audience.Proofs.Store.Batches
import Audience.Proofs.Store.Selection

/-!
# Matches return documents

A match carries the segment of the predicate, and a segment that was read is written as it was read.
So a predicate made from a value or a text returns that very document where it matches
(`Predicate.Returns`). A store holds under a name the segment that was loaded last under it, and all
ways to evaluate what it holds return the document of that segment (`Store.Returns`).
-/

namespace Audience

/-- A segment was read from a document: from the value itself or from a text that writes it. -/
inductive Segment.ReadFrom (v : Json) (s : Segment) : Prop
  | value (h : Segment.ofJson v = .ok s)
  | text (text : String) (htext : Json.ofText? text = .ok v) (h : Segment.ofText text = .ok s)

theorem Segment.ReadFrom.ofJson {v : Json} {s : Segment} (h : s.ReadFrom v) : ofJson v = .ok s := by
  cases h with
  | value h => exact h
  | text text htext h =>
    obtain ⟨v', htext', h⟩ := ofText_eq_ok_iff.1 h
    obtain rfl := Except.ok.inj (htext.symm.trans htext')
    exact h

theorem Segment.ReadFrom.toJson {v : Json} {s : Segment} (h : s.ReadFrom v) : s.toJson = v :=
  toJson_of_ofJson h.ofJson

/-! ## Predicates -/

namespace Predicate

/-- Where a predicate matches, its outcome is written as the document. -/
def Returns (p : Predicate) (compare : Comparison) (r : Record) (v : Json) : Prop :=
  ∀ segment, p.outcome compare r = .matched segment → (p.outcome compare r).toJson = v

variable {p : Predicate} {compare : Comparison} {r : Record} {v : Json}

/-- What is matched is the segment of the predicate. -/
theorem segment_of_matched {segment : Segment} (h : p.outcome compare r = .matched segment) :
    segment = p.segment := by
  unfold outcome Evaluation.outcome at h
  split at h
  · cases h
  · split at h
    · exact (Outcome.matched.inj h).symm
    · cases h

theorem segment_of_ofSegment {s : Segment} (h : ofSegment s = .ok p) : p.segment = s :=
  (Segment.prepares_of_ofSegment h).segment

theorem ofSegment_congr {s s' : Segment} (hname : s'.name = s.name)
    (hconditions : s'.conditions = s.conditions) (h : ofSegment s = .ok p) :
    ofSegment s' = .ok { p with segment := s' } := by
  obtain ⟨hfine, hchecks, -⟩ := ofSegment_eq_ok_iff.1 h
  rw [ofSegment_eq_ok_iff, hname, hconditions]
  exact ⟨hfine, hchecks, rfl⟩

theorem returns_of_readFrom (h : p.segment.ReadFrom v) : p.Returns compare r v := by
  intro segment hmatched
  rw [hmatched, Outcome.toJson, segment_of_matched hmatched, h.toJson]

theorem readFrom_of_ofJson (h : ofJson v = .ok p) : p.segment.ReadFrom v := by
  obtain ⟨s, hs, h⟩ := bind_eq_ok_iff.1 h
  rw [segment_of_ofSegment h]
  exact .value (mapError_eq_ok_iff.1 hs)

theorem readFrom_of_ofText {text : String} (h : ofText text = .ok p) :
    ∃ v, Json.ofText? text = .ok v ∧ p.segment.ReadFrom v := by
  obtain ⟨s, hs, h⟩ := bind_eq_ok_iff.1 h
  obtain ⟨v, hv, hs⟩ := Segment.ofText_eq_ok_iff.1 (mapError_eq_ok_iff.1 hs)
  rw [segment_of_ofSegment h]
  exact ⟨v, hv, .value hs⟩

end Predicate

/-! ## Stores -/

theorem Outcome.segment?_eq_some_iff {o : Outcome} {segment : Segment} :
    o.segment? = some segment ↔ o = .matched segment := by
  cases o <;> simp [segment?]

namespace Store

/-- Where what is held under a name matches, it is written as the document, by whichever way it was
evaluated. -/
structure Returns (s : Store) (engine : Engine) (r : Record) (name : String) (v : Json) : Prop where
  evaluated : ∀ segment, s.evaluate engine name r = .ok (.matched segment) →
    (Outcome.matched segment).toJson = v ∧ segment ∈ s.selectAll engine r
  selected : ∀ segment ∈ s.selectAll engine r, segment.name = name → segment.toJson = v
  first : ∀ segment, s.selectFirst engine r = .matched segment → segment.name = name →
    (s.selectFirst engine r).toJson = v

variable {events : List Event} {s : Store} {engine : Engine} {r : Record} {name : String}
  {segment : Segment} {v : Json}

theorem mem_selectAll_iff : segment ∈ s.selectAll engine r ↔
    ∃ p ∈ s.predicates, p.outcome engine.compare r = .matched segment := by
  simp only [selectAll, List.mem_filterMap, Outcome.segment?_eq_some_iff]

theorem mem_selectAll_of_selectFirst (h : s.selectFirst engine r = .matched segment) :
    segment ∈ s.selectAll engine r := by
  rw [selectFirst_eq_match] at h
  rcases hall : s.selectAll engine r with _ | ⟨segment₁, rest⟩
  · rw [hall] at h
    cases h
  · rw [hall] at h
    obtain rfl := Outcome.matched.inj h
    exact List.mem_cons_self

theorem evaluate_eq_matched_iff : s.evaluate engine name r = .ok (.matched segment) ↔
    ∃ p, s.get? name = some p ∧ p.outcome engine.compare r = .matched segment := by
  unfold evaluate
  rcases s.get? name with _ | p <;> simp

/-- What matches under a name is the segment that the name was last loaded with. -/
theorem Reflects.matched_eq {p : Predicate} {segment' : Segment} (h : Reflects events s)
    (hlast : LastLoaded events name segment) (hp : (name, p) ∈ s.entries)
    (hmatched : p.outcome engine.compare r = .matched segment') : segment' = segment := by
  obtain ⟨segment₀, hlast₀, hready⟩ := (h.latest name p).1 ((get?_eq_some_iff_mem h.nodup).2 hp)
  rw [Predicate.segment_of_matched hmatched, Predicate.segment_of_ofSegment hready,
    hlast₀.unique hlast]

theorem Reflects.returns (h : Reflects events s) (hlast : LastLoaded events name segment)
    (hread : segment.ReadFrom v) : s.Returns engine r name v := by
  have hselected : ∀ segment' ∈ s.selectAll engine r, segment'.name = name →
      segment'.toJson = v := by
    intro segment' hmem hname
    obtain ⟨p, hp, hmatched⟩ := mem_selectAll_iff.1 hmem
    obtain ⟨⟨n, q⟩, he, rfl⟩ := List.mem_map.1 hp
    -- a predicate stands under the name of its segment, and that is what matched
    have hn : n = name := by
      have hkey : q.name = n := h.keyed _ he
      rw [← hkey, ← hname, Predicate.segment_of_matched hmatched]
      rfl
    subst hn
    rw [h.matched_eq hlast he hmatched, hread.toJson]
  refine ⟨fun segment' hevaluated => ?_, hselected, fun segment' hfirst hname => ?_⟩
  · obtain ⟨p, hp, hmatched⟩ := evaluate_eq_matched_iff.1 hevaluated
    have he := (get?_eq_some_iff_mem h.nodup).1 hp
    refine ⟨?_, mem_selectAll_iff.2 ⟨p, List.mem_map.2 ⟨_, he, rfl⟩, hmatched⟩⟩
    rw [h.matched_eq hlast he hmatched, Outcome.toJson, hread.toJson]
  · rw [hfirst]
    exact hselected segment' (mem_selectAll_of_selectFirst hfirst) hname

/-- How a store comes about, with the events so far: it is new, or it is made of segments or of a
text that describes them, and calls are made on it. -/
inductive Built : List Event → Store → Prop
  | new : Built [] empty
  | segments {segments : List Segment} {s : Store} (hs : ofSegments segments = .ok s) :
      Built (segments.map .loaded) s
  | text {text : String} {j : Json} {segments : List Segment} {s : Store}
      (hj : Json.ofText? text = .ok j) (hsegments : segmentsOfJson j = .ok segments)
      (hs : ofText text = .ok s) : Built (segments.map .loaded) s
  | change {events : List Event} {s : Store} (h : Built events s) (c : Change) :
      Built (events ++ c.events) (c.action.on s).2

theorem reflects_of_ofSegments {segments : List Segment} (h : ofSegments segments = .ok s) :
    Reflects (segments.map .loaded) s := by
  obtain ⟨-, ps, hps, rfl⟩ := ofSegments_eq_ok_iff.1 h
  exact Reflects.nil.insertAll (mapM_eq_ok_iff.1 hps)

theorem Built.reflects (h : Built events s) : Reflects events s := by
  induction h with
  | new => exact .nil
  | segments hs => exact reflects_of_ofSegments hs
  | text hj hsegments hs =>
    refine reflects_of_ofSegments ?_
    unfold ofText at hs
    rw [hj] at hs
    change ((segmentsOfJson _).mapError _ >>= _) = _ at hs
    rw [hsegments] at hs
    exact hs
  | change h c ih => exact ih.change (c.does _)

/-- Whatever document a predicate was made from, or a store holds a segment of: where it matches, it
is returned as it was supplied. -/
theorem matched_as_supplied (engine : Engine) (r : Record) :
    (∀ v p, Predicate.ofJson v = .ok p → p.Returns engine.compare r v) ∧
      (∀ text p, Predicate.ofText text = .ok p →
        ∃ v, Json.ofText? text = .ok v ∧ p.Returns engine.compare r v) ∧
      ∀ events s name segment v, Built events s → LastLoaded events name segment →
        segment.ReadFrom v → s.Returns engine r name v := by
  refine ⟨fun v p h => ?_, fun text p h => ?_, fun events s name segment v h hlast hread => ?_⟩
  · exact Predicate.returns_of_readFrom (Predicate.readFrom_of_ofJson h)
  · obtain ⟨v, hv, hread⟩ := Predicate.readFrom_of_ofText h
    exact ⟨v, hv, Predicate.returns_of_readFrom hread⟩
  · exact h.reflects.returns hlast hread

/-- The predicate that the sample document describes. -/
def samplePredicate : Predicate :=
  { Predicate.sample with segment := .sampleRead }

theorem ofSegment_sampleRead : Predicate.ofSegment .sampleRead = .ok samplePredicate := by
  have hname : Segment.sampleRead.name = Segment.sample.name := rfl
  have hconditions : Segment.sampleRead.conditions = Segment.sample.conditions := rfl
  exact Predicate.ofSegment_congr hname hconditions Predicate.ofSegment_sample

theorem ofJson_sampleDocument : Predicate.ofJson Segment.sampleDocument = .ok samplePredicate := by
  unfold Predicate.ofJson
  rw [Segment.ofJson_sampleDocument]
  exact ofSegment_sampleRead

theorem ofSegments_sampleRead :
    ofSegments [.sampleRead] = .ok ⟨[("minors", samplePredicate)]⟩ := by
  have hready : Predicate.ofSegments [.sampleRead] = .ok [samplePredicate] := by
    rw [ofSegments_singleton, ofSegment_sampleRead]
    rfl
  have hload : (loadAll [.sampleRead]).on empty =
      (.ok ["minors"], ⟨[("minors", samplePredicate)]⟩) :=
    on_loadAll_eq_ok_iff.2 ⟨by simp, _, hready, rfl, rfl⟩
  unfold ofSegments
  rw [hload]
  rfl

/-- The sample document is returned by the predicate made from it, and by a store that holds it. -/
theorem sample_matched_as_supplied :
    Predicate.ofJson Segment.sampleDocument = .ok samplePredicate ∧
      (samplePredicate.outcome (fun _ _ _ => .ok true)
        (.resolve Segment.sampleInput none)).toJson = Segment.sampleDocument ∧
      (Store.selectFirst ⟨[("minors", samplePredicate)]⟩ ⟨fun _ _ _ => .ok true, false⟩
        (.resolve Segment.sampleInput none)).toJson = Segment.sampleDocument := by
  obtain ⟨hvalue, -, hstore⟩ := matched_as_supplied ⟨fun _ _ _ => .ok true, false⟩
    (.resolve Segment.sampleInput none)
  have hlast : LastLoaded [.loaded .sampleRead] "minors" .sampleRead :=
    ⟨rfl, [], [], rfl, fun e he => (by cases he)⟩
  have hheld := hstore _ _ "minors" .sampleRead _ (.segments ofSegments_sampleRead) hlast
    (.value Segment.ofJson_sampleDocument)
  exact ⟨ofJson_sampleDocument, hvalue _ _ ofJson_sampleDocument .sampleRead rfl,
    hheld.first .sampleRead rfl rfl⟩

end Store

end Audience
