import Audience.Proofs.Fallible
import Audience.Proofs.Store.Actions
import Audience.Proofs.Store.Entries
import Audience.Proofs.Store.History

/-!
# What a change does to a store

`Change.events` lists what a call brings about, by what it is called with: a call to load has an
event for each of its segments if all of them can be made ready, and otherwise none. `Change.Does`
lists what a call can do to a store: a call that fails leaves it as it is, a call to load inserts
predicates, and the others take names out. A call to remove a name that is absent has its event
although it fails; as the name is absent, the event makes no difference.
-/

namespace Audience

namespace Store

/-! ## Events of calls -/

/-- Segments that are loaded together: all of them if each can be made ready, else none. -/
def accepted (segments : List Segment) : List Segment :=
  if segments.all fun segment => (Predicate.ofSegment segment).isOk then segments else []

/-- The segments that a call loads. -/
def Change.loads : Change → List Segment
  | .load segment => accepted [segment]
  | .loadText text =>
    match Segment.ofText text with
    | .ok segment => accepted [segment]
    | .error _ => []
  | .loadAll segments => accepted segments
  | .remove _ => []
  | .clear => []

/-- What a call brings about. -/
def Change.events : Change → List Event
  | .remove name => [.removed name]
  | .clear => [.cleared]
  | c => c.loads.map .loaded

/-- When a call succeeds, given what has happened before: a call to load does if it loads anything,
and a call to remove a name if that is present. -/
def Change.Succeeds (events : List Event) : Change → Prop
  | .remove name => Present events name
  | .clear => True
  | c => c.loads ≠ []

/-! ## Segments that are loaded together -/

section Accepted

variable {segments : List Segment}

theorem accepted_of_ofSegments_ok {ps : List Predicate}
    (h : Predicate.ofSegments segments = .ok ps) : accepted segments = segments := by
  refine if_pos (List.all_eq_true.2 fun segment hmem => ?_)
  obtain ⟨p, -, hp⟩ := exists_right_of_mem (mapM_eq_ok_iff.1 h) hmem
  rw [hp]
  rfl

theorem accepted_of_ofSegments_error {e : Error}
    (h : Predicate.ofSegments segments = .error e) : accepted segments = [] := by
  obtain ⟨before, segment, after, rfl, -, hfails⟩ := mapM_eq_error_iff.1 h
  refine if_neg fun hall => ?_
  have hok := List.all_eq_true.1 hall segment (List.mem_append_right _ List.mem_cons_self)
  rw [hfails] at hok
  cases hok

theorem ofSegments_singleton (segment : Segment) :
    Predicate.ofSegments [segment] = (Predicate.ofSegment segment).map ([·]) := by
  unfold Predicate.ofSegments
  rw [List.mapM_cons, List.mapM_nil]
  cases Predicate.ofSegment segment <;> rfl

end Accepted

/-! ## One call -/

/-- A call to load: it succeeds if it loads anything, and that is all it brings about. -/
structure Change.IsLoad (c : Change) : Prop where
  events : c.events = c.loads.map .loaded
  succeeds : ∀ events, c.Succeeds events ↔ c.loads ≠ []

/-- What a call can do to a store. -/
inductive Change.Does (s : Store) (c : Change) : Except Error (List String) × Store → Prop
  | loaded {names : List String} {ps : List Predicate} (hload : c.IsLoad) (hne : c.loads ≠ [])
      (hready : Predicate.ofSegments c.loads = .ok ps) : Does s c (.ok names, s.insertAll ps)
  | refused {e : Error} (hload : c.IsLoad) (hnone : c.loads = []) : Does s c (.error e, s)
  | removed {name : String} (hc : c = .remove name) (h : name ∈ s.names) :
      Does s c (.ok [], s.erase name)
  | missing {name : String} (hc : c = .remove name) (h : name ∉ s.names) :
      Does s c (.error (.segmentNotFound name), s)
  | cleared (hc : c = .clear) : Does s c (.ok [], empty)

/-- A call that makes one segment ready and keeps it. -/
theorem does_load_one {c : Change} {segment : Segment} {s : Store}
    (names : Predicate → List String) (hload : c.IsLoad) (hloads : c.loads = accepted [segment])
    (hon : c.action.on s =
      match Predicate.ofSegment segment with
      | .ok p => (.ok (names p), s.insert p)
      | .error e => (.error e, s)) : c.Does s (c.action.on s) := by
  rw [hon]
  have hready := ofSegments_singleton segment
  rcases h : Predicate.ofSegment segment with e | p
  · rw [h] at hready
    exact .refused hload (hloads.trans (accepted_of_ofSegments_error hready))
  · rw [h] at hready
    have hone : c.loads = [segment] := hloads.trans (accepted_of_ofSegments_ok hready)
    exact .loaded hload (by simp [hone]) (hone.symm ▸ hready)

theorem does_load (segment : Segment) (s : Store) :
    Change.Does s (.load segment) ((Change.load segment).action.on s) := by
  refine does_load_one (fun _ => []) ⟨rfl, fun _ => Iff.rfl⟩ rfl ?_
  rw [Change.action, Action.on_bind, on_load]
  cases Predicate.ofSegment segment <;> rfl

theorem does_loadText (text : String) (s : Store) :
    Change.Does s (.loadText text) ((Change.loadText text).action.on s) := by
  have hload : (Change.loadText text).IsLoad := ⟨rfl, fun _ => Iff.rfl⟩
  have hon : (Change.loadText text).action.on s =
      match Predicate.ofText text with
      | .ok p => (.ok [p.name], s.insert p)
      | .error e => (.error e, s) := by
    rw [Change.action, Action.on_bind, on_loadText]
    cases Predicate.ofText text <;> rfl
  rcases h : Segment.ofText text with e | segment
  · have hnone : (Change.loadText text).loads = [] := by simp only [Change.loads, h]
    rw [hon, Predicate.ofText, h]
    exact .refused hload hnone
  · have hloads : (Change.loadText text).loads = accepted [segment] := by
      simp only [Change.loads, h]
    refine does_load_one (fun p => [p.name]) hload hloads ?_
    rw [hon, Predicate.ofText, h]
    rfl

theorem does_loadAll (segments : List Segment) (s : Store) :
    Change.Does s (.loadAll segments) ((Change.loadAll segments).action.on s) := by
  have hload : (Change.loadAll segments).IsLoad := ⟨rfl, fun _ => Iff.rfl⟩
  rw [Change.action, on_loadAll]
  rcases segments with _ | ⟨segment, segments⟩
  · exact .refused hload rfl
  · rcases h : Predicate.ofSegments (segment :: segments) with e | ps
    · exact .refused hload (accepted_of_ofSegments_error h)
    · have hloads : (Change.loadAll (segment :: segments)).loads = segment :: segments :=
        accepted_of_ofSegments_ok h
      exact .loaded hload (by simp [hloads]) (hloads.symm ▸ h)

theorem does_remove (name : String) (s : Store) :
    Change.Does s (.remove name) ((Change.remove name).action.on s) := by
  rw [Change.action, Action.on_bind, on_remove]
  by_cases h : s.has name = true
  · rw [if_pos h]
    exact .removed rfl (has_iff_mem_names.1 h)
  · rw [if_neg h]
    exact .missing rfl (mt has_iff_mem_names.2 h)

theorem does_clear (s : Store) : Change.Does s .clear (Change.clear.action.on s) := by
  simp only [Change.action, Action.on_bind, on_clear, Action.on_pure]
  exact .cleared rfl

theorem Change.does (c : Change) (s : Store) : c.Does s (c.action.on s) := by
  cases c with
  | load segment => exact does_load segment s
  | loadText text => exact does_loadText text s
  | loadAll segments => exact does_loadAll segments s
  | remove name => exact does_remove name s
  | clear => exact does_clear s

/-- A call that fails leaves the store as it is. -/
theorem Change.Does.eq_self {c : Change} {s : Store} {out : Except Error (List String) × Store}
    {e : Error} (h : c.Does s out) (he : out.1 = .error e) : out.2 = s := by
  cases h with
  | refused hload hnone => rfl
  | missing hc hname => rfl
  | _ => cases he

end Store

end Audience
