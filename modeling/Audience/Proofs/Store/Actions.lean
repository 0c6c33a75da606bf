import Audience.Store

/-!
# What the calls on a store do

Each call is described by its answer and the store after it. The first lemmas do this for the parts
that calls are made of, the others for the calls: all but `clear` can fail, and then leave the store
as it is.
-/

namespace Audience.Store

namespace Action

variable {α β : Type} {s : Store}

@[simp] theorem on_pure (x : α) : (pure x : Action α).on s = (.ok x, s) := rfl

@[simp] theorem on_throw (e : Error) : (throw e : Action α).on s = (.error e, s) := rfl

@[simp] theorem on_lift (x : Except Error α) : (liftM x : Action α).on s = (x, s) := rfl

@[simp] theorem on_get : (get : Action Store).on s = (.ok s, s) := rfl

@[simp] theorem on_modify (f : Store → Store) :
    (modify f : Action PUnit).on s = (.ok ⟨⟩, f s) := rfl

@[simp] theorem on_bind (a : Action α) (f : α → Action β) :
    (a >>= f).on s =
      match a.on s with
      | (.ok x, s') => (f x).on s'
      | (.error e, s') => (.error e, s') := by
  unfold on
  rw [ExceptT.run_bind, StateT.run_bind]
  change (match a.run.run s with | (x, s') => _) = _
  rcases a.run.run s with ⟨_ | _, s'⟩ <;> rfl

end Action

theorem on_load (segment : Segment) (s : Store) :
    (load segment).on s =
      match Predicate.ofSegment segment with
      | .ok p => (.ok (), s.insert p)
      | .error e => (.error e, s) := by
  rw [load, Action.on_bind, Action.on_lift]
  cases Predicate.ofSegment segment <;> rfl

theorem on_loadText (text : String) (s : Store) :
    (loadText text).on s =
      match Predicate.ofText text with
      | .ok p => (.ok p.name, s.insert p)
      | .error e => (.error e, s) := by
  rw [loadText, Action.on_bind, Action.on_lift]
  cases Predicate.ofText text <;> rfl

theorem on_loadAll (segments : List Segment) (s : Store) :
    (loadAll segments).on s =
      match segments, Predicate.ofSegments segments with
      | [], _ => (.error .noSegments, s)
      | _, .ok ps => (.ok (ps.map Predicate.name), s.insertAll ps)
      | _, .error e => (.error e, s) := by
  rcases segments with _ | ⟨segment, segments⟩
  · rfl
  · change (liftM (Predicate.ofSegments (segment :: segments)) >>= _ : Action _).on s = _
    rw [Action.on_bind, Action.on_lift]
    cases Predicate.ofSegments (segment :: segments) <;> rfl

theorem on_remove (name : String) (s : Store) :
    (remove name).on s =
      if s.has name then (.ok (), s.erase name) else (.error (.segmentNotFound name), s) := by
  rw [remove, Action.on_bind, Action.on_get]
  dsimp only
  by_cases h : s.has name = true
  · rw [if_pos h, if_pos h, Action.on_modify]
  · rw [if_neg h, if_neg h, Action.on_throw]

theorem on_clear (s : Store) : clear.on s = (.ok (), empty) := rfl

end Audience.Store
