import Audience.Proofs.Store.Runs

/-!
# Selections agree

What a store holds can be evaluated name by name, reported on, and selected from. These ways tell
the same (`SelectionsAgree`), as long as every predicate stands under its own name and no name is
repeated. That is so after any calls, because a store reflects its history (`reflects_after`).
-/

namespace Audience

namespace Store

/-- The ways to evaluate what a store holds tell the same of a record. -/
structure SelectionsAgree (s : Store) (engine : Engine) (r : Record) : Prop where
  reports : List.Forall₂
    (fun name report => report.segmentName = name ∧ s.evaluate engine name r = .ok report.outcome)
    s.names (s.reportAll engine r)
  all : s.selectAll engine r = (s.reportAll engine r).filterMap (·.outcome.segment?)
  first : s.selectFirst engine r =
    match s.selectAll engine r with
    | [] => .notMatched
    | segment :: _ => .matched segment
  never_fails : ∀ f, s.selectFirst engine r ≠ .failed f
  missing : ∀ name e, s.evaluate engine name r = .error e ↔
    e = .segmentNotFound name ∧ name ∉ s.names

variable {s : Store} {name : String} {engine : Engine} {r : Record}

theorem evaluate_eq_error_iff {e : Error} :
    s.evaluate engine name r = .error e ↔ e = .segmentNotFound name ∧ name ∉ s.names := by
  rw [← has_iff_mem_names, has, evaluate]
  rcases s.get? name with _ | p <;> simp [eq_comm]

theorem evaluate_of_mem {p : Predicate} (hnd : s.names.Nodup) (h : (name, p) ∈ s.entries) :
    s.evaluate engine name r = .ok (p.outcome engine.compare r) := by
  rw [evaluate, (get?_eq_some_iff_mem hnd).2 h]

/-- There is a report on each name, in their order, and it has the outcome of the name. -/
theorem forall₂_reportAll (hnd : s.names.Nodup) (hkeyed : ∀ e ∈ s.entries, e.2.name = e.1) :
    List.Forall₂
      (fun name report => report.segmentName = name ∧ s.evaluate engine name r = .ok report.outcome)
      s.names (s.reportAll engine r) := by
  unfold names reportAll predicates
  rw [List.map_map, List.forall₂_map_left_iff, List.forall₂_map_right_iff, List.forall₂_same]
  rintro ⟨name, p⟩ hmem
  exact ⟨hkeyed _ hmem, evaluate_of_mem hnd hmem⟩

theorem selectAll_eq_filterMap :
    s.selectAll engine r = (s.reportAll engine r).filterMap (·.outcome.segment?) := by
  rw [selectAll, reportAll, List.filterMap_map]
  rfl

/-- The first segment that matches is the first of those that match. -/
theorem selectFirst_eq_match :
    s.selectFirst engine r =
      match s.selectAll engine r with
      | [] => .notMatched
      | segment :: _ => .matched segment := by
  rw [selectFirst, ← List.head?_filterMap, ← selectAll]
  rcases s.selectAll engine r with _ | ⟨segment, rest⟩ <;> rfl

theorem selectFirst_ne_failed (f : Failure) : s.selectFirst engine r ≠ .failed f := by
  rw [selectFirst_eq_match]
  rcases s.selectAll engine r with _ | ⟨segment, rest⟩ <;> simp

/-- After any calls on a new store, every way to evaluate what it holds tells the same, whatever
fails in between. -/
theorem selections_agree (changes : List Change) (engine : Engine) (input : Json)
    (state : Option Json) :
    (after changes).SelectionsAgree engine (.resolve input state) := by
  have hreflects := reflects_after changes
  exact {
    reports := forall₂_reportAll hreflects.nodup hreflects.keyed
    all := selectAll_eq_filterMap
    first := selectFirst_eq_match
    never_fails := selectFirst_ne_failed
    missing := fun name e => evaluate_eq_error_iff }

end Store

end Audience
