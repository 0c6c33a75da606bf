import Audience.Proofs.Agreement
import Audience.Proofs.Explanation

/-!
# Kinds of outcomes

An outcome is a match, none, or a failure. Which of these it is can be told from the conditions of
the segment: it is a failure if one of them has no result (`kind_outcome_eq_failure_iff`), and
otherwise a match exactly if the segment holds (`kind_outcome_eq_match_iff`). So segments that fail
together and hold together have outcomes of one kind (`kind_outcome_congr`).
-/

namespace Audience

/-- What kind of outcome there is. -/
inductive Outcome.Kind where
  | match
  | noMatch
  | failure
deriving DecidableEq, Repr

/-- The kind of an outcome. -/
def Outcome.kind : Outcome → Kind
  | matched _ => .match
  | notMatched => .noMatch
  | failed _ => .failure

theorem Outcome.kind_eq_failure_iff {o : Outcome} : o.kind = .failure ↔ ∃ f, o = .failed f := by
  cases o <;> simp [kind]

/-- Some condition of a segment has no result. -/
def Segment.Fails (compare : Comparison) (r : Record) (s : Segment) : Prop :=
  ∃ c ∈ s.conditions, c.result? compare r = none

namespace Predicate

variable {s s' : Segment} {p p' : Predicate} {compare : Comparison} {r : Record}

theorem kind_outcome_eq_failure_iff (h : s.Prepares p) :
    (p.outcome compare r).kind = .failure ↔ s.Fails compare r := by
  rw [Outcome.kind_eq_failure_iff]
  constructor
  · intro hfailed
    obtain ⟨k, hk, f, hf⟩ := exists_outcome_eq_failed_iff.1 hfailed
    obtain ⟨c, hc, hprep⟩ := exists_left_of_mem h.checks hk
    refine ⟨c, hc, Option.eq_none_iff_forall_not_mem.2 fun passed hpassed => ?_⟩
    exact (hprep.answers_iff.2 hpassed).not_fails hf
  · rintro ⟨c, hc, hnone⟩
    by_contra hout
    have hanswered := answered_of_ne_failed h (fun f hf => hout ⟨f, hf⟩) c hc
    rw [hnone] at hanswered
    cases hanswered

theorem kind_outcome_eq_match_iff (h : s.Prepares p) :
    (p.outcome compare r).kind = .match ↔ ¬ s.Fails compare r ∧ s.Holds compare r := by
  by_cases hfails : s.Fails compare r
  · rw [(kind_outcome_eq_failure_iff h).2 hfails]
    exact iff_of_false (fun heq => by cases heq) fun hfine => hfine.1 hfails
  · have answered : ∀ c ∈ s.conditions, (c.result? compare r).isSome := fun c hc =>
      Option.isSome_iff_ne_none.2 fun hnone => hfails ⟨c, hc, hnone⟩
    obtain ⟨hfault, hjudged⟩ := judgements_of_answered h answered
    rw [and_iff_right hfails, ← Evaluation.verdict_iff_holds h hjudged, outcome,
      Evaluation.outcome, hfault]
    cases (p.evaluate compare r).verdict p.groups.length <;> simp [Outcome.kind]

/-- Segments that fail together, and hold together where they do not fail, have outcomes of one
kind. -/
theorem kind_outcome_congr (h : s.Prepares p) (h' : s'.Prepares p')
    (hfails : s'.Fails compare r ↔ s.Fails compare r)
    (hholds : ¬ s.Fails compare r → (s'.Holds compare r ↔ s.Holds compare r)) :
    (p'.outcome compare r).kind = (p.outcome compare r).kind := by
  have hfailure : (p'.outcome compare r).kind = .failure ↔ (p.outcome compare r).kind = .failure := by
    rw [kind_outcome_eq_failure_iff h, kind_outcome_eq_failure_iff h', hfails]
  have hmatch : (p'.outcome compare r).kind = .match ↔ (p.outcome compare r).kind = .match := by
    rw [kind_outcome_eq_match_iff h, kind_outcome_eq_match_iff h', hfails]
    exact and_congr_right hholds
  generalize (p'.outcome compare r).kind = kind' at hfailure hmatch
  generalize (p.outcome compare r).kind = kind at hfailure hmatch
  cases kind <;> cases kind' <;> simp_all

end Predicate

end Audience
