import Audience.Proofs.Judgement

/-!
# Evaluation agrees with the meaning

Evaluating a predicate collects the results of its checks by the numbers of their groups, while
`Segment.Holds` speaks of the names that the conditions carry. A check answers what its condition
means (`Condition.Prepares.answers_iff`), and its route has the number of a group exactly if its
condition is in that group (`Condition.Routed.group_iff`, where the names of the groups have to be
different). So the collected results make a match exactly if the segment holds
(`verdict_iff_holds`).
-/

namespace Audience

/-! ## Routes and groups -/

namespace Condition

variable {c : Condition} {groups : List String} {route : Route}

theorem inGroup_of_group? {name : String} (hor : c.connective = .or) (h : c.group? = some name) :
    c.InGroup name :=
  ⟨hor, (Option.filter_eq_some_iff.1 h).1⟩

theorem Routed.every_iff (h : c.Routed groups route) : route = .every ↔ c.connective = .and := by
  cases h with
  | every hand => exact ⟨fun _ => hand, fun _ => rfl⟩
  | group hor hname hi =>
    constructor
    · intro hroute
      cases hroute
    · intro hand
      cases hor.symm.trans hand

theorem Routed.group_iff (h : c.Routed groups route) (hnd : groups.Nodup) {name : String} {i : Nat}
    (hi : groups[i]? = some name) : route = .group i ↔ c.InGroup name := by
  cases h with
  | every hand =>
    constructor
    · intro hroute
      cases hroute
    · rintro ⟨hor, -⟩
      cases hor.symm.trans hand
  | @group name' j hor hname hj =>
    have hin : c.InGroup name' := inGroup_of_group? hor hname
    constructor
    · intro hroute
      obtain rfl := Route.group.inj hroute
      obtain rfl := Option.some.inj (hj.symm.trans hi)
      exact hin
    · rintro ⟨-, hname'⟩
      obtain rfl := Option.some.inj (hin.2.symm.trans hname')
      have hlt : j < groups.length := (List.getElem?_eq_some_iff.1 hj).1
      rw [(List.getElem?_inj hlt hnd).mp (hj.trans hi.symm)]

/-- An `or` condition that was made ready has a group, and that is among the groups. -/
theorem Routed.exists_group (h : c.Routed groups route) {name : String} (hin : c.InGroup name) :
    ∃ i : Nat, groups[i]? = some name := by
  cases h with
  | every hand => cases hin.1.symm.trans hand
  | @group name' j hor hname hj =>
    obtain rfl := Option.some.inj ((inGroup_of_group? hor hname).2.symm.trans hin.2)
    exact ⟨j, hj⟩

end Condition

/-! ## Results -/

namespace Condition

variable {c : Condition} {k : Check} {groups : List String} {compare : Comparison} {r : Record}

/-- A check judged alone gets the result that its condition means. -/
theorem Prepares.toOption_judge (h : c.Prepares groups k) :
    (k.judge compare r).toOption = c.result? compare r := by
  have hoperands : (k.operands.mapM (OperandSlot.resolve r)).toOption =
      c.compared.mapM (·.valueIn? r) := by
    rw [toOption_mapM]
    refine (mapM_congr_of_forall₂ (h.forall₂_compared.imp ?_)).symm
    rintro g o ⟨slot, hfills⟩
    rw [← hfills.bind_resolve? r, OperandSlot.resolve]
    cases o.operand.bind (·.resolve? r) <;> rfl
  unfold Check.judge Check.call result?
  rw [h.subject, h.test]
  rcases r.get? c.subject with _ | subject
  · rfl
  · rw [← hoperands]
    rcases k.operands.mapM (OperandSlot.resolve r) with e | operands
    · rfl
    · change ((compare subject (normalize c.test) operands).mapError k.toldAs).toOption =
        (compare subject (normalize c.test) operands).toOption
      cases compare subject (normalize c.test) operands <;> rfl

theorem Prepares.answers_iff (h : c.Prepares groups k) {passed : Bool} :
    k.Answers compare r passed ↔ c.result? compare r = some passed := by
  rw [Check.answers_iff_judge, ← h.toOption_judge, toOption_eq_some_iff]

/-- A condition is judged to have this result, and the result counts for its group. -/
def JudgedAs (compare : Comparison) (r : Record) (groups : List String) (c : Condition)
    (j : Judgement) : Prop :=
  c.Routed groups j.check.route ∧ c.result? compare r = some j.passed

end Condition

/-! ## Collected results -/

namespace Evaluation

variable {e : Evaluation}

theorem everyPassed_iff :
    e.everyPassed = true ↔ ∀ j ∈ e.judgements, j.check.route = .every → j.passed = true := by
  simp [everyPassed, results, ← imp_iff_not_or]

theorem groupPassed_iff {i : Nat} :
    e.groupPassed i = true ↔ ∃ j ∈ e.judgements, j.check.route = .group i ∧ j.passed = true := by
  simp [groupPassed, results]

theorem verdict_iff {n : Nat} :
    e.verdict n = true ↔ e.everyPassed = true ∧ ∀ i < n, e.groupPassed i = true := by
  simp [verdict]

section Judged

variable {cs : List Condition} {groups : List String} {compare : Comparison} {r : Record}

theorem everyPassed_iff_of_judged
    (hj : List.Forall₂ (Condition.JudgedAs compare r groups) cs e.judgements) :
    e.everyPassed = true ↔
      ∀ c ∈ cs, c.connective = .and → c.result? compare r = some true := by
  rw [everyPassed_iff]
  constructor
  · intro hevery c hc hand
    obtain ⟨j, hjmem, hroute, hresult⟩ := exists_right_of_mem hj hc
    rw [hresult, hevery j hjmem (hroute.every_iff.2 hand)]
  · intro hevery j hjmem hroute
    obtain ⟨c, hc, hrouted, hresult⟩ := exists_left_of_mem hj hjmem
    exact Option.some.inj (hresult.symm.trans (hevery c hc (hrouted.every_iff.1 hroute)))

theorem groupPassed_iff_of_judged
    (hj : List.Forall₂ (Condition.JudgedAs compare r groups) cs e.judgements)
    (hnd : groups.Nodup) {name : String} {i : Nat} (hi : groups[i]? = some name) :
    e.groupPassed i = true ↔ ∃ c ∈ cs, c.InGroup name ∧ c.result? compare r = some true := by
  rw [groupPassed_iff]
  constructor
  · rintro ⟨j, hjmem, hgroup, hpassed⟩
    obtain ⟨c, hc, hroute, hresult⟩ := exists_left_of_mem hj hjmem
    exact ⟨c, hc, (hroute.group_iff hnd hi).1 hgroup, by rw [hresult, hpassed]⟩
  · rintro ⟨c, hc, hin, hresult⟩
    obtain ⟨j, hjmem, hroute, hpassed⟩ := exists_right_of_mem hj hc
    exact ⟨j, hjmem, (hroute.group_iff hnd hi).2 hin,
      Option.some.inj (hpassed.symm.trans hresult)⟩

end Judged

/-- The results of all conditions make a match exactly if the segment holds. -/
theorem verdict_iff_holds {s : Segment} {p : Predicate} {compare : Comparison} {r : Record}
    (hp : s.Prepares p)
    (hj : List.Forall₂ (Condition.JudgedAs compare r p.groups) s.conditions e.judgements) :
    e.verdict p.groups.length = true ↔ s.Holds compare r := by
  rw [verdict_iff, everyPassed_iff_of_judged hj]
  constructor
  · rintro ⟨hevery, hgroups⟩
    refine ⟨hevery, ?_⟩
    rintro name ⟨c, hc, hin⟩
    obtain ⟨j, -, hroute, -⟩ := exists_right_of_mem hj hc
    obtain ⟨i, hi⟩ := hroute.exists_group hin
    have hlt : i < p.groups.length := (List.getElem?_eq_some_iff.1 hi).1
    exact (groupPassed_iff_of_judged hj hp.nodup hi).1 (hgroups i hlt)
  · rintro ⟨hevery, hgroups⟩
    refine ⟨hevery, fun i hi => ?_⟩
    -- every group was met in some condition, so its name is one that must be satisfied
    obtain ⟨c, hc, hor, hname⟩ := hp.named _ (List.getElem_mem hi)
    rw [groupPassed_iff_of_judged hj hp.nodup (List.getElem?_eq_getElem hi)]
    exact hgroups _ ⟨c, hc, Condition.inGroup_of_group? hor hname⟩

end Evaluation

/-! ## Agreement -/

namespace Predicate

variable {s : Segment} {p : Predicate} {compare : Comparison} {r : Record}

/-- If every condition has a result then evaluation judges each of them to have it. -/
theorem judgements_of_answered (h : s.Prepares p)
    (answered : ∀ c ∈ s.conditions, (c.result? compare r).isSome) :
    (p.evaluate compare r).fault = none ∧
      List.Forall₂ (Condition.JudgedAs compare r p.groups) s.conditions
        (p.evaluate compare r).judgements := by
  have hanswer : ∀ k ∈ p.checks, ∃ passed, k.Answers compare r passed := by
    intro k hk
    obtain ⟨c, hc, hprep⟩ := exists_left_of_mem h.checks hk
    obtain ⟨passed, hpassed⟩ := Option.isSome_iff_exists.1 (answered c hc)
    exact ⟨passed, hprep.answers_iff.2 hpassed⟩
  obtain ⟨hfault, -, hjudged⟩ := evaluate_of_all_answer hanswer
  refine ⟨hfault, (forall₂_comp h.checks hjudged).imp ?_⟩
  rintro c j ⟨k, -, hprep, rfl, hanswers⟩
  exact ⟨hprep.route, hprep.answers_iff.1 hanswers⟩

/-- If every condition of a segment has a result on the record of an input and a state, then the
segment made ready matches if the segment holds there, and does not match otherwise. -/
theorem matched_iff_holds (h : ofSegment s = .ok p) (compare : Comparison) (input : Json)
    (state : Option Json)
    (answered : ∀ c ∈ s.conditions, (c.result? compare (.resolve input state)).isSome) :
    (p.outcome compare (.resolve input state) = .matched s ↔
        s.Holds compare (.resolve input state)) ∧
      (p.outcome compare (.resolve input state) = .notMatched ↔
        ¬ s.Holds compare (.resolve input state)) := by
  have hp := Segment.prepares_of_ofSegment h
  obtain ⟨hfault, hjudged⟩ := judgements_of_answered hp answered
  rw [← Evaluation.verdict_iff_holds hp hjudged, outcome, Evaluation.outcome, hfault, hp.segment]
  cases (p.evaluate compare (.resolve input state)).verdict p.groups.length <;> simp

/-- The sample matches a record that has all its variables if every test is positive. -/
theorem sample_matched :
    ofSegment .sample = .ok .sample ∧
      (∀ c ∈ Segment.sample.conditions,
        (c.result? (fun _ _ _ => .ok true) (.resolve Segment.sampleInput none)).isSome) ∧
      Predicate.sample.outcome (fun _ _ _ => .ok true) (.resolve Segment.sampleInput none) =
        .matched .sample := by
  have hall : ∀ c ∈ Segment.sample.conditions,
      c.result? (fun _ _ _ => .ok true) (.resolve Segment.sampleInput none) = some true := by
    decide +kernel
  have answered : ∀ c ∈ Segment.sample.conditions,
      (c.result? (fun _ _ _ => .ok true) (.resolve Segment.sampleInput none)).isSome := by
    intro c hc
    rw [hall c hc]
    rfl
  refine ⟨ofSegment_sample, answered, (matched_iff_holds ofSegment_sample _ _ _ answered).1.2 ?_⟩
  refine ⟨fun c hc _ => hall c hc, ?_⟩
  rintro name ⟨c, hc, hin⟩
  exact ⟨c, hc, hin, hall c hc⟩

end Predicate

end Audience
