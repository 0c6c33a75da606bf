import Audience.Proofs.Groups
import Audience.Report
import Mathlib.Algebra.BigOperators.Group.List.Lemmas
import Mathlib.Algebra.GroupWithZero.Nat

/-!
# Reports explain evaluations

What a report says can be told from the segment, without making it ready. The conditions up to the
first without a result have the results `Segment.answers`, and each is described by what it says
itself (`Condition.description`). If all conditions have results then the report sums up how many
of them count on their own or in a group, and whether they hold (`Segment.summaries`), and the
summaries agree with the outcome. Otherwise it ends with the failure of the first condition without
a result. `Predicate.Explained` puts this together.
-/

namespace Audience

/-! ## Descriptions -/

/-- What stands for a given value in a description: the name of the slot if there is no value. -/
def Given.label (slot : Slot) (g : Given) : String :=
  match g.value with
  | none => slot.name
  | some j => j.string?.getD j.compact

namespace Condition

/-- What stands for the group of a condition in a description. -/
def groupTitle (c : Condition) : String :=
  match c.connective with
  | .and => "AND"
  | .or => "OR '" ++ (c.groupName.map Text.trim).getD "" ++ "'"

/-- The description of the condition at a place. -/
def description (place : Nat) (c : Condition) : String :=
  conditionPath place ++ " [" ++ c.groupTitle ++ "]: " ++ c.subject ++ " " ++ normalize c.test ++
    " [" ++ ", ".intercalate (c.slots.map fun slot => (c.given slot).label slot) ++ "]"

end Condition

/-- What stands for a route in a description, given the names of the groups. -/
def Route.title (groups : List String) : Route → String
  | .every => "AND"
  | .group i => "OR '" ++ groups.getD i "" ++ "'"

theorem Report.describe_eq (groups : List String) (k : Check) :
    describe groups k = conditionPath k.index ++ " [" ++ k.route.title groups ++ "]: " ++
      k.subject ++ " " ++ k.test ++ " [" ++ ", ".intercalate (k.operands.map (·.label)) ++ "]" := by
  unfold describe Route.title
  cases k.route <;> rfl

theorem Given.Fills.label_eq {g : Given} {slot : Slot} {o : OperandSlot} (h : g.Fills slot o) :
    o.label = g.label slot := by
  cases h <;> rfl

namespace Condition

variable {c : Condition} {k : Check} {groups : List String} {route : Route}

theorem Routed.title_eq (h : c.Routed groups route) : route.title groups = c.groupTitle := by
  cases h with
  | every hand => rw [Route.title, groupTitle, hand]
  | group hor hname hi =>
    rw [Route.title, groupTitle, hor, (inGroup_of_group? hor hname).2, List.getD_eq_getElem?_getD,
      hi]

theorem Prepares.labels_eq (h : c.Prepares groups k) :
    k.operands.map (·.label) = c.slots.map fun slot => (c.given slot).label slot := by
  have hlabels : List.Forall₂ (· = ·) (k.operands.map (·.label))
      ((slotsOf k.test).map fun slot => (c.given slot).label slot) := by
    rw [List.forall₂_map_left_iff, List.forall₂_map_right_iff]
    exact h.operands.flip.imp fun _ _ hfills => hfills.label_eq
  rw [c.slots_eq_slotsOf, ← h.test]
  rwa [List.forall₂_eq_eq_eq] at hlabels

/-- A check is described as its condition is. -/
theorem Prepares.describe_eq (h : c.Prepares groups k) {place : Nat} (hplace : k.index = place) :
    Report.describe groups k = c.description place := by
  rw [Report.describe_eq, description, hplace, h.subject, h.test, h.labels_eq, h.route.title_eq]

end Condition

/-! ## What is told -/

/-- What a report sums up: how many conditions count on their own or in a group, and whether they
hold. -/
structure Summary where
  opening : String
  count : Nat
  holds : Bool

/-- The line for a summary. -/
def Summary.line (x : Summary) : String :=
  x.opening ++ toString x.count ++ " 个条件) => " ++ Report.verdictWord x.holds

namespace Segment

variable (compare : Comparison) (r : Record) (s : Segment)

/-- The results of the conditions, up to the first that has none. -/
def answers : List Bool :=
  ((s.conditions.map (·.result? compare r)).takeWhile Option.isSome).filterMap id

/-- The descriptions of the conditions that have these results, beside them. -/
def described : List (String × Bool) :=
  (s.conditions.mapIdx fun i c => c.description i).zip (s.answers compare r)

/-- The lines for the conditions that have results. -/
def resultLines : List String :=
  (s.described compare r).map fun x => x.1 ++ " => " ++ Report.verdictWord x.2

/-- The summary of the conditions that count on their own. -/
def everySummary : Summary where
  opening := "AND 组 ("
  count := s.conditions.countP fun c => c.connective = .and
  holds := s.conditions.all fun c => c.connective ≠ .and || c.result? compare r = some true

/-- The summary of a group. -/
def groupSummary (name : String) : Summary where
  opening := "OR 组 '" ++ name ++ "' ("
  count := s.conditions.countP fun c => c.orName? = some name
  holds := s.conditions.any fun c => c.orName? = some name && c.result? compare r = some true

/-- All summaries, those of the groups in their order. -/
def summaries : List Summary :=
  s.everySummary compare r :: s.groupNames.map (s.groupSummary compare r)

variable {compare r s}

theorem holds_everySummary_iff : (s.everySummary compare r).holds = true ↔
    ∀ c ∈ s.conditions, c.connective = .and → c.result? compare r = some true := by
  simp [everySummary, imp_iff_not_or]

theorem holds_groupSummary_iff {name : String} : (s.groupSummary compare r name).holds = true ↔
    ∃ c ∈ s.conditions, c.InGroup name ∧ c.result? compare r = some true := by
  simp [groupSummary, Condition.orName?_eq_some_iff]

theorem mem_groupNames_iff {name : String} :
    name ∈ s.groupNames ↔ ∃ c ∈ s.conditions, c.InGroup name := by
  simp [groupNames, Condition.orName?_eq_some_iff]

/-- The summaries all hold exactly if the segment does. -/
theorem holds_iff_forall_summaries :
    (∀ x ∈ s.summaries compare r, x.holds = true) ↔ s.Holds compare r := by
  rw [summaries, List.forall_mem_cons, List.forall_mem_map, holds_everySummary_iff]
  simp only [holds_groupSummary_iff, mem_groupNames_iff]
  exact ⟨fun ⟨hevery, hgroups⟩ => ⟨hevery, hgroups⟩, fun ⟨hevery, hgroups⟩ => ⟨hevery, hgroups⟩⟩

/-- Each condition is counted once if every `or` condition has a name. -/
theorem sum_count_summaries (hnd : s.groupNames.Nodup)
    (hnamed : ∀ c ∈ s.conditions, c.connective = .or → ∃ name, c.InGroup name) :
    ((s.summaries compare r).map (·.count)).sum = s.conditions.length := by
  have hperm : s.groupNames.Perm (s.conditions.filterMap Condition.orName?).dedup :=
    (List.perm_ext_iff_of_nodup hnd (List.nodup_dedup _)).2 fun name => by
      rw [groupNames, List.mem_eraseDups, List.mem_dedup]
  have hcount : ∀ name, (s.groupSummary compare r name).count =
      (s.conditions.filterMap Condition.orName?).count name := fun name => by
    rw [List.count_filterMap, groupSummary]
    exact List.countP_congr fun c _ => by simp
  have hor : ∀ c ∈ s.conditions,
      c.orName?.isSome = decide ¬ (decide (c.connective = .and) = true) := by
    intro c hc
    cases hconnective : c.connective with
    | and => simp [Condition.orName?, hconnective]
    | or =>
      obtain ⟨name, hin⟩ := hnamed c hc hconnective
      simp [Condition.orName?_eq_some_iff.2 hin]
  -- the groups count the names of the `or` conditions, each as often as it comes up
  calc ((s.summaries compare r).map (·.count)).sum
      = (s.everySummary compare r).count +
          (s.groupNames.map fun name => (s.groupSummary compare r name).count).sum := by
        rw [summaries, List.map_cons, List.sum_cons, List.map_map]
        rfl
    _ = (s.everySummary compare r).count + (s.conditions.filterMap Condition.orName?).length := by
        simp only [hcount]
        rw [(hperm.map _).sum_eq, List.sum_map_count_dedup_eq_length]
    _ = s.conditions.length := by
        rw [List.length_filterMap_eq_countP, List.countP_congr fun c hc => by rw [hor c hc]]
        exact (List.length_eq_countP_add_countP _).symm

end Segment

/-! ## Results -/

namespace Evaluation

variable {compare : Comparison} {r : Record} {ks : List Check}

theorem ofChecks_cons_of_ok {k : Check} {passed : Bool} (ks : List Check)
    (h : k.judge compare r = .ok passed) :
    (ofChecks compare r (k :: ks)).judgements = ⟨k, passed⟩ :: (ofChecks compare r ks).judgements ∧
      (ofChecks compare r (k :: ks)).fault = (ofChecks compare r ks).fault := by
  obtain ⟨call, hcall, hanswer⟩ := bind_eq_ok_iff.1 h
  simp only [ofChecks, hcall, hanswer, and_self]

theorem judgements_ofChecks_cons_of_error {k : Check} {e : Error}
    (h : k.judge compare r = .error e) : (ofChecks compare r (k :: ks)).judgements = [] := by
  rcases bind_eq_error_iff.1 h with hcall | ⟨call, hcall, hanswer⟩
  · simp only [ofChecks, hcall]
  · simp only [ofChecks, hcall, hanswer]

/-- The results are those of the checks judged alone, up to the first that fails. -/
theorem map_passed_ofChecks : (ofChecks compare r ks).judgements.map (·.passed) =
    ((ks.map fun k => (k.judge compare r).toOption).takeWhile Option.isSome).filterMap id := by
  induction ks with
  | nil => rfl
  | cons k ks ih =>
    rcases h : k.judge compare r with e | passed
    · rw [judgements_ofChecks_cons_of_error h, List.map_cons, h]
      rfl
    · rw [(ofChecks_cons_of_ok ks h).1, List.map_cons, List.map_cons, ih, h]
      rfl

/-- What was judged are the first checks, and the next one, if there is one, fails. -/
theorem ofChecks_stops (compare : Comparison) (r : Record) (ks : List Check) : ∃ rest,
    ks = (ofChecks compare r ks).judgements.map (·.check) ++ rest ∧
      (rest = [] ∧ (ofChecks compare r ks).fault = none ∨ ∃ k after e, rest = k :: after ∧
        k.judge compare r = .error e ∧ (ofChecks compare r ks).fault = some e) := by
  induction ks with
  | nil => exact ⟨[], rfl, .inl ⟨rfl, rfl⟩⟩
  | cons k ks ih =>
    rcases h : k.judge compare r with e | passed
    · refine ⟨k :: ks, ?_, .inr ⟨k, ks, e, rfl, h, (ofChecks_cons_of_error ks h).1⟩⟩
      rw [judgements_ofChecks_cons_of_error h]
      rfl
    · obtain ⟨hjudgements, hfault⟩ := ofChecks_cons_of_ok ks h
      obtain ⟨rest, hks, hrest⟩ := ih
      refine ⟨rest, ?_, hfault.symm ▸ hrest⟩
      rw [hjudgements, List.map_cons, List.cons_append, ← hks]

variable {e : Evaluation} {groups : List String}

theorem length_results (e : Evaluation) (route : Route) :
    (e.results route).length = e.judgements.countP fun j => j.check.route = route := by
  rw [results, List.length_map, List.countP_eq_length_filter]

/-- What is counted and decided of the results that count on their own. -/
theorem everyLine_eq {s : Segment}
    (hj : List.Forall₂ (Condition.JudgedAs compare r groups) s.conditions e.judgements) :
    Report.everyLine e = (s.everySummary compare r).line := by
  have hcount : (s.everySummary compare r).count = (e.results .every).length := by
    rw [length_results]
    refine countP_eq_of_forall₂ hj fun c j hcj => ?_
    rw [decide_eq_true_iff, decide_eq_true_iff, hcj.1.every_iff]
  have hholds : (s.everySummary compare r).holds = e.everyPassed := by
    rw [Bool.eq_iff_iff, Segment.holds_everySummary_iff, everyPassed_iff_of_judged hj]
  rw [Report.everyLine, Summary.line, hcount, hholds]
  rfl

/-- What is counted and decided of the results of a group. -/
theorem groupLine_eq {s : Segment}
    (hj : List.Forall₂ (Condition.JudgedAs compare r groups) s.conditions e.judgements)
    (hnd : groups.Nodup) {name : String} {i : Nat} (hi : groups[i]? = some name) :
    Report.groupLine e name i = (s.groupSummary compare r name).line := by
  have hcount : (s.groupSummary compare r name).count = (e.results (.group i)).length := by
    rw [length_results]
    refine countP_eq_of_forall₂ hj fun c j hcj => ?_
    rw [decide_eq_true_iff, decide_eq_true_iff, hcj.1.group_iff hnd hi,
      Condition.orName?_eq_some_iff]
  have hholds : (s.groupSummary compare r name).holds = e.groupPassed i := by
    rw [Bool.eq_iff_iff, Segment.holds_groupSummary_iff, groupPassed_iff_of_judged hj hnd hi]
  rw [Report.groupLine, Summary.line, hcount, hholds]
  rfl

end Evaluation

/-! ## Reports -/

namespace Predicate

variable {s : Segment} {p : Predicate} {compare : Comparison} {r : Record}

theorem WellFormed.map_describe (h : WellFormed s p) :
    p.checks.map (Report.describe p.groups) = s.conditions.mapIdx fun i c => c.description i := by
  refine List.ext_getElem (by simp [h.checks.length_eq]) fun i hi hi' => ?_
  rw [List.length_map] at hi
  rw [List.length_mapIdx] at hi'
  have hplace : p.checks[i].index = i := by
    have hplaces := List.getElem_of_eq h.places (by simpa using hi)
    simpa using hplaces
  rw [List.getElem_map, List.getElem_mapIdx]
  exact (h.checks.get hi' hi).describe_eq hplace

theorem WellFormed.map_passed (h : WellFormed s p) (compare : Comparison) (r : Record) :
    (p.evaluate compare r).judgements.map (·.passed) = s.answers compare r := by
  have hresults : List.Forall₂ (· = ·) (s.conditions.map (·.result? compare r))
      (p.checks.map fun k => (k.judge compare r).toOption) := by
    rw [List.forall₂_map_left_iff, List.forall₂_map_right_iff]
    exact h.checks.imp fun _ _ hprep => hprep.toOption_judge.symm
  rw [List.forall₂_eq_eq_eq] at hresults
  rw [evaluate, Evaluation.map_passed_ofChecks, Segment.answers, hresults]

/-- The checks that were judged, and their results, are told by the segment. -/
theorem WellFormed.map_judgements (h : WellFormed s p) (compare : Comparison) (r : Record) :
    (p.evaluate compare r).judgements.map (fun j => (Report.describe p.groups j.check, j.passed)) =
      s.described compare r := by
  obtain ⟨rest, hks, -⟩ := Evaluation.ofChecks_stops compare r p.checks
  have hdescribed : (s.conditions.mapIdx fun i c => c.description i) =
      (p.evaluate compare r).judgements.map (fun j => Report.describe p.groups j.check) ++
        rest.map (Report.describe p.groups) := by
    rw [← h.map_describe, hks, List.map_append, List.map_map]
    rfl
  have hlength : ((p.evaluate compare r).judgements.map
      fun j => Report.describe p.groups j.check).length = (s.answers compare r).length := by
    rw [← h.map_passed, List.length_map, List.length_map]
  rw [Segment.described, hdescribed, ← List.append_nil (s.answers compare r),
    List.zip_append hlength, List.zip_nil_right, List.append_nil, ← h.map_passed, List.zip_map']

theorem WellFormed.matchedConditions_report (h : WellFormed s p) (traced : Bool) :
    (p.report compare traced r).matchedConditions =
      ((s.described compare r).filter (·.2)).map (·.1) := by
  rw [← h.map_judgements, List.filter_map, List.map_map]
  rfl

theorem WellFormed.map_conditionLine (h : WellFormed s p) :
    (p.evaluate compare r).judgements.map (Report.conditionLine p.groups) =
      s.resultLines compare r := by
  rw [Segment.resultLines, ← h.map_judgements, List.map_map]
  rfl

/-- Without a failure, every condition has a result. -/
theorem answered_of_ne_failed (h : s.Prepares p) (hout : ∀ f, p.outcome compare r ≠ .failed f) :
    ∀ c ∈ s.conditions, (c.result? compare r).isSome := by
  intro c hc
  obtain ⟨k, hk, hprep⟩ := exists_right_of_mem h.checks hc
  rcases k.answers_or_fails compare r with ⟨passed, hpassed⟩ | hfails
  · exact Option.isSome_iff_exists.2 ⟨passed, hprep.answers_iff.1 hpassed⟩
  · obtain ⟨f, hf⟩ := exists_outcome_eq_failed_iff.2 ⟨k, hk, hfails⟩
    exact absurd hf (hout f)

/-- A trace without a failure ends with the summaries. -/
theorem trace_of_ne_failed (h : ofSegment s = .ok p) (hout : ∀ f, p.outcome compare r ≠ .failed f) :
    (p.report compare true r).trace =
      s.resultLines compare r ++ (s.summaries compare r).map Summary.line := by
  have hp := Segment.prepares_of_ofSegment h
  have hwell := wellFormed_of_ofSegment h
  obtain ⟨hfault, hjudged⟩ := judgements_of_answered hp (answered_of_ne_failed hp hout)
  have hgroups : (p.groups.mapIdx fun i name =>
      Report.groupLine (p.evaluate compare r) name i) =
        s.groupNames.map fun name => (s.groupSummary compare r name).line := by
    rw [← hwell.groups]
    refine List.ext_getElem (by simp) fun i hi _ => ?_
    rw [List.length_mapIdx] at hi
    rw [List.getElem_mapIdx, List.getElem_map]
    exact Evaluation.groupLine_eq hjudged hp.nodup (List.getElem?_eq_getElem hi)
  have hclosing : Report.closingLines p (p.evaluate compare r) =
      (s.summaries compare r).map Summary.line := by
    rw [Report.closingLines, hfault]
    dsimp only
    rw [Evaluation.everyLine_eq hjudged, hgroups, Segment.summaries, List.map_cons, List.map_map]
    rfl
  rw [← hclosing, ← hwell.map_conditionLine]
  rfl

/-- A failure is that of the first check without a result, and a trace ends with it. -/
theorem trace_of_failed (h : WellFormed s p) {f : Failure}
    (hout : p.outcome compare r = .failed f) :
    (∃ k, p.checks[(s.answers compare r).length]? = some k ∧ k.Fails compare r f) ∧
      (p.report compare true r).trace =
        s.resultLines compare r ++ ["评估中止: " ++ f.message] := by
  obtain ⟨rest, hks, ⟨-, hfault⟩ | ⟨k, after, e, rfl, hjudge, hfault⟩⟩ :=
    Evaluation.ofChecks_stops compare r p.checks
  · -- without a fault the outcome is a verdict
    rw [outcome, Evaluation.outcome, evaluate, hfault] at hout
    dsimp only at hout
    split at hout <;> cases hout
  · have hf : f = .ofError e := by
      rw [outcome, Evaluation.outcome, evaluate, hfault] at hout
      exact (Outcome.failed.inj hout).symm
    have hmessage : f.message = e.message := by
      rw [hf]
      cases e <;> rfl
    have hlength : (s.answers compare r).length =
        ((p.evaluate compare r).judgements.map (·.check)).length := by
      rw [← h.map_passed, List.length_map, List.length_map]
    refine ⟨⟨k, ?_, Check.fails_iff_judge.2 ⟨e, hjudge, hf⟩⟩, ?_⟩
    · rw [hks, hlength]
      exact (List.getElem?_append_right le_rfl).trans (by rw [Nat.sub_self]; rfl)
    · have hclosing : Report.closingLines p (p.evaluate compare r) =
          ["评估中止: " ++ f.message] := by
        rw [Report.closingLines, evaluate, hfault, hmessage]
      rw [← hclosing, ← h.map_conditionLine]
      rfl

/-- What reports on a segment made ready tell of its evaluation on a record. -/
structure Explained (s : Segment) (p : Predicate) (compare : Comparison) (r : Record) : Prop where
  outcome : ∀ traced, (p.report compare traced r).outcome = p.outcome compare r
  matched : ∀ traced, (p.report compare traced r).matchedConditions =
    ((s.described compare r).filter (·.2)).map (·.1)
  untraced : (p.report compare false r).trace = []
  groups : p.groups = s.groupNames
  counted : ((s.summaries compare r).map (·.count)).sum = s.conditions.length
  closed : (∀ f, p.outcome compare r ≠ .failed f) →
    (∀ c ∈ s.conditions, (c.result? compare r).isSome) ∧
      (p.report compare true r).trace =
        s.resultLines compare r ++ (s.summaries compare r).map Summary.line ∧
      ((∀ x ∈ s.summaries compare r, x.holds = true) ↔ p.outcome compare r = .matched s)
  aborted : ∀ f, p.outcome compare r = .failed f →
    (∃ k, p.checks[(s.answers compare r).length]? = some k ∧ k.Fails compare r f) ∧
      (p.report compare true r).trace = s.resultLines compare r ++ ["评估中止: " ++ f.message]

/-- The report on a segment made ready has the outcome of evaluating it, traced or not, and lists
the conditions that are positive. A trace has a line for each result and ends with the summaries, or
with the failure. -/
theorem report_explains (h : ofSegment s = .ok p) (compare : Comparison) (input : Json)
    (state : Option Json) : Explained s p compare (.resolve input state) := by
  have hp := Segment.prepares_of_ofSegment h
  have hwell := wellFormed_of_ofSegment h
  have hnamed : ∀ c ∈ s.conditions, c.connective = .or → ∃ name, c.InGroup name := by
    intro c hc hor
    obtain ⟨k, -, hprep⟩ := exists_right_of_mem hp.checks hc
    obtain ⟨-, name, -, -, hname⟩ := hprep.route.exists_name hor
    exact ⟨name, hor, hname⟩
  refine ⟨fun traced => rfl, hwell.matchedConditions_report, rfl, hwell.groups,
    Segment.sum_count_summaries (hwell.groups ▸ hp.nodup) hnamed, fun hout => ?_,
    fun f hout => trace_of_failed hwell hout⟩
  have answered := answered_of_ne_failed hp hout
  refine ⟨answered, trace_of_ne_failed h hout, ?_⟩
  obtain ⟨hfault, hjudged⟩ := judgements_of_answered hp answered
  rw [Segment.holds_iff_forall_summaries, ← Evaluation.verdict_iff_holds hp hjudged, outcome,
    Evaluation.outcome, hfault, hp.segment]
  cases (p.evaluate compare (.resolve input state)).verdict p.groups.length <;> simp

/-- The report on the sample for a record on which all its conditions are positive. -/
theorem sample_trace : ofSegment .sample = .ok .sample ∧
    (Predicate.sample.report (fun _ _ _ => .ok true) true
      (.resolve Segment.sampleInput none)).trace =
        ["conditions[0] [AND]: age lessthan [limit] => MATCHED",
          "conditions[1] [OR 'free']: plan isnull [] => MATCHED", "AND 组 (1 个条件) => MATCHED",
          "OR 组 'free' (1 个条件) => MATCHED"] := by
  have hout : ∀ f, Predicate.sample.outcome (fun _ _ _ => .ok true)
      (.resolve Segment.sampleInput none) ≠ .failed f := by
    intro f hf
    cases hf
  refine ⟨ofSegment_sample, ((report_explains ofSegment_sample (fun _ _ _ => .ok true)
    Segment.sampleInput none).closed hout).2.1.trans ?_⟩
  decide +kernel

end Predicate

end Audience
