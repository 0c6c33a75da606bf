import Audience.Proofs.Preparation

/-!
# Judging checks

Judged alone on a record, a check either asks the comparison for an answer and gets one
(`Check.Answers`) or fails (`Check.Fails`). It fails if it lacks something (`Check.Lacks`): its
subject is looked up first, then its operands from left to right. If it lacks nothing then it asks
(`Check.Asks`), and fails if the comparison does.

The checks of a predicate are judged in turn until one fails (`ofChecks_append`), whatever the
answers are. So the outcome is a failure exactly if some check fails alone, and then it is the
failure of the first such check (`outcome_eq_failed_iff`).
-/

namespace Audience

/-! ## One operand -/

namespace OperandSlot

/-- The value of a slot in a record. -/
inductive Supplies (r : Record) : OperandSlot → Json → Prop
  | literal (j : Json) (label : String) : Supplies r ⟨some (.literal j), label⟩ j
  | reference {name : String} {j : Json} (label : String) (h : r.get? name = some j) :
      Supplies r ⟨some (.reference name), label⟩ j

/-- A slot without a value in a record: nothing was given for it, or its variable is not defined. -/
inductive Empty (r : Record) : OperandSlot → Prop
  | absent (label : String) : Empty r ⟨none, label⟩
  | undefined {name : String} (label : String) (h : r.get? name = none) :
      Empty r ⟨some (.reference name), label⟩

variable {r : Record} {slot : OperandSlot}

theorem bind_resolve?_eq_some_iff {j : Json} :
    slot.operand.bind (·.resolve? r) = some j ↔ slot.Supplies r j := by
  obtain ⟨_ | operand, label⟩ := slot
  · exact ⟨fun h => (by cases h), fun h => (by cases h)⟩
  cases operand with
  | literal j' =>
    constructor
    · intro h
      obtain rfl := Option.some.inj h
      exact .literal _ _
    · intro h
      cases h
      rfl
  | reference name =>
    constructor
    · exact .reference label
    · intro h
      cases h with
      | reference _ h => exact h

theorem bind_resolve?_eq_none_iff : slot.operand.bind (·.resolve? r) = none ↔ slot.Empty r := by
  obtain ⟨_ | operand, label⟩ := slot
  · exact ⟨fun _ => .absent label, fun _ => rfl⟩
  cases operand with
  | literal j => exact ⟨fun h => (by cases h), fun h => (by cases h)⟩
  | reference name =>
    constructor
    · exact .undefined label
    · intro h
      cases h with
      | undefined _ h => exact h

theorem resolve_eq_ok_iff {j : Json} : slot.resolve r = .ok j ↔ slot.Supplies r j := by
  rw [← bind_resolve?_eq_some_iff, resolve]
  cases slot.operand.bind (·.resolve? r) <;> simp

theorem resolve_eq_error_iff {e : Error} :
    slot.resolve r = .error e ↔ slot.Empty r ∧ e = .missingVariable slot.label := by
  rw [← bind_resolve?_eq_none_iff, resolve]
  cases slot.operand.bind (·.resolve? r) <;> simp [eq_comm]

end OperandSlot

/-! ## One check -/

/-- A variable that is looked up is not defined. -/
def Failure.undefined (name : String) : Failure :=
  ⟨"The Variable " ++ name ++ " is required by a Rule but is not defined.", ""⟩

/-- A test fails for some reason. -/
def Failure.ofTest (test reason : String) : Failure :=
  ⟨"操作符 " ++ test ++ " 执行失败: " ++ reason, reason⟩

namespace Check

/-- What a check asks the comparison once all its look-ups have succeeded. -/
structure Asks (r : Record) (c : Check) (call : Call) : Prop where
  subject : r.get? c.subject = some call.subject
  test : call.test = c.test
  operands : List.Forall₂ (OperandSlot.Supplies r) c.operands call.operands

/-- The first look-up of a check that fails, by the name that is told. -/
inductive Lacks (r : Record) (c : Check) : String → Prop
  | subject (h : r.get? c.subject = none) : Lacks r c c.subject
  | operand {before after : List OperandSlot} {slot : OperandSlot}
      (hsubject : (r.get? c.subject).isSome) (h : c.operands = before ++ slot :: after)
      (hbefore : ∀ o ∈ before, ∃ j, o.Supplies r j) (hslot : slot.Empty r) : Lacks r c slot.label

/-- A check judged alone gets this answer. -/
def Answers (compare : Comparison) (r : Record) (c : Check) (passed : Bool) : Prop :=
  ∃ call, c.Asks r call ∧ compare call.subject call.test call.operands = .ok passed

/-- A check judged alone fails like this. What it lacks is told as a missing variable. When the
comparison fails, a missing variable and a failed test are told as they are, and any other error as
a failure of the check's own test. -/
inductive Fails (compare : Comparison) (r : Record) (c : Check) : Failure → Prop
  | lacking {name : String} (h : c.Lacks r name) :
      Fails compare r c (.undefined name)
  | missing {call : Call} {name : String} (ha : c.Asks r call)
      (h : compare call.subject call.test call.operands = .error (.missingVariable name)) :
      Fails compare r c (.undefined name)
  | failed {call : Call} {operator detail : String} (ha : c.Asks r call)
      (h : compare call.subject call.test call.operands =
        .error (.operatorFailure operator detail)) :
      Fails compare r c (.ofTest operator detail)
  | other {call : Call} {e : Error} (ha : c.Asks r call)
      (h : compare call.subject call.test call.operands = .error e)
      (hmissing : ∀ name, e ≠ .missingVariable name)
      (hfailed : ∀ operator detail, e ≠ .operatorFailure operator detail) :
      Fails compare r c (.ofTest c.test e.message)

variable {compare : Comparison} {r : Record} {c : Check}

theorem call_eq_ok_iff {call : Call} : c.call r = .ok call ↔ c.Asks r call := by
  unfold Check.call
  rcases hs : r.get? c.subject with _ | subject
  · constructor
    · intro h
      cases h
    · intro h
      cases hs.symm.trans h.subject
  · constructor
    · intro h
      obtain ⟨operands, ho, h⟩ := bind_eq_ok_iff.1 h
      obtain rfl := Except.ok.inj h
      exact ⟨hs, rfl, (mapM_eq_ok_iff.1 ho).imp fun _ _ => OperandSlot.resolve_eq_ok_iff.1⟩
    · rintro ⟨hsubject, htest, hoperands⟩
      obtain ⟨subject', test, operands⟩ := call
      obtain rfl := Option.some.inj (hs.symm.trans hsubject)
      obtain rfl := htest
      refine bind_eq_ok_iff.2 ⟨operands, mapM_eq_ok_iff.2 ?_, rfl⟩
      exact hoperands.imp fun _ _ => OperandSlot.resolve_eq_ok_iff.2

theorem call_eq_error_iff {e : Error} :
    c.call r = .error e ↔ ∃ name, c.Lacks r name ∧ e = .missingVariable name := by
  unfold Check.call
  rcases hs : r.get? c.subject with _ | subject
  · constructor
    · intro h
      exact ⟨c.subject, .subject hs, (Except.error.inj h).symm⟩
    · rintro ⟨name, h, rfl⟩
      cases h with
      | subject => rfl
      | operand hsubject => simp [hs] at hsubject
  · have key : (c.operands.mapM (·.resolve r) >>= fun operands =>
        (pure ⟨subject, c.test, operands⟩ : Except Error Call)) = .error e ↔
        c.operands.mapM (·.resolve r) = .error e := by
      simp [bind_eq_error_iff, pure, Except.pure]
    refine key.trans (mapM_eq_error_iff.trans ?_)
    constructor
    · rintro ⟨before, slot, after, h, hbefore, hslot⟩
      obtain ⟨hempty, rfl⟩ := OperandSlot.resolve_eq_error_iff.1 hslot
      refine ⟨slot.label, .operand (by simp [hs]) h (fun o ho => ?_) hempty, rfl⟩
      obtain ⟨j, hj⟩ := hbefore o ho
      exact ⟨j, OperandSlot.resolve_eq_ok_iff.1 hj⟩
    · rintro ⟨name, h, rfl⟩
      cases h with
      | subject h => cases hs.symm.trans h
      | @operand before after slot _ h hbefore hslot =>
        refine ⟨before, slot, after, h, fun o ho => ?_,
          OperandSlot.resolve_eq_error_iff.2 ⟨hslot, rfl⟩⟩
        obtain ⟨j, hj⟩ := hbefore o ho
        exact ⟨j, OperandSlot.resolve_eq_ok_iff.2 hj⟩

/-- A check judged alone. -/
def judge (compare : Comparison) (r : Record) (c : Check) : Except Error Bool := do
  let call ← c.call r
  c.answer compare call

theorem answers_iff_judge {passed : Bool} :
    c.Answers compare r passed ↔ c.judge compare r = .ok passed := by
  unfold Answers judge
  rw [bind_eq_ok_iff]
  refine exists_congr fun call => ?_
  rw [call_eq_ok_iff, answer, mapError_eq_ok_iff, Call.answer]

/-- The error of the comparison as a failure of the check. -/
theorem fails_ofError {call : Call} {e : Error} (ha : c.Asks r call)
    (h : compare call.subject call.test call.operands = .error e) :
    c.Fails compare r (.ofError (c.toldAs e)) := by
  cases e with
  | missingVariable name => exact .missing ha h
  | operatorFailure operator detail => exact .failed ha h
  | _ => exact .other ha h (fun _ he => by cases he) (fun _ _ he => by cases he)

theorem fails_iff_judge {f : Failure} :
    c.Fails compare r f ↔ ∃ e, c.judge compare r = .error e ∧ f = .ofError e := by
  unfold judge
  simp only [bind_eq_error_iff, call_eq_ok_iff, call_eq_error_iff, answer, mapError_eq_error_iff,
    Call.answer]
  constructor
  · intro h
    cases h with
    | @lacking name h => exact ⟨.missingVariable name, .inl ⟨name, h, rfl⟩, rfl⟩
    | missing ha h => exact ⟨_, .inr ⟨_, ha, _, h, rfl⟩, rfl⟩
    | failed ha h => exact ⟨_, .inr ⟨_, ha, _, h, rfl⟩, rfl⟩
    | @other call e ha h hmissing hfailed =>
      refine ⟨_, .inr ⟨_, ha, _, h, rfl⟩, ?_⟩
      cases e with
      | missingVariable name => exact absurd rfl (hmissing name)
      | operatorFailure operator detail => exact absurd rfl (hfailed operator detail)
      | _ => rfl
  · rintro ⟨e, ⟨name, h, rfl⟩ | ⟨call, ha, e', h, rfl⟩, rfl⟩
    · exact .lacking h
    · exact fails_ofError ha h

theorem answers_or_fails (compare : Comparison) (r : Record) (c : Check) :
    (∃ passed, c.Answers compare r passed) ∨ ∃ f, c.Fails compare r f := by
  rcases h : c.judge compare r with e | passed
  · exact .inr ⟨_, fails_iff_judge.2 ⟨e, h, rfl⟩⟩
  · exact .inl ⟨passed, answers_iff_judge.2 h⟩

theorem Answers.not_fails {passed : Bool} {f : Failure} (h : c.Answers compare r passed) :
    ¬ c.Fails compare r f := by
  intro hf
  obtain ⟨e, he, -⟩ := fails_iff_judge.1 hf
  cases (answers_iff_judge.1 h).symm.trans he

end Check

/-! ## Checks in turn -/

/-- The calls for judging checks up to one that fails: one for each check before it, in their order,
and one for the failing check if that lacks nothing. -/
def Check.AskedUpTo (r : Record) (before : List Check) (c : Check) (calls : List Call) : Prop :=
  ∃ asked, List.Forall₂ (Asks r) before asked ∧
    ((∃ name, c.Lacks r name) ∧ calls = asked ∨ ∃ call, c.Asks r call ∧ calls = asked ++ [call])

/-- A check is judged to have this result. -/
def Check.JudgedAs (compare : Comparison) (r : Record) (c : Check) (j : Judgement) : Prop :=
  j.check = c ∧ c.Answers compare r j.passed

namespace Evaluation

variable {compare : Comparison} {r : Record} {c : Check} {cs before : List Check}

/-- Checks that answer are judged in their order, and then the evaluation goes on. -/
theorem ofChecks_append (h : ∀ b ∈ before, ∃ passed, b.Answers compare r passed) :
    ∃ calls judgements, List.Forall₂ (Check.Asks r) before calls ∧
      List.Forall₂ (Check.JudgedAs compare r) before judgements ∧
      ∀ rest, ofChecks compare r (before ++ rest) =
        ⟨calls ++ (ofChecks compare r rest).calls,
          judgements ++ (ofChecks compare r rest).judgements, (ofChecks compare r rest).fault⟩ := by
  induction before with
  | nil => exact ⟨[], [], .nil, .nil, fun rest => rfl⟩
  | cons b before ih =>
    obtain ⟨passed, hb⟩ := h b List.mem_cons_self
    obtain ⟨call, hcall, hanswer⟩ := bind_eq_ok_iff.1 (Check.answers_iff_judge.1 hb)
    obtain ⟨calls, judgements, hcalls, hjudged, hrest⟩ :=
      ih fun b' hb' => h b' (List.mem_cons_of_mem _ hb')
    refine ⟨call :: calls, ⟨b, passed⟩ :: judgements, .cons (Check.call_eq_ok_iff.1 hcall) hcalls,
      .cons ⟨rfl, hb⟩ hjudged, fun rest => ?_⟩
    simp only [List.cons_append, ofChecks, hcall, hanswer, hrest rest]

/-- A check that fails ends the evaluation. -/
theorem ofChecks_cons_of_error {e : Error} (cs : List Check) (h : c.judge compare r = .error e) :
    (ofChecks compare r (c :: cs)).fault = some e ∧
      ((∃ name, c.Lacks r name) ∧ (ofChecks compare r (c :: cs)).calls = [] ∨
        ∃ call, c.Asks r call ∧ (ofChecks compare r (c :: cs)).calls = [call]) := by
  rcases bind_eq_error_iff.1 h with hcall | ⟨call, hcall, hanswer⟩
  · obtain ⟨name, hlacks, -⟩ := Check.call_eq_error_iff.1 hcall
    simp only [ofChecks, hcall]
    exact ⟨trivial, .inl ⟨⟨name, hlacks⟩, trivial⟩⟩
  · simp only [ofChecks, hcall, hanswer]
    exact ⟨trivial, .inr ⟨call, Check.call_eq_ok_iff.1 hcall, rfl⟩⟩

/-- Either all checks answer, or one is the first that fails. -/
theorem all_answer_or_first_fails (compare : Comparison) (r : Record) (cs : List Check) :
    (∀ c ∈ cs, ∃ passed, c.Answers compare r passed) ∨
      ∃ before c after, cs = before ++ c :: after ∧
        (∀ b ∈ before, ∃ passed, b.Answers compare r passed) ∧ ∃ f, c.Fails compare r f := by
  induction cs with
  | nil => exact .inl fun c hc => (by cases hc)
  | cons c cs ih =>
    rcases c.answers_or_fails compare r with hc | hc
    · rcases ih with hall | ⟨before, c', after, rfl, hbefore, hfails⟩
      · refine .inl fun c' hc' => ?_
        rcases List.mem_cons.1 hc' with rfl | hc'
        · exact hc
        · exact hall c' hc'
      · refine .inr ⟨c :: before, c', after, rfl, fun b hb => ?_, hfails⟩
        rcases List.mem_cons.1 hb with rfl | hb
        · exact hc
        · exact hbefore b hb
    · exact .inr ⟨[], c, cs, rfl, fun b hb => (by cases hb), hc⟩

/-- The comparison is used for nothing but the calls. -/
theorem ofChecks_congr {compare' : Comparison} (cs : List Check)
    (h : ∀ call ∈ (ofChecks compare r cs).calls, call.answer compare' = call.answer compare) :
    ofChecks compare' r cs = ofChecks compare r cs := by
  induction cs with
  | nil => rfl
  | cons c cs ih =>
    rcases hcall : c.call r with e | call
    · simp only [ofChecks, hcall]
    · have hsame : call ∈ (ofChecks compare r (c :: cs)).calls →
          c.answer compare' call = c.answer compare call := fun hmem => by
        rw [Check.answer, h call hmem, ← Check.answer]
      rcases hanswer : c.answer compare call with e | passed
      · have hmem : call ∈ (ofChecks compare r (c :: cs)).calls := by
          simp only [ofChecks, hcall, hanswer, List.mem_singleton]
        simp only [ofChecks, hcall, hsame hmem, hanswer]
      · have hcalls : (ofChecks compare r (c :: cs)).calls =
            call :: (ofChecks compare r cs).calls := by
          simp only [ofChecks, hcall, hanswer]
        rw [hcalls] at h hsame
        have hrest := ih fun call' hc' => h call' (List.mem_cons_of_mem _ hc')
        simp only [ofChecks, hcall, hsame List.mem_cons_self, hanswer, hrest]

end Evaluation

/-! ## Predicates -/

namespace Predicate

variable {p : Predicate} {compare : Comparison} {r : Record} {before after : List Check} {c : Check}

/-- If all checks answer then each is asked for once and the results are kept. -/
theorem evaluate_of_all_answer (h : ∀ c ∈ p.checks, ∃ passed, c.Answers compare r passed) :
    (p.evaluate compare r).fault = none ∧
      List.Forall₂ (Check.Asks r) p.checks (p.evaluate compare r).calls ∧
      List.Forall₂ (Check.JudgedAs compare r) p.checks (p.evaluate compare r).judgements := by
  obtain ⟨calls, judgements, hcalls, hjudged, hrest⟩ := Evaluation.ofChecks_append h
  have he : p.evaluate compare r = ⟨calls, judgements, none⟩ := by
    have := hrest []
    rwa [List.append_nil, Evaluation.ofChecks, List.append_nil, List.append_nil] at this
  rw [he]
  exact ⟨rfl, hcalls, hjudged⟩

/-- The first check that fails ends the evaluation with its failure. -/
theorem evaluate_of_first_failure {f : Failure} (h : p.checks = before ++ c :: after)
    (hbefore : ∀ b ∈ before, ∃ passed, b.Answers compare r passed) (hf : c.Fails compare r f) :
    p.outcome compare r = .failed f ∧ c.AskedUpTo r before (p.evaluate compare r).calls := by
  obtain ⟨e, he, rfl⟩ := Check.fails_iff_judge.1 hf
  obtain ⟨asked, judgements, hasked, -, hrest⟩ := Evaluation.ofChecks_append hbefore
  obtain ⟨hfault, hcalls⟩ := Evaluation.ofChecks_cons_of_error after he
  unfold outcome evaluate
  rw [h, hrest (c :: after), Evaluation.outcome, hfault]
  refine ⟨rfl, asked, hasked, ?_⟩
  rcases hcalls with ⟨hlacks, hcalls⟩ | ⟨call, hcall, hcalls⟩
  · exact .inl ⟨hlacks, by rw [hcalls, List.append_nil]⟩
  · exact .inr ⟨call, hcall, by rw [hcalls]⟩

theorem outcome_ne_failed_of_all_answer (h : ∀ c ∈ p.checks, ∃ passed, c.Answers compare r passed)
    (f : Failure) : p.outcome compare r ≠ .failed f := by
  unfold outcome
  rw [Evaluation.outcome, (evaluate_of_all_answer h).1]
  dsimp only
  split <;> simp

/-- The outcome is a failure exactly if it is that of the first check that fails. -/
theorem outcome_eq_failed_iff {f : Failure} :
    p.outcome compare r = .failed f ↔ ∃ before c after, p.checks = before ++ c :: after ∧
      (∀ b ∈ before, ∃ passed, b.Answers compare r passed) ∧ c.Fails compare r f := by
  constructor
  · intro hout
    rcases Evaluation.all_answer_or_first_fails compare r p.checks with hall | hfirst
    · exact absurd hout (outcome_ne_failed_of_all_answer hall f)
    · obtain ⟨before, c, after, h, hbefore, f', hf'⟩ := hfirst
      have hout' := (evaluate_of_first_failure h hbefore hf').1
      obtain rfl := Outcome.failed.inj (hout.symm.trans hout')
      exact ⟨before, c, after, h, hbefore, hf'⟩
  · rintro ⟨before, c, after, h, hbefore, hf⟩
    exact (evaluate_of_first_failure h hbefore hf).1

/-- Some check that fails is enough for a failure, whatever the others answer. -/
theorem exists_outcome_eq_failed_iff :
    (∃ f, p.outcome compare r = .failed f) ↔ ∃ c ∈ p.checks, ∃ f, c.Fails compare r f := by
  constructor
  · rintro ⟨f, hf⟩
    obtain ⟨before, c, after, h, -, hc⟩ := outcome_eq_failed_iff.1 hf
    exact ⟨c, h ▸ List.mem_append_right _ List.mem_cons_self, f, hc⟩
  · rintro ⟨c, hc, f, hf⟩
    rcases Evaluation.all_answer_or_first_fails compare r p.checks with hall | hfirst
    · obtain ⟨passed, hpassed⟩ := hall c hc
      exact absurd hf hpassed.not_fails
    · obtain ⟨before, c', after, h, hbefore, f', hf'⟩ := hfirst
      exact ⟨f', (evaluate_of_first_failure h hbefore hf').1⟩

/-- A predicate made from a segment has its conditions as checks, in their order. Its evaluation
fails exactly if one of them fails alone, and then as the first such check does. The comparison is
asked once for each check up to that one, in their order, and for nothing else. -/
theorem fails_as_first_failing_check {s : Segment} (h : ofSegment s = .ok p) (compare : Comparison)
    (r : Record) :
    List.Forall₂ (Condition.Prepares p.groups) s.conditions p.checks ∧
      ((∃ f, p.outcome compare r = .failed f) ↔ ∃ c ∈ p.checks, ∃ f, c.Fails compare r f) ∧
      (∀ f, p.outcome compare r = .failed f ↔ ∃ before c after, p.checks = before ++ c :: after ∧
        (∀ b ∈ before, ∃ passed, b.Answers compare r passed) ∧ c.Fails compare r f) ∧
      (∀ before c after, p.checks = before ++ c :: after →
        (∀ b ∈ before, ∃ passed, b.Answers compare r passed) → (∃ f, c.Fails compare r f) →
        c.AskedUpTo r before (p.evaluate compare r).calls) ∧
      ((∀ c ∈ p.checks, ¬ ∃ f, c.Fails compare r f) →
        List.Forall₂ (Check.Asks r) p.checks (p.evaluate compare r).calls) ∧
      ∀ compare' : Comparison,
        (∀ call ∈ (p.evaluate compare r).calls, call.answer compare' = call.answer compare) →
        p.evaluate compare' r = p.evaluate compare r := by
  refine ⟨(Segment.prepares_of_ofSegment h).checks, exists_outcome_eq_failed_iff,
    fun f => outcome_eq_failed_iff, ?_, ?_, fun compare' => Evaluation.ofChecks_congr p.checks⟩
  · rintro before c after hchecks hbefore ⟨f, hf⟩
    exact (evaluate_of_first_failure hchecks hbefore hf).2
  · intro hnone
    refine (evaluate_of_all_answer fun c hc => ?_).2.1
    rcases c.answers_or_fails compare r with hanswers | hfails
    · exact hanswers
    · exact absurd hfails (hnone c hc)

/-- The first check of the sample answers in the negative, the second one still fails. -/
theorem sample_fails_after_negative_answer :
    ofSegment .sample = .ok .sample ∧
      Predicate.sample.outcome (fun _ _ _ => .ok false)
          ⟨.object [("age", .ofInt 20), ("limit", .ofInt 18)]⟩ =
        .failed ⟨"The Variable plan is required by a Rule but is not defined.", ""⟩ := by
  have hundefined : (Record.mk (.object [("age", .ofInt 20), ("limit", .ofInt 18)])).get? "plan" =
      none := by cbv
  have hasks : Check.Asks ⟨.object [("age", .ofInt 20), ("limit", .ofInt 18)]⟩
      ⟨0, "age", "lessthan", [⟨some (.reference "limit"), "limit"⟩], .every⟩
      ⟨.ofInt 20, "lessthan", [.ofInt 18]⟩ := ⟨rfl, rfl, .cons (.reference "limit" rfl) .nil⟩
  refine ⟨ofSegment_sample, ((fails_as_first_failing_check ofSegment_sample _ _).2.2.1 _).2
    ⟨[_], _, [], rfl, ?_, .lacking (.subject hundefined)⟩⟩
  intro b hb
  obtain rfl := List.mem_singleton.1 hb
  exact ⟨false, _, hasks, rfl⟩

end Predicate

end Audience
