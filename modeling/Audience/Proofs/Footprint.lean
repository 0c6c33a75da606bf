import Audience.Comparison.Standard
import Audience.Proofs.Fields
import Audience.Proofs.Judgement
import Audience.Report

/-!
# The footprint of a predicate

`Predicate.requiredFields` lists the variables that evaluation depends on. It is sound: records that
agree on it (`Record.AgreeOn`) are evaluated alike, with the same calls of the comparison
(`evaluate_congr`). It is also tight: evaluation fails as soon as one of these variables is not
defined (`failed_of_undefined`). A segment names the same variables in its conditions, as their
subjects and as references among the values that their tests compare with.
-/

namespace Audience

/-- Two records have the same values for some variables, which may be undefined in both. -/
def Record.AgreeOn (names : List String) (r r' : Record) : Prop :=
  ∀ name ∈ names, r.get? name = r'.get? name

/-! ## Checks -/

namespace Check

variable {c : Condition} {k : Check} {groups : List String} {name : String} {r r' : Record}

theorem mem_lookups_iff :
    name ∈ k.lookups ↔ name = k.subject ∨ ∃ o ∈ k.operands, o.operand = some (.reference name) := by
  unfold lookups
  rw [List.mem_cons, List.mem_filterMap]
  refine or_congr_right (exists_congr fun o => and_congr_right fun _ => ?_)
  obtain ⟨_ | operand, label⟩ := o
  · simp
  · cases operand <;> simp

/-- A check looks up the subject of its condition and the references that the test compares with. -/
theorem mem_lookups_iff_condition (h : c.Prepares groups k) :
    name ∈ k.lookups ↔ name = c.subject ∨ ∃ g ∈ c.compared, g.refersTo? = some name := by
  rw [mem_lookups_iff, h.subject]
  refine or_congr_right ⟨?_, ?_⟩
  · rintro ⟨o, ho, href⟩
    obtain ⟨g, hg, slot, hfills⟩ := exists_left_of_mem h.forall₂_compared ho
    exact ⟨g, hg, (hfills.reference_iff name).1 href⟩
  · rintro ⟨g, hg, href⟩
    obtain ⟨o, ho, slot, hfills⟩ := exists_right_of_mem h.forall₂_compared hg
    exact ⟨o, ho, (hfills.reference_iff name).2 href⟩

theorem resolve_congr {o : OperandSlot} (ho : o ∈ k.operands) (h : r.AgreeOn k.lookups r') :
    o.resolve r = o.resolve r' := by
  have hvalue : o.operand.bind (·.resolve? r) = o.operand.bind (·.resolve? r') := by
    rcases hoperand : o.operand with _ | operand
    · rfl
    cases operand with
    | literal j => rfl
    | reference name => exact h name (mem_lookups_iff.2 (.inr ⟨o, ho, hoperand⟩))
  unfold OperandSlot.resolve
  rw [hvalue]

theorem call_congr (h : r.AgreeOn k.lookups r') : k.call r = k.call r' := by
  have hsubject : r.get? k.subject = r'.get? k.subject := h _ (mem_lookups_iff.2 (.inl rfl))
  have hoperands : k.operands.mapM (·.resolve r) = k.operands.mapM (·.resolve r') := by
    refine mapM_congr_of_forall₂ (List.forall₂_same.2 fun o ho => ?_)
    exact resolve_congr ho h
  unfold call
  rw [hsubject, hoperands]

/-- A check that asks the comparison has found the values of all its variables. -/
theorem Asks.isSome_get? {call : Call} (h : k.Asks r call) (hname : name ∈ k.lookups) :
    (r.get? name).isSome := by
  rcases mem_lookups_iff.1 hname with rfl | ⟨o, ho, href⟩
  · rw [h.subject]
    rfl
  · obtain ⟨j, -, hsupplies⟩ := exists_right_of_mem h.operands ho
    cases hsupplies with
    | literal => cases href
    | reference label hget =>
      obtain rfl := Operand.reference.inj (Option.some.inj href)
      rw [hget]
      rfl

theorem fails_of_undefined (compare : Comparison) (hname : name ∈ k.lookups)
    (h : r.get? name = none) : ∃ f, k.Fails compare r f := by
  rcases k.answers_or_fails compare r with ⟨passed, call, hasks, -⟩ | hfails
  · have hsome := hasks.isSome_get? hname
    rw [h] at hsome
    cases hsome
  · exact hfails

end Check

/-! ## Predicates -/

theorem Evaluation.ofChecks_congr_record {r r' : Record} (compare : Comparison) (ks : List Check)
    (h : ∀ k ∈ ks, k.call r = k.call r') : ofChecks compare r ks = ofChecks compare r' ks := by
  induction ks with
  | nil => rfl
  | cons k ks ih =>
    unfold ofChecks
    rw [h k List.mem_cons_self, ih fun k' hk' => h k' (List.mem_cons_of_mem _ hk')]

namespace Predicate

variable {s : Segment} {p : Predicate} {name : String} {r r' : Record}

theorem mem_requiredFields_iff : name ∈ p.requiredFields ↔ ∃ k ∈ p.checks, name ∈ k.lookups := by
  rw [requiredFields, Fields.mem_keys_ofList, List.map_map, List.mem_map]
  simp [List.mem_flatMap]

theorem pairwise_requiredFields (p : Predicate) : p.requiredFields.Pairwise (· < ·) :=
  Fields.pairwise_keys_ofList _

theorem evaluate_congr (compare : Comparison) (h : r.AgreeOn p.requiredFields r') :
    p.evaluate compare r = p.evaluate compare r' := by
  refine Evaluation.ofChecks_congr_record compare p.checks fun k hk => Check.call_congr ?_
  intro name hname
  exact h name (mem_requiredFields_iff.2 ⟨k, hk, hname⟩)

theorem failed_of_undefined (compare : Comparison) (hname : name ∈ p.requiredFields)
    (h : r.get? name = none) : ∃ f, p.outcome compare r = .failed f := by
  obtain ⟨k, hk, hlookup⟩ := mem_requiredFields_iff.1 hname
  exact exists_outcome_eq_failed_iff.2 ⟨k, hk, Check.fails_of_undefined compare hlookup h⟩

theorem mem_requiredFields_iff_condition (h : s.Prepares p) :
    name ∈ p.requiredFields ↔
      ∃ c ∈ s.conditions, name = c.subject ∨ ∃ g ∈ c.compared, g.refersTo? = some name := by
  rw [mem_requiredFields_iff]
  constructor
  · rintro ⟨k, hk, hname⟩
    obtain ⟨c, hc, hprep⟩ := exists_left_of_mem h.checks hk
    exact ⟨c, hc, (Check.mem_lookups_iff_condition hprep).1 hname⟩
  · rintro ⟨c, hc, hname⟩
    obtain ⟨k, hk, hprep⟩ := exists_right_of_mem h.checks hc
    exact ⟨k, hk, (Check.mem_lookups_iff_condition hprep).2 hname⟩

/-- The required fields of a predicate determine how records are evaluated, must all be defined, and
are the variables that the conditions name: their subjects, and what the values refer to that their
tests compare with. They are listed once each, in order. -/
theorem requiredFields_footprint (h : ofSegment s = .ok p) (compare : Comparison) :
    (∀ r r' : Record, r.AgreeOn p.requiredFields r' →
      p.outcome compare r = p.outcome compare r' ∧
        (∀ traced, p.report compare traced r = p.report compare traced r') ∧
        (p.evaluate compare r).calls = (p.evaluate compare r').calls) ∧
      (∀ r : Record, (∃ name ∈ p.requiredFields, r.get? name = none) →
        ∃ f, p.outcome compare r = .failed f) ∧
      (∀ name, name ∈ p.requiredFields ↔
        ∃ c ∈ s.conditions, name = c.subject ∨ ∃ g ∈ c.compared, g.refersTo? = some name) ∧
      p.requiredFields.Pairwise (· < ·) := by
  refine ⟨fun r r' hagree => ?_, ?_, ?_, pairwise_requiredFields p⟩
  · have he := evaluate_congr compare hagree
    refine ⟨?_, fun traced => ?_, by rw [he]⟩
    · rw [outcome, outcome, he]
    · rw [report, report, he]
  · rintro r ⟨name, hname, hundefined⟩
    exact failed_of_undefined compare hname hundefined
  · exact fun name => mem_requiredFields_iff_condition (Segment.prepares_of_ofSegment h)

/-- The sample is evaluated alike on records that differ in a variable it does not require. -/
theorem sample_ignores_other_variables :
    ofSegment .sample = .ok .sample ∧
      Predicate.sample.outcome .standard ⟨Segment.sampleInput⟩ =
        Predicate.sample.outcome .standard
          ⟨.object [("age", .ofInt 9), ("limit", .ofInt 18), ("name", .null), ("plan", .null)]⟩ := by
  have hfields : Predicate.sample.requiredFields = ["age", "limit", "plan"] := by decide +kernel
  refine ⟨ofSegment_sample, ((requiredFields_footprint ofSegment_sample .standard).1 _ _ ?_).1⟩
  intro name hname
  rw [hfields] at hname
  simp only [List.mem_cons, List.not_mem_nil, or_false] at hname
  rcases hname with rfl | rfl | rfl <;> rfl

end Predicate

end Audience
