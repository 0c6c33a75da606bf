import Audience.Comparison.Standard
import Audience.Proofs.Judgement
import Audience.Proofs.Names

/-!
# Tests get as many values as they take

Which slots a check has operands for is told by the name of its test, and for every name of a test
of the standard comparison these are as many as the test takes (`Operator.length_slotsOf`). Given
that many values, a test can only fail because of what the values are (`FailsAsTest`). So the number
of values is never why an evaluation by the standard comparison fails
(`Predicate.operands_match_tests`).
-/

namespace Audience

/-! ## What tests fail with -/

/-- An error of the standard comparison, other than that of a wrong number of values. -/
inductive Error.OfTest : Error → Prop
  | unknown (name : String) : OfTest (.unknownOperator name)
  | mismatch (expected actual : String) : OfTest (.typeMismatch expected actual)
  | pattern (pattern reason : String) : OfTest (.invalidPattern pattern reason)

/-- If a computation fails then with such an error. -/
def FailsAsTest {α : Type} (x : Except Error α) : Prop :=
  ∀ e, x = .error e → e.OfTest

namespace FailsAsTest

variable {α β : Type} {x : Except Error α}

theorem ok (a : α) : FailsAsTest (.ok a : Except Error α) := by
  intro e h
  cases h

theorem error {e : Error} (he : e.OfTest) : FailsAsTest (.error e : Except Error α) := by
  intro e' h
  obtain rfl := Except.error.inj h
  exact he

theorem unexpected (expected : String) (actual : Json) :
    FailsAsTest (.error (.unexpected expected actual) : Except Error α) :=
  .error (.mismatch _ _)

theorem bind {f : α → Except Error β} (hx : FailsAsTest x) (hf : ∀ a, FailsAsTest (f a)) :
    FailsAsTest (x >>= f) := by
  intro e h
  rcases bind_eq_error_iff.1 h with h | ⟨a, -, h⟩
  · exact hx e h
  · exact hf a e h

theorem map (f : α → β) (hx : FailsAsTest x) : FailsAsTest (x.map f) := by
  intro e h
  cases x with
  | ok a => cases h
  | error e' => exact hx e (congrArg _ (Except.error.inj h))

end FailsAsTest

/-! ## The tests -/

namespace Comparison

variable (a b : Json)

theorem failsAsTest_plainOrder : FailsAsTest (plainOrder a b) := by
  unfold plainOrder
  split
  · exact .ok _
  all_goals exact .unexpected _ _

theorem failsAsTest_order : FailsAsTest (order a b) := by
  unfold order
  split
  · exact .ok _
  · exact failsAsTest_plainOrder a b

theorem failsAsTest_within (high : Json) : FailsAsTest (within a b high) := by
  refine (failsAsTest_order a b).bind fun below => ?_
  split
  · exact (failsAsTest_order a high).bind fun above => .ok _
  · exact .ok _

theorem failsAsTest_isMember : FailsAsTest (isMember a b) := by
  unfold isMember
  split
  · exact .ok _
  · exact .unexpected _ _

theorem failsAsTest_includes : FailsAsTest (includes a b) := by
  unfold includes
  split
  · exact .ok _
  · exact .unexpected _ _
  · exact .ok _
  · exact .unexpected _ _

theorem failsAsTest_texts : FailsAsTest (texts a b) := by
  unfold texts
  split
  · exact .ok _
  all_goals exact .unexpected _ _

theorem failsAsTest_matchesPattern (text pattern : String) :
    FailsAsTest (matchesPattern text pattern) := by
  unfold matchesPattern
  split
  · split
    · exact .ok _
    · exact .error (.pattern _ _)
  · exact .error (.pattern _ _)

theorem failsAsTest_instant : FailsAsTest (instant a) := by
  unfold instant
  split
  · split
    · exact .ok _
    · exact .error (.mismatch _ _)
  · exact .unexpected _ _

theorem failsAsTest_timeOrder : FailsAsTest (timeOrder a b) :=
  (failsAsTest_instant a).bind fun _ => (failsAsTest_instant b).bind fun _ => .ok _

end Comparison

namespace Operator

variable {op : Operator} (a : Json)

theorem failsAsTest_apply_nil (h : op.arity = 0) : FailsAsTest (op.apply a []) := by
  cases op with
  | isNull => exact .ok _
  | isNotNull => exact .ok _
  | _ => cases h

theorem failsAsTest_apply_one (h : op.arity = 1) (b : Json) : FailsAsTest (op.apply a [b]) := by
  cases op with
  | equal => exact .ok _
  | notEqual => exact .ok _
  | greaterThan => exact (Comparison.failsAsTest_order a b).map _
  | greaterThanOrEqual => exact (Comparison.failsAsTest_order a b).map _
  | lessThan => exact (Comparison.failsAsTest_order a b).map _
  | lessThanOrEqual => exact (Comparison.failsAsTest_order a b).map _
  | isIn => exact Comparison.failsAsTest_isMember a b
  | notIn => exact (Comparison.failsAsTest_isMember a b).map _
  | includes => exact Comparison.failsAsTest_includes a b
  | notIncludes => exact (Comparison.failsAsTest_includes a b).map _
  | startsWith => exact (Comparison.failsAsTest_texts a b).map _
  | endsWith => exact (Comparison.failsAsTest_texts a b).map _
  | regex =>
    exact (Comparison.failsAsTest_texts a b).bind fun st =>
      Comparison.failsAsTest_matchesPattern st.1 st.2
  | before => exact (Comparison.failsAsTest_timeOrder a b).map _
  | after => exact (Comparison.failsAsTest_timeOrder a b).map _
  | _ => cases h

theorem failsAsTest_apply_two (h : op.arity = 2) (b c : Json) :
    FailsAsTest (op.apply a [b, c]) := by
  cases op with
  | range => exact Comparison.failsAsTest_within a b c
  | notRange => exact (Comparison.failsAsTest_within a b c).map _
  | _ => cases h

/-- With as many values as it takes, a test fails because of what they are. -/
theorem failsAsTest_apply {operands : List Json} (h : operands.length = op.arity) :
    FailsAsTest (op.apply a operands) := by
  match operands, h with
  | [], h => exact failsAsTest_apply_nil a h.symm
  | [b], h => exact failsAsTest_apply_one a h.symm b
  | [b, c], h => exact failsAsTest_apply_two a h.symm b c
  | _ :: _ :: _ :: rest, h =>
    have hsmall : op.arity ≤ 2 := by cases op <;> decide
    simp only [List.length_cons] at h
    omega

/-- The name of a test calls for as many values as the test takes. -/
theorem length_slotsOf {test : String} (h : test ∈ op.names) :
    (slotsOf test).length = op.arity := by
  have hall : ∀ op ∈ all, ∀ test ∈ op.names, (slotsOf test).length = op.arity := by
    decide +kernel
  exact hall op op.mem_all test h

end Operator

theorem Comparison.failsAsTest_standard (subject : Json) {test : String} {operands : List Json}
    (h : ∀ op, Operator.ofName? test = some op → operands.length = op.arity) :
    FailsAsTest (Comparison.standard subject test operands) := by
  unfold Comparison.standard
  split
  · rename_i op hop
    exact Operator.failsAsTest_apply subject (h op hop)
  · exact .error (.unknown test)

/-! ## Texts of errors -/

namespace Error

/-- How a text begins is told by how its first part begins. -/
theorem head?_toList_append {s : String} {c : Char} (h : s.toList.head? = some c) (t : String) :
    (s ++ t).toList.head? = some c := by
  rw [String.toList_append, List.head?_append, h, Option.some_or]

theorem head?_message_operandCount (operator : String) (expected actual : Nat) :
    (operandCount operator expected actual).message.toList.head? = some '操' := by
  have hstart : "操作符 ".toList.head? = some '操' := by decide +kernel
  change ("操作符 " ++ operator ++ " 需要 " ++ toString expected ++ " 个参数, 实际 " ++
    toString actual ++ " 个").toList.head? = _
  iterate 6 refine head?_toList_append ?_ _
  exact hstart

theorem OfTest.head?_message {e : Error} (h : e.OfTest) : e.message.toList.head? ≠ some '操' := by
  cases h with
  | unknown name =>
    have hstart : "未知的操作符: ".toList.head? = some '未' := by decide +kernel
    change ("未知的操作符: " ++ name).toList.head? ≠ _
    rw [head?_toList_append hstart]
    decide
  | mismatch expected actual =>
    have hstart : "类型不匹配: 期望 ".toList.head? = some '类' := by decide +kernel
    change ("类型不匹配: 期望 " ++ expected ++ ", 实际 " ++ actual).toList.head? ≠ _
    rw [head?_toList_append (head?_toList_append (head?_toList_append hstart _) _)]
    decide
  | pattern pattern reason =>
    have hstart : "无效的正则表达式 '".toList.head? = some '无' := by decide +kernel
    change ("无效的正则表达式 '" ++ pattern ++ "': " ++ reason).toList.head? ≠ _
    rw [head?_toList_append (head?_toList_append (head?_toList_append hstart _) _)]
    decide

end Error

/-! ## Checks -/

/-- A check has as many operands as its test takes, if its test is known. -/
theorem Condition.Prepares.length_operands {c : Condition} {k : Check} {groups : List String}
    (h : c.Prepares groups k) {op : Operator} (hop : Operator.ofName? k.test = some op) :
    k.operands.length = op.arity := by
  have hname : k.test ∈ op.names := by
    have hnormal := Operator.mem_names_of_ofName? hop
    rwa [h.test, normalize_normalize, ← h.test] at hnormal
  rw [← h.operands.length_eq, Operator.length_slotsOf hname]

/-- A check that fails by the standard comparison lacks something, or its test fails because of what
the values are. -/
theorem Check.Fails.of_standard {k : Check} {r : Record} {f : Failure}
    (hlength : ∀ op, Operator.ofName? k.test = some op → k.operands.length = op.arity)
    (h : k.Fails .standard r f) : (∃ name, k.Lacks r name ∧ f = .undefined name) ∨
      ∃ e : Error, e.OfTest ∧ f = .ofTest k.test e.message := by
  have hfaults {call : Call} (ha : k.Asks r call) :
      FailsAsTest (Comparison.standard call.subject call.test call.operands) := by
    refine Comparison.failsAsTest_standard _ fun op hop => ?_
    rw [← ha.operands.length_eq]
    exact hlength op (ha.test ▸ hop)
  cases h with
  | lacking h => exact .inl ⟨_, h, rfl⟩
  | missing ha h => cases hfaults ha _ h
  | failed ha h => cases hfaults ha _ h
  | other ha h hmissing hfailed => exact .inr ⟨_, hfaults ha _ h, rfl⟩

namespace Predicate

/-- The checks of a predicate have operands as their tests take them: if the test of a condition is
known by its name, in any spelling, then the check has this test and as many operands as that takes.
So an evaluation by the standard comparison never fails because of the number of values. A failure
tells what a check lacks, or that the test of a check is not known, does not compare such values or
has an invalid pattern. -/
theorem operands_match_tests {s : Segment} {p : Predicate} (h : ofSegment s = .ok p) :
    List.Forall₂ (fun c k => ∀ op, Operator.ofName? c.test = some op →
        Operator.ofName? k.test = some op ∧ k.operands.length = op.arity)
      s.conditions p.checks ∧
      ∀ r f, p.outcome .standard r = .failed f →
        (∃ k ∈ p.checks, (∃ name, k.Lacks r name ∧ f = .undefined name) ∨
          ∃ e : Error, e.OfTest ∧ f = .ofTest k.test e.message) ∧
        ∀ operator expected actual,
          f.detail ≠ (Error.operandCount operator expected actual).message := by
  have hprepared := (Segment.prepares_of_ofSegment h).checks
  constructor
  · refine hprepared.imp fun c k hk op hop => ?_
    have hknown : Operator.ofName? k.test = some op := by
      rw [hk.test, Operator.ofName?_normalize, hop]
    exact ⟨hknown, hk.length_operands hknown⟩
  · intro r f hfailed
    obtain ⟨before, k, after, hchecks, -, hfails⟩ := outcome_eq_failed_iff.1 hfailed
    have hmem : k ∈ p.checks := hchecks ▸ List.mem_append_right _ List.mem_cons_self
    obtain ⟨c, -, hk⟩ := exists_left_of_mem hprepared hmem
    have hcause := hfails.of_standard fun op hop => hk.length_operands hop
    refine ⟨⟨k, hmem, hcause⟩, fun operator expected actual heq => ?_⟩
    have hhead := Error.head?_message_operandCount operator expected actual
    rw [← heq] at hhead
    rcases hcause with ⟨name, -, rfl⟩ | ⟨e, he, rfl⟩
    · cases hhead
    · exact he.head?_message hhead

/-- A subject of the wrong kind is told as such, and not as a wrong number of values. -/
theorem sample_fails_by_kind :
    ofSegment .sample = .ok .sample ∧
      Predicate.sample.outcome .standard
          ⟨.object [("age", .boolean true), ("limit", .ofInt 18), ("plan", .null)]⟩ =
        .failed (.ofTest "lessthan" (Error.typeMismatch "number" "boolean").message) ∧
      (Error.typeMismatch "number" "boolean").message ≠
        (Error.operandCount "lessthan" 1 1).message := by
  have hasks : Check.Asks ⟨.object [("age", .boolean true), ("limit", .ofInt 18), ("plan", .null)]⟩
      ⟨0, "age", "lessthan", [⟨some (.reference "limit"), "limit"⟩], .every⟩
      ⟨.boolean true, "lessthan", [.ofInt 18]⟩ := ⟨rfl, rfl, .cons (.reference "limit" rfl) .nil⟩
  have hname : Operator.ofName? "lessthan" = some .lessThan := by decide +kernel
  have hanswer : Comparison.standard (.boolean true) "lessthan" [.ofInt 18] =
      .error (.typeMismatch "number" "boolean") := by
    unfold Comparison.standard
    rw [hname]
    rfl
  have hfailed := (outcome_eq_failed_iff (p := .sample)).2
    ⟨[], _, _, rfl, fun b hb => (by cases hb),
      .other hasks hanswer (fun _ h => by cases h) (fun _ _ h => by cases h)⟩
  exact ⟨ofSegment_sample, hfailed,
    ((operands_match_tests ofSegment_sample).2 _ _ hfailed).2 "lessthan" 1 1⟩

end Predicate

end Audience
