import Audience.Evaluation
import Audience.Proofs.Fallible
import Audience.Proofs.Meaning
import Mathlib.Data.List.Nodup
import Mathlib.Tactic.SplitIfs

/-!
# Segments made ready

`Predicate.ofSegment` walks through the conditions of a segment and numbers their groups as it meets
them. This file describes what it makes. An operand slot is filled from a given value
(`Given.Fills`), the result of a condition is routed (`Condition.Routed`) with respect to the groups
met by the end, and `Condition.Prepares` relates a condition to its check. `Predicate.Prepares` puts
this together for a whole segment (`prepares_of_ofSegment`): checks and conditions correspond one by
one, and the groups are the different names of the `or` conditions.
-/

namespace Audience

/-! ## Operands -/

/-- How a given value fills the operand slot of a check. -/
inductive Given.Fills (slot : Slot) : Given → OperandSlot → Prop
  | absent (kind : ValueKind) : Fills slot ⟨none, kind⟩ ⟨none, slot.name⟩
  | literal (j : Json) :
      Fills slot ⟨some j, .literal⟩ ⟨some (.literal j), j.string?.getD j.compact⟩
  | text (s : String) (h : Text.blank s = false) :
      Fills slot ⟨some (.string s), .reference⟩ ⟨some (.reference s), s⟩
  | number (n : Number) :
      Fills slot ⟨some (.number n), .reference⟩
        ⟨some (.reference (Json.numberText n)), Json.numberText n⟩

namespace Given

variable {g : Given} {slot : Slot} {o : OperandSlot}

theorem fills_of_operand (h : g.operand slot = .ok o) : g.Fills slot o := by
  obtain ⟨value, kind⟩ := g
  rcases value with _ | j
  · obtain rfl := Except.ok.inj h
    exact .absent kind
  cases kind with
  | literal =>
    obtain rfl := Except.ok.inj h
    exact .literal j
  | reference =>
    cases j with
    | string s =>
      change (if Text.blank s then _ else _) = _ at h
      split_ifs at h with hs
      obtain rfl := Except.ok.inj h
      exact .text s (Bool.eq_false_iff.2 hs)
    | number n =>
      obtain rfl := Except.ok.inj h
      exact .number n
    | _ => cases h

/-- A slot has the value that the given value stands for. -/
theorem Fills.bind_resolve? (h : g.Fills slot o) (r : Record) :
    o.operand.bind (·.resolve? r) = g.valueIn? r := by
  cases h with
  | absent kind => cases kind <;> rfl
  | _ => rfl

/-- A slot refers to the variable that the given value refers to. -/
theorem Fills.reference_iff (h : g.Fills slot o) (name : String) :
    o.operand = some (.reference name) ↔ g.refersTo? = some name := by
  cases h with
  | absent kind => cases kind <;> simp [refersTo?]
  | _ => simp [refersTo?]

end Given

/-! ## Routes -/

/-- How the result of a condition counts, the groups being numbered by their places in a list. -/
inductive Condition.Routed (groups : List String) (c : Condition) : Route → Prop
  | every (h : c.connective = .and) : Routed groups c .every
  | group {name : String} {i : Nat} (h : c.connective = .or) (hname : c.group? = some name)
      (hi : groups[i]? = some name) : Routed groups c (.group i)

/-- A name has its place among the groups, and is put at their end if it is not there. -/
theorem groupIndex_spec (groups : List String) (name : String) :
    groups <+: (groupIndex groups name).2 ∧
      (groupIndex groups name).2[(groupIndex groups name).1]? = some name ∧
      (groups.Nodup → (groupIndex groups name).2.Nodup) ∧
      ∀ g ∈ (groupIndex groups name).2, g ∈ groups ∨ g = name := by
  unfold groupIndex
  split
  · rename_i i hi
    obtain ⟨hlt, hget, -⟩ := List.idxOf?_eq_some_iff.1 hi
    exact ⟨List.prefix_refl _, List.getElem?_eq_some_iff.2 ⟨hlt, hget⟩, id, fun g hg => .inl hg⟩
  · rename_i hnone
    have hnew : name ∉ groups := List.idxOf?_eq_none_iff.1 hnone
    refine ⟨List.prefix_append _ _, by simp, fun hnd => ?_, fun g hg => ?_⟩
    · rw [List.nodup_append]
      refine ⟨hnd, List.nodup_singleton _, ?_⟩
      rintro a ha b hb rfl
      exact hnew (List.mem_singleton.1 hb ▸ ha)
    · rcases List.mem_append.1 hg with hg | hg
      · exact .inl hg
      · exact .inr (List.mem_singleton.1 hg)

namespace Condition

variable {c : Condition} {index : Nat} {groups groups' : List String} {route : Route}

theorem Routed.mono (h : c.Routed groups route) (hp : groups <+: groups') :
    c.Routed groups' route := by
  cases h with
  | every h => exact .every h
  | group h hname hi =>
    obtain ⟨rest, rfl⟩ := hp
    exact .group h hname (by rw [List.getElem?_append_left (List.getElem?_eq_some_iff.1 hi).1, hi])

/-- Routing a condition adds at most the name of its group. -/
theorem route_spec (h : c.route index groups = .ok (route, groups')) :
    groups <+: groups' ∧ c.Routed groups' route ∧ (groups.Nodup → groups'.Nodup) ∧
      ∀ g ∈ groups', g ∈ groups ∨ (c.connective = .or ∧ c.group? = some g) := by
  unfold Condition.route at h
  split at h
  · rename_i hand
    obtain ⟨rfl, rfl⟩ := Prod.mk.inj (Except.ok.inj h)
    exact ⟨List.prefix_refl _, .every hand, id, fun g hg => .inl hg⟩
  · rename_i hor
    split at h
    · cases h
    · rename_i name hname
      obtain ⟨rfl, rfl⟩ := Prod.mk.inj (Except.ok.inj h)
      obtain ⟨hp, hi, hnd, hmem⟩ := groupIndex_spec groups name
      refine ⟨hp, .group hor hname hi, hnd, fun g hg => ?_⟩
      rcases hmem g hg with hg | rfl
      · exact .inl hg
      · exact .inr ⟨hor, hname⟩

end Condition

/-! ## Checks -/

/-- How a condition is made into a check, the groups being numbered by their places in a list. -/
structure Condition.Prepares (groups : List String) (c : Condition) (k : Check) : Prop where
  subject : k.subject = c.subject
  test : k.test = normalize c.test
  operands : List.Forall₂ (fun slot o => (c.given slot).Fills slot o) (slotsOf k.test) k.operands
  route : c.Routed groups k.route

namespace Condition.Prepares

variable {c : Condition} {k : Check} {groups groups' : List String}

theorem mono (h : c.Prepares groups k) (hp : groups <+: groups') : c.Prepares groups' k :=
  { h with route := h.route.mono hp }

/-- The operands of the check have the values that the condition compares with. -/
theorem forall₂_compared (h : c.Prepares groups k) :
    List.Forall₂ (fun g o => ∃ slot, g.Fills slot o) c.compared k.operands := by
  rw [c.compared_eq_map_given, ← h.test, List.forall₂_map_left_iff]
  exact h.operands.imp fun slot o ho => ⟨slot, ho⟩

end Condition.Prepares

namespace Check

variable {c : Condition} {cs : List Condition} {k : Check} {ks : List Check} {index : Nat}
  {groups groups' : List String}

/-- The check that a condition is made into has the operands and the route of the condition. -/
theorem eq_of_ofCondition (h : ofCondition index groups c = .ok (k, groups')) :
    ∃ operands route, (slotsOf (normalize c.test)).mapM (c.operand index) = .ok operands ∧
      c.route index groups = .ok (route, groups') ∧
      k = ⟨index, c.subject, normalize c.test, operands, route⟩ := by
  unfold ofCondition at h
  split at h
  · cases h
  dsimp only at h
  split at h
  · cases h
  obtain ⟨operands, hoperands, h⟩ := bind_eq_ok_iff.1 h
  obtain ⟨⟨route, groups''⟩, hroute, h⟩ := bind_eq_ok_iff.1 h
  obtain ⟨rfl, rfl⟩ := Prod.mk.inj (Except.ok.inj h)
  exact ⟨operands, route, hoperands, hroute, rfl⟩

/-- Conditions are made ready from the first on. -/
theorem eq_cons_of_ofConditions (h : ofConditions index groups (c :: cs) = .ok (ks, groups')) :
    ∃ k groups₁ ks', ofCondition index groups c = .ok (k, groups₁) ∧
      ofConditions (index + 1) groups₁ cs = .ok (ks', groups') ∧ ks = k :: ks' := by
  obtain ⟨⟨k, groups₁⟩, hk, h⟩ := bind_eq_ok_iff.1 h
  obtain ⟨⟨ks', groups₂⟩, hks, h⟩ := bind_eq_ok_iff.1 h
  obtain ⟨rfl, rfl⟩ := Prod.mk.inj (Except.ok.inj h)
  exact ⟨k, groups₁, ks', hk, hks, rfl⟩

theorem ofCondition_spec (h : ofCondition index groups c = .ok (k, groups')) :
    groups <+: groups' ∧ c.Prepares groups' k ∧ (groups.Nodup → groups'.Nodup) ∧
      ∀ g ∈ groups', g ∈ groups ∨ (c.connective = .or ∧ c.group? = some g) := by
  obtain ⟨operands, route, hoperands, hroute, rfl⟩ := eq_of_ofCondition h
  obtain ⟨hp, hrouted, hnd, hmem⟩ := Condition.route_spec hroute
  refine ⟨hp, ⟨rfl, rfl, ?_, hrouted⟩, hnd, hmem⟩
  exact (mapM_eq_ok_iff.1 hoperands).imp fun slot o ho =>
    Given.fills_of_operand (mapError_eq_ok_iff.1 ho)

/-- The groups only grow, so each check is right for the groups met by the end. -/
theorem ofConditions_spec (h : ofConditions index groups cs = .ok (ks, groups')) :
    groups <+: groups' ∧ List.Forall₂ (Condition.Prepares groups') cs ks ∧
      (groups.Nodup → groups'.Nodup) ∧
      ∀ g ∈ groups', g ∈ groups ∨ ∃ c ∈ cs, c.connective = .or ∧ c.group? = some g := by
  induction cs generalizing index groups ks with
  | nil =>
    obtain ⟨rfl, rfl⟩ := Prod.mk.inj (Except.ok.inj h)
    exact ⟨List.prefix_refl _, .nil, id, fun g hg => .inl hg⟩
  | cons c cs ih =>
    obtain ⟨k, groups₁, ks', hk, hks, rfl⟩ := eq_cons_of_ofConditions h
    obtain ⟨hp₁, hprep, hnd₁, hmem₁⟩ := ofCondition_spec hk
    obtain ⟨hp₂, hrest, hnd₂, hmem₂⟩ := ih hks
    refine ⟨hp₁.trans hp₂, .cons (hprep.mono hp₂) hrest, fun hnd => hnd₂ (hnd₁ hnd), ?_⟩
    intro g hg
    rcases hmem₂ g hg with hg | ⟨c', hc', hg⟩
    · rcases hmem₁ g hg with hg | hg
      · exact .inl hg
      · exact .inr ⟨c, List.mem_cons_self, hg⟩
    · exact .inr ⟨c', List.mem_cons_of_mem _ hc', hg⟩

end Check

/-! ## Segments -/

/-- How a segment is made into a predicate. -/
structure Segment.Prepares (s : Segment) (p : Predicate) : Prop where
  segment : p.segment = s
  checks : List.Forall₂ (Condition.Prepares p.groups) s.conditions p.checks
  nodup : p.groups.Nodup
  named : ∀ g ∈ p.groups, ∃ c ∈ s.conditions, c.connective = .or ∧ c.group? = some g

/-- A segment with a name is made ready by making its conditions ready. -/
theorem Predicate.ofSegment_eq_ok_iff {s : Segment} {p : Predicate} :
    ofSegment s = .ok p ↔ Text.blank s.name = false ∧
      Check.ofConditions 0 [] s.conditions = .ok (p.checks, p.groups) ∧ p.segment = s := by
  unfold ofSegment
  rw [mapError_eq_ok_iff]
  split
  · rename_i hblank
    refine iff_of_false (fun h => by cases h) fun h => ?_
    cases hblank.symm.trans h.1
  · rename_i hblank
    rw [bind_eq_ok_iff, and_iff_right (Bool.eq_false_iff.2 hblank)]
    constructor
    · rintro ⟨⟨checks, groups⟩, hchecks, h⟩
      obtain rfl := Except.ok.inj h
      exact ⟨hchecks, rfl⟩
    · rintro ⟨hchecks, rfl⟩
      exact ⟨_, hchecks, rfl⟩

theorem Segment.prepares_of_ofSegment {s : Segment} {p : Predicate}
    (h : Predicate.ofSegment s = .ok p) : s.Prepares p := by
  obtain ⟨-, hchecks, hsegment⟩ := Predicate.ofSegment_eq_ok_iff.1 h
  obtain ⟨-, hprep, hnd, hnamed⟩ := Check.ofConditions_spec hchecks
  refine ⟨hsegment, hprep, hnd List.nodup_nil, fun g hg => ?_⟩
  rcases hnamed g hg with hg | hg
  · cases hg
  · exact hg

/-! ## A sample -/

/-- A segment with a condition of each connective, one of which refers to a second variable. -/
def Segment.sample : Segment :=
  .new "minors" [(Condition.new "age" "Less Than").against "limit",
    (Condition.new "plan" "Is Null").orGroup " free "]

/-- An input that has the variables of the sample. -/
def Segment.sampleInput : Json :=
  .object [("age", .ofInt 9), ("limit", .ofInt 18), ("plan", .null)]

/-- The sample made ready. -/
def Predicate.sample : Predicate where
  segment := .sample
  checks := [⟨0, "age", "lessthan", [⟨some (.reference "limit"), "limit"⟩], .every⟩,
    ⟨1, "plan", "isnull", [], .group 0⟩]
  groups := ["free"]

theorem Predicate.ofSegment_sample : Predicate.ofSegment .sample = .ok .sample := by
  have hblank : Text.blank "minors" = false ∧ Text.blank "age" = false ∧
      Text.blank "plan" = false ∧ Text.blank "limit" = false := by decide +kernel
  have htest : normalize "Less Than" = "lessthan" ∧ normalize "Is Null" = "isnull" := by
    decide +kernel
  have hslots : slotsOf "lessthan" = [.comparison] ∧ slotsOf "isnull" = [] := by decide +kernel
  have hgroup : Text.trim " free " = "free" := by decide +kernel
  simp [Predicate.ofSegment, Predicate.sample, Segment.sample, Segment.new, Condition.new,
    Condition.against, Condition.orGroup, Check.ofConditions, Check.ofCondition, Condition.route,
    Condition.group?, Condition.operand, Condition.given, Given.operand, Given.reference,
    groupIndex, Option.filter, hblank, htest, hslots, hgroup, bind, Except.bind, pure, Except.pure,
    Except.mapError]

end Audience
