import Audience.Proofs.Agreement
import Audience.Proofs.Store.Entries
import Mathlib.Data.List.Zip

/-!
# Predicates are well formed

The groups of a predicate are numbered while its conditions are walked through, and a check keeps
only the number of its group. `Segment.groupNames` lists the groups without that walk: the names of
the `or` conditions, each where it comes up first. The groups met so far are always those of the
conditions walked through so far (`groups_of_ofConditions`), so the numbers given out stay right.

`Predicate.WellFormed` says how a predicate corresponds to its segment, condition by condition. It
makes sure that results can be collected by the numbers of their groups alone: a `Tally` has a place
for every result of an evaluation, and holds at each place the results that count there
(`tally?_eq_some`), so that what it passes is the verdict (`passes_tally`).
-/

namespace Audience

/-! ## Names of groups -/

/-- The name that an `or` condition is grouped by, without white space around it. -/
def Condition.orName? (c : Condition) : Option String :=
  if c.connective = .or then c.groupName.map Text.trim else none

/-- The different names that the `or` conditions of a segment are grouped by, in the order in which
they come up first. -/
def Segment.groupNames (s : Segment) : List String :=
  (s.conditions.filterMap Condition.orName?).eraseDups

theorem Condition.orName?_eq_some_iff {c : Condition} {name : String} :
    c.orName? = some name ↔ c.InGroup name := by
  unfold orName? InGroup
  by_cases hor : c.connective = .or <;> simp [hor]

/-- A name is put at the end of the groups met so far unless it is one of them. -/
theorem groupIndex_eraseDups (names : List String) (name : String) :
    (groupIndex names.eraseDups name).2 = (names ++ [name]).eraseDups := by
  rw [Store.eraseDups_append_singleton, groupIndex]
  by_cases hmem : name ∈ names
  · have hsome : (names.eraseDups.idxOf? name).isSome := by
      rw [List.isSome_idxOf?]
      exact List.mem_eraseDups.2 hmem
    obtain ⟨i, hi⟩ := Option.isSome_iff_exists.1 hsome
    rw [hi, if_pos hmem]
  · have hnone : names.eraseDups.idxOf? name = none :=
      List.idxOf?_eq_none_iff.2 (mt List.mem_eraseDups.1 hmem)
    rw [hnone, if_neg hmem]

/-- Routing a condition adds its name to the groups met so far. -/
theorem Condition.groups_of_route {c : Condition} {index : Nat} {names groups : List String}
    {route : Route} (h : c.route index names.eraseDups = .ok (route, groups)) :
    groups = (names ++ c.orName?.toList).eraseDups := by
  unfold Condition.route at h
  split at h
  · rename_i hand
    obtain ⟨-, rfl⟩ := Prod.mk.inj (Except.ok.inj h)
    simp [orName?, hand]
  · rename_i hor
    split at h
    · cases h
    · rename_i name hname
      have hgroups : (groupIndex names.eraseDups name).2 = groups :=
        (Prod.mk.inj (Except.ok.inj h)).2
      have hin := orName?_eq_some_iff.2 (inGroup_of_group? hor hname)
      rw [← hgroups, groupIndex_eraseDups, hin]
      rfl

namespace Check

variable {c : Condition} {cs : List Condition} {k : Check} {ks : List Check} {index : Nat}
  {names groups : List String}

theorem groups_of_ofCondition (h : ofCondition index names.eraseDups c = .ok (k, groups)) :
    groups = (names ++ c.orName?.toList).eraseDups ∧ k.index = index := by
  obtain ⟨operands, route, -, hroute, rfl⟩ := eq_of_ofCondition h
  exact ⟨Condition.groups_of_route hroute, rfl⟩

/-- The groups met by the end of a walk are the names met before it and in it, and the checks know
their places. -/
theorem groups_of_ofConditions (h : ofConditions index names.eraseDups cs = .ok (ks, groups)) :
    groups = (names ++ cs.filterMap Condition.orName?).eraseDups ∧
      ks.map Check.index = List.range' index cs.length := by
  induction cs generalizing index names ks with
  | nil =>
    obtain ⟨rfl, rfl⟩ := Prod.mk.inj (Except.ok.inj h)
    exact ⟨by rw [List.filterMap_nil, List.append_nil], rfl⟩
  | cons c cs ih =>
    obtain ⟨k, groups₁, ks', hk, hks, rfl⟩ := eq_cons_of_ofConditions h
    obtain ⟨rfl, hindex⟩ := groups_of_ofCondition hk
    obtain ⟨rfl, hplaces⟩ := ih hks
    refine ⟨?_, ?_⟩
    · rw [List.append_assoc, List.filterMap_cons]
      cases c.orName? <;> rfl
    · rw [List.map_cons, hindex, hplaces, List.length_cons, List.range'_succ]

end Check

/-! ## Results collected by numbers -/

/-- Results collected by the numbers of their groups. -/
structure Tally where
  every : List Bool
  groups : List (List Bool)

namespace Tally

/-- A tally without results, with places for so many groups. -/
def blank (n : Nat) : Tally := ⟨[], List.replicate n []⟩

/-- Puts a result where it counts; there may be no such place. -/
def push? (t : Tally) (j : Judgement) : Option Tally :=
  match j.check.route with
  | .every => some { t with every := t.every ++ [j.passed] }
  | .group i => t.groups[i]?.map fun results =>
    { t with groups := t.groups.set i (results ++ [j.passed]) }

/-- Whether the results make a match. -/
def passes (t : Tally) : Bool :=
  t.every.all id && t.groups.all fun results => results.any id

end Tally

namespace Evaluation

/-- Collects the results of an evaluation one after the other. -/
def tally? (e : Evaluation) (n : Nat) : Option Tally :=
  e.judgements.foldlM Tally.push? (.blank n)

/-- The results of an evaluation, each where it counts. -/
def tally (e : Evaluation) (n : Nat) : Tally :=
  ⟨e.results .every, (List.range n).map fun i => e.results (.group i)⟩

variable {n : Nat}

theorem results_append (calls : List Call) (js : List Judgement) (j : Judgement)
    (fault : Option Error) (route : Route) :
    results ⟨calls, js ++ [j], fault⟩ route =
      results ⟨calls, js, fault⟩ route ++ if j.check.route = route then [j.passed] else [] := by
  unfold results
  by_cases h : j.check.route = route <;> simp [h]

/-- A result that has a place is put to those that count there. -/
theorem push?_tally (calls : List Call) (js : List Judgement) (j : Judgement)
    (fault : Option Error) (hj : ∀ i, j.check.route = .group i → i < n) :
    (tally ⟨calls, js, fault⟩ n).push? j = some (tally ⟨calls, js ++ [j], fault⟩ n) := by
  unfold Tally.push? tally
  simp only [results_append]
  split
  · rename_i hroute
    simp [hroute]
  · rename_i i hroute
    have hi : i < n := hj i hroute
    simp only [hroute, reduceCtorEq, if_false, List.append_nil, Route.group.injEq,
      List.getElem?_map, List.getElem?_range hi, Option.map_some, Option.some.injEq,
      Tally.mk.injEq, true_and]
    refine List.ext_getElem? fun m => ?_
    rw [List.getElem?_set]
    by_cases him : i = m
    · subst him
      simp [hi]
    · by_cases hm : m < n <;> simp [him, hm]

/-- If every result has a place then all are collected, each where it counts. -/
theorem tally?_eq_some (e : Evaluation)
    (h : ∀ j ∈ e.judgements, ∀ i, j.check.route = .group i → i < n) :
    e.tally? n = some (e.tally n) := by
  obtain ⟨calls, js, fault⟩ := e
  unfold tally?
  induction js using List.reverseRecOn with
  | nil =>
    simp [tally, results, Tally.blank, List.map_const']
  | append_singleton js j ih =>
    have hjs := ih fun j' hj' => h j' (List.mem_append_left _ hj')
    have hj := h j (List.mem_append_right _ (List.mem_singleton_self j))
    dsimp only at hjs ⊢
    rw [List.foldlM_append, hjs]
    simp [push?_tally calls js j fault hj]

/-- What was judged is a check that there was to judge. -/
theorem check_mem_of_mem_judgements {compare : Comparison} {r : Record} {ks : List Check}
    {j : Judgement} (h : j ∈ (ofChecks compare r ks).judgements) : j.check ∈ ks := by
  induction ks with
  | nil => cases h
  | cons k ks ih =>
    unfold ofChecks at h
    split at h
    · cases h
    · split at h
      · cases h
      · rcases List.mem_cons.1 h with rfl | h
        · exact List.mem_cons_self
        · exact List.mem_cons_of_mem _ (ih h)

theorem passes_tally (e : Evaluation) (n : Nat) : (e.tally n).passes = e.verdict n := by
  unfold Tally.passes tally verdict
  rw [List.all_map]
  rfl

end Evaluation

/-! ## Well-formed predicates -/

/-- How a predicate corresponds to the segment that it was made from. -/
structure Predicate.WellFormed (s : Segment) (p : Predicate) : Prop where
  checks : List.Forall₂ (Condition.Prepares p.groups) s.conditions p.checks
  places : p.checks.map Check.index = List.range s.conditions.length
  groups : p.groups = s.groupNames
  distinct : p.groups.Nodup
  named : ∀ name ∈ p.groups, name ≠ ""
  every : ∀ c k, (c, k) ∈ s.conditions.zip p.checks → c.connective = .and → k.route = .every
  grouped : ∀ c k, (c, k) ∈ s.conditions.zip p.checks → c.connective = .or →
    ∃ i name, k.route = .group i ∧ p.groups[i]? = some name ∧
      c.groupName.map Text.trim = some name
  shared : ∀ c k c' k', (c, k) ∈ s.conditions.zip p.checks → (c', k') ∈ s.conditions.zip p.checks →
    c.connective = .or → c'.connective = .or →
    (k.route = k'.route ↔ c.groupName.map Text.trim = c'.groupName.map Text.trim)
  inhabited : ∀ i < p.groups.length, ∃ k ∈ p.checks, k.route = .group i
  bounded : ∀ k ∈ p.checks, ∀ i, k.route = .group i → i < p.groups.length
  tallied : ∀ compare r, (p.evaluate compare r).tally? p.groups.length =
      some ((p.evaluate compare r).tally p.groups.length) ∧
    ((p.evaluate compare r).tally p.groups.length).passes =
      (p.evaluate compare r).verdict p.groups.length

/-- The route of an `or` condition has the place of its name. -/
theorem Condition.Routed.exists_name {c : Condition} {groups : List String} {route : Route}
    (h : c.Routed groups route) (hor : c.connective = .or) :
    ∃ i name, route = .group i ∧ groups[i]? = some name ∧
      c.groupName.map Text.trim = some name := by
  cases h with
  | every hand => cases hor.symm.trans hand
  | @group name i _ hname hi => exact ⟨i, name, rfl, hi, (inGroup_of_group? hor hname).2⟩

theorem Condition.Routed.lt_length {c : Condition} {groups : List String} {i : Nat}
    (h : c.Routed groups (.group i)) : i < groups.length := by
  cases h with
  | group _ _ hi => exact (List.getElem?_eq_some_iff.1 hi).1

namespace Predicate

variable {s : Segment} {p : Predicate}

theorem numbered_of_ofSegment (h : ofSegment s = .ok p) :
    p.groups = s.groupNames ∧ p.checks.map Check.index = List.range s.conditions.length := by
  have hstart : Check.ofConditions 0 ([] : List String).eraseDups s.conditions =
      .ok (p.checks, p.groups) := (ofSegment_eq_ok_iff.1 h).2.1
  obtain ⟨hgroups, hplaces⟩ := Check.groups_of_ofConditions hstart
  exact ⟨hgroups, by rw [hplaces, List.range_eq_range']⟩

theorem wellFormed_of_ofSegment (h : ofSegment s = .ok p) : WellFormed s p := by
  have hp := Segment.prepares_of_ofSegment h
  obtain ⟨hgroups, hplaces⟩ := numbered_of_ofSegment h
  have hrouted : ∀ c k, (c, k) ∈ s.conditions.zip p.checks → c.Routed p.groups k.route :=
    fun c k hck => ((List.forall₂_iff_zip.1 hp.checks).2 hck).route
  have hbounded : ∀ k ∈ p.checks, ∀ i, k.route = .group i → i < p.groups.length := by
    intro k hk i hroute
    obtain ⟨c, -, hprep⟩ := exists_left_of_mem hp.checks hk
    exact Condition.Routed.lt_length (hroute ▸ hprep.route)
  refine ⟨hp.checks, hplaces, hgroups, hp.nodup, fun name hname => ?_, fun c k hck hand => ?_,
    fun c k hck hor => (hrouted c k hck).exists_name hor,
    fun c k c' k' hck hck' hor hor' => ?_, fun i hi => ?_, hbounded, fun compare r => ?_⟩
  · obtain ⟨c, -, -, hgroup⟩ := hp.named name hname
    simpa using (Option.filter_eq_some_iff.1 hgroup).2
  · exact (hrouted c k hck).every_iff.2 hand
  · obtain ⟨i, name, hroute, hi, hname⟩ := (hrouted c k hck).exists_name hor
    rw [hroute, eq_comm, (hrouted c' k' hck').group_iff hp.nodup hi, hname, Condition.InGroup,
      and_iff_right hor', eq_comm]
  · -- a group is there because of a condition with its name, and that condition's check is in it
    obtain ⟨c, hc, hor, hname⟩ := hp.named _ (List.getElem_mem hi)
    obtain ⟨k, hk, hprep⟩ := exists_right_of_mem hp.checks hc
    have hin := Condition.inGroup_of_group? hor hname
    exact ⟨k, hk, (hprep.route.group_iff hp.nodup (List.getElem?_eq_getElem hi)).2 hin⟩
  · refine ⟨Evaluation.tally?_eq_some _ fun j hj => ?_, Evaluation.passes_tally _ _⟩
    exact hbounded _ (Evaluation.check_mem_of_mem_judgements hj)

end Predicate

end Audience
