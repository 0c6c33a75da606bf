import Audience.Proofs.Meaning
import Audience.Proofs.Fallible
import Audience.Proofs.Trimming
import Mathlib.Data.List.Find

/-!
# What makes a segment malformed

A condition has to keep to some rules, which are looked at in a fixed order (`Condition.rules`). A
segment is refused exactly if its name is blank or a condition breaks a rule, and what is told is
its `FirstFault`: the name, else the first rule broken by the first condition that breaks any. The
rules ask little of the values that a condition gives, and nothing of those that its test does not
take: segments whose conditions differ only there are refused alike (`Condition.Alike`).
-/

namespace Audience

/-! ## Rules -/

/-- What a condition has to keep to. -/
inductive Rule where
  | subject
  | test
  | operand (slot : Slot)
  | group
deriving DecidableEq, Repr

/-- A value can be the name of a variable: a text that is not blank, or a number. -/
def Json.NamesVariable : Json → Prop
  | .string s => Text.blank s = false
  | .number _ => True
  | _ => False

instance : DecidablePred Json.NamesVariable
  | .string s => inferInstanceAs (Decidable (Text.blank s = false))
  | .number _ => inferInstanceAs (Decidable True)
  | .null | .boolean _ | .array _ | .object _ => inferInstanceAs (Decidable False)

/-- A value is given for a reference, and cannot be the name of a variable. -/
def Given.Unfit (g : Given) : Prop :=
  g.kind = .reference ∧ ∃ j ∈ g.value, ¬ j.NamesVariable

instance (g : Given) : Decidable g.Unfit :=
  inferInstanceAs (Decidable (_ ∧ _))

namespace Condition

/-- The rules for a condition, in the order in which they are looked at. -/
def rules (c : Condition) : List Rule :=
  [.subject, .test] ++ c.slots.map .operand ++ [.group]

/-- A condition does not keep to a rule. -/
def Breaks (c : Condition) : Rule → Prop
  | .subject => Text.blank c.subject = true
  | .test => normalize c.test = ""
  | .operand slot => (c.given slot).Unfit
  | .group => c.connective = .or ∧ ∀ name ∈ c.groupName, Text.blank name = true

instance (c : Condition) : DecidablePred c.Breaks
  | .subject => inferInstanceAs (Decidable (Text.blank c.subject = true))
  | .test => inferInstanceAs (Decidable (normalize c.test = ""))
  | .operand slot => inferInstanceAs (Decidable (c.given slot).Unfit)
  | .group => inferInstanceAs
      (Decidable (c.connective = .or ∧ ∀ name ∈ c.groupName, Text.blank name = true))

/-- How it is told that the condition at a place breaks a rule. -/
def fault (c : Condition) (place : Nat) : Rule → Malformation
  | .subject => .blankVariable place
  | .test => .blankTest place
  | .operand slot => .badReference place slot ((c.given slot).value.getD .null)
  | .group => .unnamedGroup place

/-- A condition breaks a rule. -/
def Malformed (c : Condition) : Prop :=
  ∃ rule ∈ c.rules, c.Breaks rule

/-- The first rule that a condition breaks. -/
def firstBroken? (c : Condition) : Option Rule :=
  c.rules.find? fun rule => c.Breaks rule

theorem malformed_iff_firstBroken? {c : Condition} :
    c.Malformed ↔ ∃ rule, c.firstBroken? = some rule := by
  rw [← Option.isSome_iff_exists, firstBroken?, List.find?_isSome]
  simp [Malformed]

end Condition

/-- Of some conditions, the one at this place is the first that is malformed, and this is the first
rule that it breaks. -/
structure Condition.FirstBroken (cs : List Condition) (i : Nat) (c : Condition) (rule : Rule) :
    Prop where
  here : cs[i]? = some c
  before : ∀ j < i, ∀ c', cs[j]? = some c' → ¬ c'.Malformed
  rule : c.firstBroken? = some rule

/-- What is wrong with a segment in the first place. -/
inductive Segment.FirstFault (s : Segment) : Malformation → Prop
  | name (h : Text.blank s.name = true) : FirstFault s .blankName
  | condition {i : Nat} {c : Condition} {rule : Rule} (hname : Text.blank s.name = false)
      (h : Condition.FirstBroken s.conditions i c rule) : FirstFault s (c.fault i rule)

namespace Condition.FirstBroken

variable {c₀ c : Condition} {cs : List Condition} {i : Nat} {rule : Rule}

theorem head (h : c.firstBroken? = some rule) : FirstBroken (c :: cs) 0 c rule :=
  ⟨rfl, fun j hj => absurd hj (Nat.not_lt_zero j), h⟩

theorem tail (h : FirstBroken cs i c rule) (hfine : ¬ c₀.Malformed) :
    FirstBroken (c₀ :: cs) (i + 1) c rule := by
  refine ⟨h.here, fun j hj c' hc' => ?_, h.rule⟩
  rcases j with _ | j
  · obtain rfl := Option.some.inj hc'
    exact hfine
  · exact h.before j (Nat.lt_of_succ_lt_succ hj) c' hc'

theorem of_tail (h : FirstBroken (c₀ :: cs) (i + 1) c rule) : FirstBroken cs i c rule :=
  ⟨h.here, fun j hj c' hc' => h.before (j + 1) (Nat.succ_lt_succ hj) c' hc', h.rule⟩

theorem exists_of_malformed (h : ∃ c ∈ cs, c.Malformed) : ∃ i c rule, FirstBroken cs i c rule := by
  induction cs with
  | nil => simp at h
  | cons c₀ cs ih =>
    by_cases hc₀ : c₀.Malformed
    · obtain ⟨rule, hrule⟩ := malformed_iff_firstBroken?.1 hc₀
      exact ⟨0, c₀, rule, head hrule⟩
    · obtain ⟨c, hmem, hc⟩ := h
      have hrest : c ∈ cs := (List.mem_cons.1 hmem).resolve_left fun heq => hc₀ (heq ▸ hc)
      obtain ⟨i, c, rule, h⟩ := ih ⟨c, hrest, hc⟩
      exact ⟨i + 1, c, rule, h.tail hc₀⟩

end Condition.FirstBroken

/-! ## One condition -/

theorem Given.operand_eq_error_iff {g : Given} {slot : Slot} {j : Json} :
    g.operand slot = .error j ↔ g.Unfit ∧ g.value = some j := by
  obtain ⟨value, kind⟩ := g
  rcases value with _ | v
  · simp [operand, Unfit]
  cases kind with
  | literal => simp [operand, Unfit]
  | reference =>
    cases v with
    | string s =>
      change (if Text.blank s then _ else _) = _ ↔ _
      by_cases hs : Text.blank s = true <;> simp [Unfit, Json.NamesVariable, hs]
    | _ => simp [operand, Unfit, Json.NamesVariable]

namespace Condition

variable {c : Condition} {place : Nat} {groups : List String} {m : Malformation}

theorem operand_eq_error_iff {slot : Slot} :
    c.operand place slot = .error m ↔
      decide (c.Breaks (.operand slot)) = true ∧ m = c.fault place (.operand slot) := by
  unfold Condition.operand
  rw [mapError_eq_error_iff, decide_eq_true_iff]
  simp only [Given.operand_eq_error_iff]
  constructor
  · rintro ⟨j, ⟨hunfit, hj⟩, rfl⟩
    exact ⟨hunfit, by rw [fault, hj, Option.getD_some]⟩
  · rintro ⟨hunfit, rfl⟩
    have ⟨_, j, hj, _⟩ := hunfit
    exact ⟨j, ⟨hunfit, hj⟩, by rw [fault, hj, Option.getD_some]⟩

theorem group?_eq_none_iff :
    c.group? = none ↔ ∀ name ∈ c.groupName, Text.blank name = true := by
  unfold group?
  cases c.groupName <;> simp [Option.filter_eq_none_iff, Text.trim_eq_empty_iff]

theorem route_eq_error_iff :
    c.route place groups = .error m ↔ c.Breaks .group ∧ m = c.fault place .group := by
  unfold Condition.route Breaks fault
  rw [← group?_eq_none_iff]
  split
  · rename_i hand
    simp [hand]
  · rename_i hor
    cases hgroup : c.group? <;> simp [hor, eq_comm]

/-- Of a condition with a variable and a test, the values are looked at before the group. -/
theorem firstBroken?_eq_or (hsubject : ¬ c.Breaks .subject) (htest : ¬ c.Breaks .test) :
    c.firstBroken? = ((c.slots.find? fun slot => c.Breaks (.operand slot)).map .operand).or
      (if c.Breaks .group then some .group else none) := by
  unfold firstBroken? rules
  rw [List.find?_append, List.find?_append, List.find?_map, List.find?_singleton]
  simp [hsubject, htest]

end Condition

namespace Check

variable {c : Condition} {cs : List Condition} {place : Nat} {groups : List String}
  {m : Malformation}

theorem ofCondition_eq_ite :
    ofCondition place groups c =
      if Text.blank c.subject = true then .error (.blankVariable place)
      else if normalize c.test = "" then .error (.blankTest place)
      else (slotsOf (normalize c.test)).mapM (c.operand place) >>= fun operands =>
        c.route place groups >>= fun (route, groups) =>
          .ok (⟨place, c.subject, normalize c.test, operands, route⟩, groups) := by
  unfold ofCondition
  by_cases hsubject : Text.blank c.subject = true
  · rw [if_pos hsubject, if_pos hsubject]
    rfl
  · rw [if_neg hsubject, if_neg hsubject]
    dsimp only
    split_ifs <;> rfl

/-- A condition is refused for the first rule that it breaks. -/
theorem ofCondition_eq_error_iff :
    ofCondition place groups c = .error m ↔
      ∃ rule, c.firstBroken? = some rule ∧ m = c.fault place rule := by
  rw [ofCondition_eq_ite]
  by_cases hsubject : Text.blank c.subject = true
  · have hfirst : c.firstBroken? = some .subject := by
      simp [Condition.firstBroken?, Condition.rules, Condition.Breaks, hsubject]
    rw [if_pos hsubject, hfirst]
    simp [Condition.fault, eq_comm]
  by_cases htest : normalize c.test = ""
  · have hfirst : c.firstBroken? = some .test := by
      simp [Condition.firstBroken?, Condition.rules, Condition.Breaks, hsubject, htest]
    rw [if_neg hsubject, if_pos htest, hfirst]
    simp [Condition.fault, eq_comm]
  rw [if_neg hsubject, if_neg htest, Condition.firstBroken?_eq_or hsubject htest,
    ← c.slots_eq_slotsOf]
  have hvalues : ∀ m, c.slots.mapM (c.operand place) = .error m ↔
      ∃ slot, c.slots.find? (fun slot => c.Breaks (.operand slot)) = some slot ∧
        m = c.fault place (.operand slot) :=
    fun m => mapM_eq_error_iff_find? fun slot m => Condition.operand_eq_error_iff
  rcases hmap : c.slots.mapM (c.operand place) with m' | operands
  · obtain ⟨slot, hslot, rfl⟩ := (hvalues m').1 hmap
    rw [hslot]
    simp [bind, Except.bind, eq_comm]
  · -- all values can be used, so only the group is left to look at
    have hnone : c.slots.find? (fun slot => c.Breaks (.operand slot)) = none := by
      refine Option.eq_none_iff_forall_ne_some.2 fun slot hslot => ?_
      cases hmap.symm.trans ((hvalues _).2 ⟨slot, hslot, rfl⟩)
    have hgroup : (Except.ok operands >>= fun operands => c.route place groups >>=
        fun (route, groups) => Except.ok
          (Check.mk place c.subject (normalize c.test) operands route, groups)) = .error m ↔
        c.route place groups = .error m := by
      simp [bind_eq_error_iff]
    rw [hgroup, Condition.route_eq_error_iff, hnone]
    by_cases hbreaks : c.Breaks .group <;> simp [hbreaks]

theorem exists_ofCondition_iff : (∃ out, ofCondition place groups c = .ok out) ↔ ¬ c.Malformed := by
  rw [Condition.malformed_iff_firstBroken?]
  rcases h : ofCondition place groups c with m | out
  · obtain ⟨rule, hrule, -⟩ := ofCondition_eq_error_iff.1 h
    simp [hrule]
  · refine iff_of_true ⟨out, rfl⟩ ?_
    rintro ⟨rule, hrule⟩
    cases h.symm.trans (ofCondition_eq_error_iff.2 ⟨rule, hrule, rfl⟩)

/-- Conditions are refused for the first of them that is malformed. -/
theorem ofConditions_eq_error_iff :
    ofConditions place groups cs = .error m ↔
      ∃ i c rule, Condition.FirstBroken cs i c rule ∧ m = c.fault (place + i) rule := by
  induction cs generalizing place groups with
  | nil =>
    refine iff_of_false (fun h => by cases h) ?_
    rintro ⟨i, c, rule, h, -⟩
    cases h.here
  | cons c₀ cs ih =>
    unfold ofConditions
    rw [bind_eq_error_iff]
    constructor
    · rintro (h | ⟨⟨k, groups'⟩, hk, h⟩)
      · obtain ⟨rule, hrule, rfl⟩ := ofCondition_eq_error_iff.1 h
        exact ⟨0, c₀, rule, .head hrule, rfl⟩
      · obtain ⟨i, c, rule, hfirst, rfl⟩ :=
          ih.1 ((bind_eq_error_iff_of_ok fun rest => ⟨(k :: rest.1, rest.2), rfl⟩).1 h)
        refine ⟨i + 1, c, rule, hfirst.tail (exists_ofCondition_iff.1 ⟨_, hk⟩), ?_⟩
        rw [Nat.add_right_comm, Nat.add_assoc]
    · rintro ⟨i, c, rule, h, rfl⟩
      rcases i with _ | i
      · obtain rfl := Option.some.inj h.here
        exact .inl (ofCondition_eq_error_iff.2 ⟨rule, h.rule, rfl⟩)
      · obtain ⟨⟨k, groups'⟩, hk⟩ := exists_ofCondition_iff.2 (h.before 0 (Nat.succ_pos i) c₀ rfl)
        refine .inr ⟨⟨k, groups'⟩, hk, bind_eq_error_iff.2 (.inl (ih.2 ⟨i, c, rule, h.of_tail, ?_⟩))⟩
        rw [Nat.add_right_comm, Nat.add_assoc]

end Check

/-! ## Segments -/

/-- Nothing is wrong with a given value: there is none, or it stands for itself. -/
def Given.Harmless (g : Given) : Prop :=
  g.value = none ∨ g.kind = .literal

theorem Given.Harmless.not_unfit {g : Given} (h : g.Harmless) : ¬ g.Unfit := by
  rintro ⟨hkind, j, hj, -⟩
  rcases h with h | h
  · cases h.symm.trans hj
  · cases h.symm.trans hkind

/-- Conditions are held to the same rules, although their tests may differ, and so may the values
that these do not take and those that are harmless. -/
structure Condition.Alike (c c' : Condition) : Prop where
  subject : Text.blank c'.subject = Text.blank c.subject
  test : normalize c'.test = "" ↔ normalize c.test = ""
  slots : c'.slots = c.slots
  given : ∀ slot ∈ c.slots, c'.given slot = c.given slot ∨
    (c.given slot).Harmless ∧ (c'.given slot).Harmless
  connective : c'.connective = c.connective
  groupName : c'.groupName = c.groupName

namespace Condition.Alike

variable {c c' : Condition} {cs cs' : List Condition} {i : Nat} {rule : Rule}

theorem symm (h : c.Alike c') : c'.Alike c where
  subject := h.subject.symm
  test := h.test.symm
  slots := h.slots.symm
  given := fun slot hslot => (h.given slot (h.slots ▸ hslot)).imp Eq.symm And.symm
  connective := h.connective.symm
  groupName := h.groupName.symm

theorem rules_eq (h : c.Alike c') : c'.rules = c.rules := by
  rw [rules, rules, h.slots]

theorem breaks_iff (h : c.Alike c') (hrule : rule ∈ c.rules) : c'.Breaks rule ↔ c.Breaks rule := by
  cases rule with
  | subject => rw [Breaks, Breaks, h.subject]
  | test => exact h.test
  | operand slot =>
    have hslot : slot ∈ c.slots := by simpa [rules] using hrule
    rcases h.given slot hslot with heq | ⟨hc, hc'⟩
    · rw [Breaks, Breaks, heq]
    · exact iff_of_false hc'.not_unfit hc.not_unfit
  | group => rw [Breaks, Breaks, h.connective, h.groupName]

theorem fault_eq (h : c.Alike c') (hbroken : c.firstBroken? = some rule) (place : Nat) :
    c'.fault place rule = c.fault place rule := by
  cases rule with
  | operand slot =>
    have hslot : slot ∈ c.slots := by simpa [rules] using List.mem_of_find?_eq_some hbroken
    have hunfit : (c.given slot).Unfit :=
      of_decide_eq_true (p := c.Breaks (.operand slot)) (List.find?_eq_some_iff_append.1 hbroken).1
    rcases h.given slot hslot with heq | ⟨hc, -⟩
    · rw [fault, fault, heq]
    · exact absurd hunfit hc.not_unfit
  | _ => rfl

theorem firstBroken?_eq (h : c.Alike c') : c'.firstBroken? = c.firstBroken? := by
  unfold firstBroken?
  rw [h.rules_eq]
  refine List.find?_congr fun rule hrule => ?_
  rw [decide_eq_decide, h.breaks_iff hrule]

theorem malformed_iff (h : c.Alike c') : c'.Malformed ↔ c.Malformed := by
  rw [malformed_iff_firstBroken?, malformed_iff_firstBroken?, h.firstBroken?_eq]

theorem firstBroken (halike : List.Forall₂ Alike cs cs') (h : FirstBroken cs i c rule) :
    ∃ c', FirstBroken cs' i c' rule ∧ ∀ place, c'.fault place rule = c.fault place rule := by
  obtain ⟨c', hc', hcc'⟩ := exists_right_of_getElem? halike h.here
  refine ⟨c', ⟨hc', fun j hj d' hd' => ?_, hcc'.firstBroken?_eq.trans h.rule⟩, hcc'.fault_eq h.rule⟩
  obtain ⟨d, hd, hdd'⟩ := exists_right_of_getElem? halike.flip hd'
  exact fun hmal => h.before j hj d hd (hdd'.malformed_iff.1 hmal)

end Condition.Alike

theorem Segment.FirstFault.alike {s s' : Segment} {m : Malformation} (h : s.FirstFault m)
    (hname : Text.blank s'.name = Text.blank s.name)
    (halike : List.Forall₂ Condition.Alike s.conditions s'.conditions) : s'.FirstFault m := by
  cases h with
  | name h => exact .name (hname.trans h)
  | @condition i c rule hfine h =>
    obtain ⟨c', hc', hfault⟩ := Condition.Alike.firstBroken halike h
    rw [← hfault]
    exact .condition (hname.trans hfine) hc'

theorem Malformation.exists_message {m : Malformation} {path : String} (opening : String)
    (h : ∃ ending, m.text = opening ++ path ++ ending) :
    ∃ before after, (Error.malformed m).message = before ++ path ++ after := by
  obtain ⟨ending, h⟩ := h
  have hgroup : ∀ head : String, head ++ (opening ++ path ++ ending) =
      head ++ opening ++ path ++ ending := fun head => by simp only [String.append_assoc]
  exact ⟨_, ending, (congrArg _ h).trans (hgroup _)⟩

/-- What is told of a condition names it by its place. -/
theorem Condition.exists_message_fault (c : Condition) (i : Nat) (rule : Rule) :
    ∃ before after,
      (Error.malformed (c.fault i rule)).message = before ++ conditionPath i ++ after := by
  refine Malformation.exists_message "条件 '" ?_
  cases rule with
  | operand slot =>
    have hgroup : ∀ opening path a b c d : String, opening ++ path ++ a ++ b ++ c ++ d =
        opening ++ path ++ (a ++ b ++ c ++ d) := fun opening path a b c d => by
      simp only [String.append_assoc]
    exact ⟨_, hgroup _ _ _ _ _ _⟩
  | _ => exact ⟨_, rfl⟩

namespace Predicate

variable {s : Segment} {e : Error}

theorem ofSegment_eq_error_iff :
    ofSegment s = .error e ↔ ∃ m, s.FirstFault m ∧ e = .malformed m := by
  unfold ofSegment
  rw [mapError_eq_error_iff]
  refine exists_congr fun m => and_congr ?_ eq_comm
  split
  · rename_i hblank
    constructor
    · intro h
      obtain rfl := Except.error.inj h
      exact .name hblank
    · intro h
      cases h with
      | name => rfl
      | condition hname => cases hblank.symm.trans hname
  · rename_i hblank
    refine (bind_eq_error_iff_of_ok fun made => ⟨(⟨s, made.1, made.2⟩ : Predicate), rfl⟩).trans
      (Check.ofConditions_eq_error_iff.trans ?_)
    constructor
    · rintro ⟨i, c, rule, h, rfl⟩
      rw [Nat.zero_add]
      exact .condition (Bool.eq_false_iff.2 hblank) h
    · intro h
      cases h with
      | name h => exact absurd h hblank
      | @condition i c rule _ h => exact ⟨i, c, rule, h, by rw [Nat.zero_add]⟩

theorem exists_ofSegment_eq_error_iff :
    (∃ e, ofSegment s = .error e) ↔
      Text.blank s.name = true ∨ ∃ c ∈ s.conditions, c.Malformed := by
  simp only [ofSegment_eq_error_iff]
  constructor
  · rintro ⟨e, m, h, -⟩
    cases h with
    | name h => exact .inl h
    | @condition i c rule _ h =>
      have hmalformed := Condition.malformed_iff_firstBroken?.2 ⟨rule, h.rule⟩
      exact .inr ⟨c, List.mem_of_getElem? h.here, hmalformed⟩
  · intro h
    rcases hname : Text.blank s.name with _ | _
    · obtain ⟨i, c, rule, hfirst⟩ := Condition.FirstBroken.exists_of_malformed
        (h.resolve_left (Bool.eq_false_iff.1 hname))
      exact ⟨_, _, .condition hname hfirst, rfl⟩
    · exact ⟨_, _, .name hname, rfl⟩

/-- A segment is refused exactly if its name is blank or one of its conditions is malformed. The
error tells the first fault, and names a condition by its place. Segments with conditions that are
held to the same rules are refused alike, whatever else there is in the conditions. -/
theorem ofSegment_refuses_malformed (s : Segment) :
    ((∃ e, ofSegment s = .error e) ↔
        Text.blank s.name = true ∨ ∃ c ∈ s.conditions, c.Malformed) ∧
      (∀ e, ofSegment s = .error e ↔ ∃ m, s.FirstFault m ∧ e = .malformed m) ∧
      (∀ (c : Condition) i rule, ∃ before after,
        (Error.malformed (c.fault i rule)).message = before ++ conditionPath i ++ after) ∧
      ∀ s' : Segment, Text.blank s'.name = Text.blank s.name →
        List.Forall₂ Condition.Alike s.conditions s'.conditions →
        ∀ e, ofSegment s' = .error e ↔ ofSegment s = .error e := by
  refine ⟨exists_ofSegment_eq_error_iff, fun e => ofSegment_eq_error_iff,
    Condition.exists_message_fault, fun s' hname halike e => ?_⟩
  rw [ofSegment_eq_error_iff, ofSegment_eq_error_iff]
  refine exists_congr fun m => and_congr_left fun _ => ⟨fun h => ?_, fun h => ?_⟩
  · exact h.alike hname.symm (halike.flip.imp fun _ _ h => h.symm)
  · exact h.alike hname halike

/-- Two conditions, the second of which has no group. -/
def sampleUnnamed : List Condition :=
  [(Condition.new "age" "Less Than").literal (.ofInt 18),
    { Condition.new "plan" "Is Null" with connective := .or }]

/-- The same, with a test that is not known and a value that is not looked at. -/
def sampleUnnamedAlike : List Condition :=
  [(Condition.new "age" "No Test").literal (.array []),
    { Condition.new "plan" "Null" with connective := .or, minimum := ⟨some .null, .reference⟩ }]

/-- Either of these is refused for the missing group. -/
theorem sample_refused :
    List.Forall₂ Condition.Alike sampleUnnamed sampleUnnamedAlike ∧
      ofSegment (.new "minors" sampleUnnamedAlike) = .error (.malformed (.unnamedGroup 1)) := by
  have hname : Text.blank "minors" = false := by decide +kernel
  have halike : List.Forall₂ Condition.Alike sampleUnnamed sampleUnnamedAlike := by
    have hslots : (Condition.new "plan" "Is Null").slots = [] := by decide +kernel
    refine .cons ⟨rfl, by decide +kernel, by decide +kernel, fun slot _ => .inr ?_, rfl, rfl⟩
      (.cons ⟨rfl, by decide +kernel, by decide +kernel, fun slot hslot => ?_, rfl, rfl⟩ .nil)
    · cases slot <;> exact ⟨.inr rfl, .inr rfl⟩
    · exact absurd (hslots ▸ hslot) List.not_mem_nil
  have hfirst : Condition.FirstBroken sampleUnnamed 1
      { Condition.new "plan" "Is Null" with connective := .or } .group := by
    refine ⟨rfl, fun j hj c hc => ?_, by decide +kernel⟩
    have hnone : ((Condition.new "age" "Less Than").literal (.ofInt 18)).firstBroken? = none := by
      decide +kernel
    obtain rfl := Nat.lt_one_iff.1 hj
    obtain rfl := Option.some.inj hc
    rw [Condition.malformed_iff_firstBroken?, hnone]
    exact fun ⟨rule, hrule⟩ => by cases hrule
  obtain ⟨-, hfault, -, hagree⟩ := ofSegment_refuses_malformed (.new "minors" sampleUnnamed)
  exact ⟨halike, (hagree (.new "minors" sampleUnnamedAlike) rfl halike _).2
    ((hfault _).2 ⟨_, .condition hname hfirst, rfl⟩)⟩

end Predicate

end Audience
