import Audience.Operator
import Mathlib.Data.List.Basic

/-!
# Normal forms of names

What `normalize` yields has no white space in it, and each of its characters is its own lower-case
form, so normalising it again changes nothing (`normalize_normalize`). The names that tests are
shown under are normal forms too, being made of small Latin letters, and each finds its test
(`Operator.ofName?_name`).

Lower-case forms come from the runs of a table. The lower-case forms of a run make up a run
themselves (`CaseRun.partners`), and that has no code point in common with white space or with any
run of the table (`apart_reserved`). Whether two runs have code points in common is told by their
ends and by parity (`CaseRun.apart`).
-/

namespace Audience

namespace Text

/-! ## Runs of code points -/

namespace CaseRun

variable {r q : CaseRun} {n : Nat}

/-- The partners of a run, as a run without partners of its own. -/
def partners (r : CaseRun) : CaseRun :=
  ⟨r.partner r.first, r.partner r.last, r.step, 0⟩

/-- All code points of a run are even, or all of them are odd. -/
def keepsParity (r : CaseRun) : Bool :=
  r.step == 2 || r.first == r.last

/-- One run ends before the other begins, or one is of even and the other of odd code points. -/
def apart (r q : CaseRun) : Bool :=
  Nat.blt r.last q.first || Nat.blt q.last r.first ||
    (r.keepsParity && q.keepsParity && (r.first + q.first) % 2 == 1)

theorem covers_iff :
    r.covers n = true ↔ r.first ≤ n ∧ n ≤ r.last ∧ (n - r.first) % r.step = 0 := by
  simp [covers, and_assoc]

theorem mod_two_of_covers (hparity : r.keepsParity = true) (h : r.covers n = true) :
    n % 2 = r.first % 2 := by
  obtain ⟨hfirst, hlast, hstep⟩ := covers_iff.1 h
  rw [keepsParity, Bool.or_eq_true, beq_iff_eq, beq_iff_eq] at hparity
  rcases hparity with htwo | hone
  · rw [htwo] at hstep
    omega
  · omega

theorem not_covers_of_apart (h : r.apart q = true) (hr : r.covers n = true) :
    ¬ q.covers n = true := by
  intro hq
  obtain ⟨hr₁, hr₂, -⟩ := covers_iff.1 hr
  obtain ⟨hq₁, hq₂, -⟩ := covers_iff.1 hq
  simp only [apart, Bool.or_eq_true, Bool.and_eq_true, beq_iff_eq, Nat.blt_eq] at h
  rcases h with (hbefore | hafter) | ⟨⟨hparity, hparity'⟩, hodd⟩
  · omega
  · omega
  · have hr₀ := mod_two_of_covers hparity hr
    have hq₀ := mod_two_of_covers hparity' hq
    omega

theorem covers_partners (hstart : 0 ≤ (r.first : Int) + r.shift) (h : r.covers n = true) :
    r.partners.covers (r.partner n) = true := by
  obtain ⟨hfirst, hlast, hstep⟩ := covers_iff.1 h
  have hdistance : r.partner n - r.partner r.first = n - r.first := by
    unfold partner
    omega
  refine covers_iff.2 ⟨?_, ?_, ?_⟩
  · change r.partner r.first ≤ r.partner n
    unfold partner
    omega
  · change r.partner n ≤ r.partner r.last
    unfold partner
    omega
  · change (r.partner n - r.partner r.first) % r.step = 0
    rw [hdistance, hstep]

end CaseRun

/-! ## Lower-case forms -/

/-- What no lower-case form is among: the letter whose lower-case form has two characters, white
space, and the letters with another lower-case form. -/
def reserved : List CaseRun :=
  ⟨0x130, 0x130, 1, 0⟩ :: blankIntervals.map (fun i => ⟨i.1, i.2, 1, 0⟩) ++ lowerRuns

theorem apart_reserved : ∀ r ∈ lowerRuns, ∀ q ∈ reserved, r.partners.apart q = true := by
  have hall : (lowerRuns.all fun r => reserved.all r.partners.apart) = true := by decide +kernel
  exact fun r hr => List.all_eq_true.1 (List.all_eq_true.1 hall r hr)

theorem isValidChar_partners : ∀ r ∈ lowerRuns, 0 ≤ (r.first : Int) + r.shift ∧
    (r.partners.last < 0xD800 ∨ 0xDFFF < r.partners.first ∧ r.partners.last < 0x110000) := by
  decide +kernel

/-- A code point is its own lower-case form, and not white space. -/
structure Lowered (n : Nat) : Prop where
  valid : n.isValidChar
  settled : lowerCode n = [n]
  visible : ¬ ∃ i ∈ blankIntervals, i.1 ≤ n ∧ n ≤ i.2

theorem isBlank_iff {c : Char} :
    isBlank c = true ↔ ∃ i ∈ blankIntervals, i.1 ≤ c.toNat ∧ c.toNat ≤ i.2 := by
  simp [isBlank]

theorem lowerCode_of_not_covers {n : Nat} (hn : n ≠ 0x130)
    (h : ∀ r ∈ lowerRuns, ¬ r.covers n = true) : lowerCode n = [n] := by
  have hnone : lowerRuns.find? (·.covers n) = none := List.find?_eq_none.2 h
  rw [lowerCode, if_neg hn, hnone]

/-- The partners of a run of letters are lowered. -/
theorem lowered_partner {r : CaseRun} {n : Nat} (hr : r ∈ lowerRuns) (h : r.covers n = true) :
    Lowered (r.partner n) := by
  obtain ⟨hstart, hvalid⟩ := isValidChar_partners r hr
  have hcovers := CaseRun.covers_partners hstart h
  have hfree : ∀ q ∈ reserved, ¬ q.covers (r.partner n) = true := fun q hq =>
    CaseRun.not_covers_of_apart (apart_reserved r hr q hq) hcovers
  obtain ⟨hfirst, hlast, -⟩ := CaseRun.covers_iff.1 hcovers
  refine ⟨?_, lowerCode_of_not_covers ?_ ?_, ?_⟩
  · unfold Nat.isValidChar
    omega
  · intro heq
    refine hfree ⟨0x130, 0x130, 1, 0⟩ (List.mem_append_left _ List.mem_cons_self) ?_
    simp [CaseRun.covers_iff, heq]
  · exact fun q hq => hfree q (List.mem_append_right _ hq)
  · rintro ⟨i, hi, hlow, hhigh⟩
    refine hfree ⟨i.1, i.2, 1, 0⟩ (List.mem_append_left _ (List.mem_cons_of_mem _ ?_)) ?_
    · exact List.mem_map.2 ⟨i, hi, rfl⟩
    · exact CaseRun.covers_iff.2 ⟨hlow, hhigh, Nat.mod_one _⟩

/-- Lower-case forms of visible characters are lowered. -/
theorem lowered_of_mem_lowerCode {n m : Nat} (hvalid : n.isValidChar)
    (hvisible : ¬ ∃ i ∈ blankIntervals, i.1 ≤ n ∧ n ≤ i.2) (h : m ∈ lowerCode n) : Lowered m := by
  by_cases hn : n = 0x130
  · have hdotted : lowerCode 0x69 = [0x69] ∧ lowerCode 0x307 = [0x307] := by decide +kernel
    rw [lowerCode, if_pos hn] at h
    rcases List.mem_cons.1 h with rfl | h
    · exact ⟨by decide, hdotted.1, by decide⟩
    · obtain rfl := List.mem_singleton.1 h
      exact ⟨by decide, hdotted.2, by decide⟩
  · rcases hfind : lowerRuns.find? (·.covers n) with _ | r
    · have hself : lowerCode n = [n] := by rw [lowerCode, if_neg hn, hfind]
      rw [hself] at h
      obtain rfl := List.mem_singleton.1 h
      exact ⟨hvalid, hself, hvisible⟩
    · have hcovers : r.covers n = true := by simpa using List.find?_some hfind
      rw [lowerCode, if_neg hn, hfind] at h
      obtain rfl := List.mem_singleton.1 h
      exact lowered_partner (List.mem_of_find?_eq_some hfind) hcovers

/-- The lower-case form of a visible character is visible, and its own lower-case form. -/
theorem lowerChar_of_mem_lowerChar {c d : Char} (hc : isBlank c = false) (h : d ∈ lowerChar c) :
    lowerChar d = [d] ∧ isBlank d = false := by
  obtain ⟨m, hm, rfl⟩ := List.mem_map.1 h
  have hvisible : ¬ ∃ i ∈ blankIntervals, i.1 ≤ c.toNat ∧ c.toNat ≤ i.2 := by
    rw [← isBlank_iff, hc]
    exact Bool.false_ne_true
  have hlowered := lowered_of_mem_lowerCode c.valid hvisible hm
  have hnat : (Char.ofNat m).toNat = m := by
    rw [Char.ofNat, dif_pos hlowered.valid]
    rfl
  constructor
  · rw [lowerChar, hnat, hlowered.settled]
    rfl
  · rw [← Bool.not_eq_true, isBlank_iff, hnat]
    exact hlowered.visible

theorem lowerChar_ne_nil (c : Char) : lowerChar c ≠ [] := by
  rw [lowerChar, Ne, List.map_eq_nil_iff, lowerCode]
  split
  · exact List.cons_ne_nil _ _
  · split <;> exact List.cons_ne_nil _ _

/-- Small Latin letters are visible, and their own lower-case forms. -/
theorem lowerChar_of_small {c : Char} (hlow : 97 ≤ c.toNat) (hhigh : c.toNat ≤ 122) :
    lowerChar c = [c] ∧ isBlank c = false := by
  have hruns : ∀ r ∈ lowerRuns, r.last < 97 ∨ 122 < r.first := by decide +kernel
  have hlower : lowerCode c.toNat = [c.toNat] := by
    refine lowerCode_of_not_covers (by omega) fun r hr hcovers => ?_
    obtain ⟨hfirst, hlast, -⟩ := CaseRun.covers_iff.1 hcovers
    have := hruns r hr
    omega
  constructor
  · rw [lowerChar, hlower, List.map_singleton, Char.ofNat_toNat]
  · rw [← Bool.not_eq_true, isBlank_iff]
    rintro ⟨i, hi, hfirst, hlast⟩
    have hblank : ∀ i ∈ blankIntervals, i.2 < 97 ∨ 122 < i.1 := by decide
    have := hblank i hi
    omega

end Text

/-! ## Names of tests -/

/-- The characters of a normalised name are visible, and their own lower-case forms. -/
theorem lowerChar_of_mem_normalize {name : String} {d : Char} (h : d ∈ (normalize name).toList) :
    Text.lowerChar d = [d] ∧ Text.isBlank d = false := by
  rw [normalize, String.toList_ofList] at h
  obtain ⟨c, hc, hd⟩ := List.mem_flatMap.1 h
  have hvisible : Text.isBlank c = false := by simpa using (List.mem_filter.1 hc).2
  exact Text.lowerChar_of_mem_lowerChar hvisible hd

/-- A name of visible characters that are their own lower-case forms is its own normal form. -/
theorem normalize_eq_self {name : String}
    (h : ∀ c ∈ name.toList, Text.lowerChar c = [c] ∧ Text.isBlank c = false) :
    normalize name = name := by
  have hkept : name.toList.filter (fun c => !Text.isBlank c) = name.toList := by
    refine List.filter_eq_self.2 fun c hc => ?_
    rw [(h c hc).2]
    rfl
  have hlowered : name.toList.flatMap Text.lowerChar = name.toList := by
    rw [List.flatMap_congr fun c hc => (h c hc).1, List.flatMap_singleton']
  rw [normalize, hkept, hlowered, String.ofList_toList]

theorem normalize_normalize (name : String) : normalize (normalize name) = normalize name :=
  normalize_eq_self fun _ => lowerChar_of_mem_normalize

/-- Only of white space nothing is left. -/
theorem normalize_eq_empty_iff {name : String} : normalize name = "" ↔ Text.blank name = true := by
  rw [normalize, String.ofList_eq_empty_iff, List.flatMap_eq_nil_iff, Text.blank, List.all_eq_true]
  simp only [List.mem_filter, Text.lowerChar_ne_nil, imp_false, not_and, Bool.not_eq_true',
    Bool.not_eq_false]

namespace Operator

/-- A test is found by the normal form of any of its names. -/
theorem ofName?_normalize (name : String) : ofName? (normalize name) = ofName? name := by
  rw [ofName?, ofName?, normalize_normalize]

theorem mem_names_of_ofName? {name : String} {op : Operator} (h : ofName? name = some op) :
    normalize name ∈ op.names := by
  simpa using List.find?_some h

/-- The name that a test is shown under is a normal form. -/
theorem normalize_name (op : Operator) : normalize op.name = op.name := by
  have hsmall : ∀ op ∈ all, (op.name.toList.all fun c => 97 ≤ c.toNat && c.toNat ≤ 122) = true := by
    decide +kernel
  refine normalize_eq_self fun c hc => ?_
  have hc := List.all_eq_true.1 (hsmall op op.mem_all) c hc
  rw [Bool.and_eq_true, decide_eq_true_iff, decide_eq_true_iff] at hc
  exact Text.lowerChar_of_small hc.1 hc.2

/-- A test is found by the name that it is shown under. -/
theorem ofName?_name (op : Operator) : ofName? op.name = some op := by
  have hfind : ∀ op ∈ all, all.find? (fun op' => op'.names.contains op.name) = some op := by
    decide +kernel
  rw [ofName?, op.normalize_name, hfind op op.mem_all]

end Operator

/-- A name means the same in its normal form, which has no other. -/
structure KeepsMeaning (name : String) : Prop where
  visible : ∀ c ∈ (normalize name).toList, Text.isBlank c = false
  settled : normalize (normalize name) = normalize name
  blank : normalize name = "" ↔ Text.blank name = true
  operator : Operator.ofName? (normalize name) = Operator.ofName? name

theorem keepsMeaning (name : String) : KeepsMeaning name where
  visible _ hc := (lowerChar_of_mem_normalize hc).2
  settled := normalize_normalize name
  blank := normalize_eq_empty_iff
  operator := Operator.ofName?_normalize name

end Audience
