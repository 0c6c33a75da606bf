import Audience.Proofs.Fields
import Audience.Proofs.Numbers.Numerals
import Audience.Proofs.Paths.Spelling
import Audience.Record
import Mathlib.Algebra.Order.BigOperators.Group.List
import Mathlib.Data.List.Forall2

/-!
# Paths into a record

A value is inside another at a list of places, each a key of an object or a number of an item
(`Json.Leads`). A path names places if the texts of its steps call them (`Path.Names`): a key is
called by itself, and an item by any text that reads as its number. So one text may call both, and
what a path names is settled only by the values that it leads through.

A variable that is no key of the record is defined exactly if its name is a path that names places
with something inside (`Record.get?_eq_some_iff`), however the path is spelled. And whatever is
inside a record can be named, by a path that is no key of it (`Path.pathFor`), unless a key on the
way has quotes of both kinds.
-/

namespace Audience

/-! ## Places -/

/-- A place in an object or an array. -/
inductive Json.Place where
  | field (key : String)
  | item (index : Nat)
deriving DecidableEq, Repr

namespace Json.Place

/-- What is at a place of a value. -/
inductive At : Json.Place → Json → Json → Prop
  | field {key : String} {fields : Fields Json} {j : Json} (h : Fields.get? key fields = some j) :
      At (field key) (.object fields) j
  | item {index : Nat} {items : List Json} {j : Json} (h : items[index]? = some j) :
      At (item index) (.array items) j

/-- The texts that call a place. -/
inductive Called : Json.Place → String → Prop
  | field (key : String) : Called (field key) key
  | item {index : Nat} {text : String} (h : Step.index? text = some index) :
      Called (item index) text

end Json.Place

/-- Places, each inside the one before, that lead from a value to another. -/
inductive Json.Leads : List Json.Place → Json → Json → Prop
  | here (j : Json) : Leads [] j j
  | step {place : Json.Place} {places : List Json.Place} {j j' w : Json} (h : place.At j j')
      (hrest : Leads places j' w) : Leads (place :: places) j w

/-- A step leads to what is at a place that its text calls. -/
theorem Step.follow?_eq_some_iff {step : Step} {j w : Json} :
    step.follow? j = some w ↔ ∃ place : Json.Place, place.Called step.name ∧ place.At j w := by
  constructor
  · intro h
    cases j with
    | object fields => exact ⟨.field step.name, .field _, .field h⟩
    | array items =>
      obtain ⟨i, hi, hw⟩ := Option.bind_eq_some_iff.1 h
      exact ⟨.item i, .item hi, .item hw⟩
    | _ => cases h
  · rintro ⟨place, hcalled, hat⟩
    cases hat with
    | field h =>
      cases hcalled
      exact h
    | item h =>
      cases hcalled with
      | item hi => exact Option.bind_eq_some_iff.2 ⟨_, hi, h⟩

namespace Path

/-- The texts of the steps that parts spell. -/
def texts (parts : List Part) : List String :=
  (parts.filterMap Part.step?).map Step.name

/-- A path names places, one at least, by the texts of its steps. -/
def Names (path : String) (places : List Json.Place) : Prop :=
  places ≠ [] ∧ ∃ parts, Spelled parts path.toList ∧
    List.Forall₂ Json.Place.Called places (texts parts)

/-- Steps lead where the places lead that their texts call. -/
theorem follow?_eq_some_iff {steps : List Step} {j w : Json} : follow? steps j = some w ↔
    ∃ places, List.Forall₂ Json.Place.Called places (steps.map Step.name) ∧ j.Leads places w := by
  induction steps generalizing j with
  | nil =>
    constructor
    · intro h
      obtain rfl := Option.some.inj h
      exact ⟨[], .nil, .here j⟩
    · rintro ⟨places, hcalled, hleads⟩
      cases hcalled
      cases hleads
      rfl
  | cons step steps ih =>
    have hcons : follow? (step :: steps) j = (step.follow? j).bind (follow? steps) := rfl
    rw [hcons, Option.bind_eq_some_iff]
    constructor
    · rintro ⟨j', hj', hw⟩
      obtain ⟨place, hcalled, hat⟩ := Step.follow?_eq_some_iff.1 hj'
      obtain ⟨places, hplaces, hleads⟩ := ih.1 hw
      exact ⟨place :: places, .cons hcalled hplaces, .step hat hleads⟩
    · rintro ⟨places, hcalled, hleads⟩
      cases hcalled with
      | cons hplace hplaces =>
        cases hleads with
        | step hat hrest =>
          exact ⟨_, Step.follow?_eq_some_iff.2 ⟨_, hplace, hat⟩, ih.2 ⟨_, hplaces, hrest⟩⟩

/-- Whatever parts a path is said to be spelled by, it names the same places. -/
theorem names_iff {path : String} {parts : List Part} (h : Spelled parts path.toList)
    {places : List Json.Place} :
    Names path places ↔ places ≠ [] ∧ List.Forall₂ Json.Place.Called places (texts parts) := by
  refine and_congr_right fun _ => ⟨?_, fun hcalled => ⟨parts, h, hcalled⟩⟩
  rintro ⟨parts', h', hcalled⟩
  have hsteps := Option.some.inj (h.steps?_eq.symm.trans h'.steps?_eq)
  rwa [texts, hsteps]

/-- Looking a path up leads where the places lead that it names. -/
theorem bind_parse?_eq_some_iff {path : String} {j w : Json} :
    ((parse? path).bind fun steps => follow? steps j) = some w ↔
      ∃ places, Names path places ∧ j.Leads places w := by
  simp only [Option.bind_eq_some_iff, parse?_eq_some_iff, follow?_eq_some_iff]
  constructor
  · rintro ⟨steps, ⟨hne, parts, hparts, rfl⟩, places, hcalled, hleads⟩
    refine ⟨places, ⟨?_, parts, hparts, hcalled⟩, hleads⟩
    rintro rfl
    exact hne (List.map_eq_nil_iff.1 (List.forall₂_nil_left_iff.1 hcalled))
  · rintro ⟨places, ⟨hne, parts, hparts, hcalled⟩, hleads⟩
    refine ⟨parts.filterMap Part.step?, ⟨fun hnil => hne ?_, parts, hparts, rfl⟩,
      places, hcalled, hleads⟩
    rw [texts, hnil] at hcalled
    exact List.forall₂_nil_right_iff.1 hcalled

end Path

/-! ## Variables -/

namespace Record

variable {d w : Json} {path : String}

/-- A variable is a key of the record, and has its value, or a path that names places with something
inside. -/
theorem get?_eq_some_iff : (mk d).get? path = some w ↔
    d.field? path = some w ∨
      d.field? path = none ∧ ∃ places, Path.Names path places ∧ d.Leads places w := by
  rw [get?]
  rcases d.field? path with _ | j
  · simp only [reduceCtorEq, true_and, false_or]
    exact Path.bind_parse?_eq_some_iff
  · simp

theorem get?_eq_none_iff : (mk d).get? path = none ↔
    d.field? path = none ∧ ∀ places w, Path.Names path places → ¬ d.Leads places w := by
  rw [Option.eq_none_iff_forall_ne_some]
  simp only [ne_eq, get?_eq_some_iff, not_or, not_and, not_exists]
  constructor
  · intro h
    have hkey : d.field? path = none := Option.eq_none_iff_forall_ne_some.2 fun w => (h w).1
    exact ⟨hkey, fun places w hnames => (h w).2 hkey places hnames⟩
  · rintro ⟨hkey, h⟩ w
    exact ⟨by simp [hkey], fun _ places hnames => h places w hnames⟩

/-- Paths whose steps have the same texts have the same value, if neither is a key. -/
theorem get?_congr {path' : String} {parts parts' : List Path.Part}
    (hparts : Path.Spelled parts path.toList) (hparts' : Path.Spelled parts' path'.toList)
    (htexts : Path.texts parts = Path.texts parts') (hkey : d.field? path = none)
    (hkey' : d.field? path' = none) : (mk d).get? path = (mk d).get? path' := by
  refine Option.ext fun w => ?_
  simp only [get?_eq_some_iff, hkey, hkey', Path.names_iff hparts, Path.names_iff hparts', htexts]

end Record

/-! ## Naming every place -/

namespace Json.Place

/-- Whether a text between brackets can call a place: a key has no quotes of some kind, and a number
is one of 64 bits. -/
def Writable : Json.Place → Prop
  | field key => ¬ ('\'' ∈ key.toList ∧ '"' ∈ key.toList)
  | item index => index < 2 ^ 64

/-- A part that calls a place. -/
def part : Json.Place → Path.Part
  | field key => .quoted (if '\'' ∈ key.toList then '"' else '\'') key.toList
  | item index => .bare (Nat.toDigits 10 index)

/-- The digits of a number are read as it. -/
theorem index?_toDigits {i : Nat} (h : i < 2 ^ 64) :
    Step.index? (String.ofList (Nat.toDigits 10 i)) = some i := by
  have hdigits : (Nat.toDigits 10 i).all isDigit = true :=
    List.all_eq_true.2 fun c hc => isDigit_of_mem_toDigits hc
  have hne : (Nat.toDigits 10 i).isEmpty = false := by simp
  rw [Step.index?, String.toList_ofList]
  split
  · rename_i ds hplus
    exact absurd (isDigit_of_mem_toDigits (hplus ▸ List.mem_cons_self)) (by decide)
  · rw [natOfDigits_toDigits, hdigits, hne]
    exact if_pos h

variable {place : Json.Place}

theorem Writable.legal_part (h : place.Writable) : place.part.Legal := by
  cases place with
  | field key =>
    by_cases hquote : '\'' ∈ key.toList
    · rw [part, if_pos hquote]
      exact .quoted (.inr rfl) fun hdouble => h ⟨hquote, hdouble⟩
    · rw [part, if_neg hquote]
      exact .quoted (.inl rfl) hquote
  | item index =>
    refine .bare (fun c hc => ?_) fun hmem => ?_
    · have hdigit := isDigit_of_mem_toDigits (List.mem_of_mem_head? hc)
      constructor <;> rintro rfl <;> revert hdigit <;> decide
    · exact absurd (isDigit_of_mem_toDigits hmem) (by decide)

theorem isRun_part (place : Json.Place) : place.part.isRun = false := by
  cases place <;> rfl

/-- The part for a place is a step whose text calls it. -/
theorem Writable.exists_step (h : place.Writable) :
    ∃ step, place.part.step? = some step ∧ place.Called step.name := by
  cases place with
  | field key =>
    refine ⟨_, rfl, ?_⟩
    rw [Step.name, String.ofList_toList]
    exact .field key
  | item index =>
    have htrim : Text.trimChars (Nat.toDigits 10 index) = Nat.toDigits 10 index :=
      Text.trimChars_eq_self fun c hc => Text.isBlank_of_isDigit (isDigit_of_mem_toDigits hc)
    refine ⟨_, rfl, .item ?_⟩
    rw [Step.name, htrim, index?_toDigits h]

end Json.Place

namespace Path

/-- Parts for places, and dots after them. -/
def partsFor (places : List Json.Place) (dots : Nat) : List Part :=
  places.map Json.Place.part ++ List.replicate dots .dot

variable {places : List Json.Place}

theorem spelled_partsFor (h : ∀ place ∈ places, place.Writable) (dots : Nat) :
    Spelled (partsFor places dots) ((partsFor places dots).flatMap Part.chars) := by
  have hpart : ∀ part ∈ partsFor places dots, part.Legal ∧ part.isRun = false := by
    intro part hpart
    rcases List.mem_append.1 hpart with hpart | hpart
    · obtain ⟨place, hplace, rfl⟩ := List.mem_map.1 hpart
      exact ⟨(h place hplace).legal_part, place.isRun_part⟩
    · obtain rfl := List.eq_of_mem_replicate hpart
      exact ⟨.dot, rfl⟩
  refine ⟨rfl, fun part hmem => (hpart part hmem).1, List.Pairwise.isChain ?_⟩
  refine List.pairwise_of_forall_mem_list fun a ha b _ hruns => ?_
  exact Bool.false_ne_true ((hpart a ha).2.symm.trans hruns.1)

theorem texts_partsFor (places : List Json.Place) (dots : Nat) :
    texts (partsFor places dots) =
      (places.filterMap fun place => place.part.step?).map Step.name := by
  rw [texts, partsFor, List.filterMap_append, List.filterMap_map]
  simp [Part.step?, Function.comp_def]

theorem forall₂_called_partsFor (h : ∀ place ∈ places, place.Writable) (dots : Nat) :
    List.Forall₂ Json.Place.Called places (texts (partsFor places dots)) := by
  rw [texts_partsFor]
  induction places with
  | nil => exact .nil
  | cons place places ih =>
    obtain ⟨hplace, hplaces⟩ := List.forall_mem_cons.1 h
    obtain ⟨step, hstep, hcalled⟩ := hplace.exists_step
    rw [List.filterMap_cons, hstep]
    exact .cons hcalled (ih hplaces)

/-- A path for places, with dots after it. -/
def pathFor (places : List Json.Place) (dots : Nat) : String :=
  String.ofList ((partsFor places dots).flatMap Part.chars)

theorem names_pathFor (hne : places ≠ []) (h : ∀ place ∈ places, place.Writable) (dots : Nat) :
    Names (pathFor places dots) places := by
  refine ⟨hne, partsFor places dots, ?_, forall₂_called_partsFor h dots⟩
  rw [pathFor, String.toList_ofList]
  exact spelled_partsFor h dots

theorem le_length_pathFor (places : List Json.Place) (dots : Nat) :
    dots ≤ (pathFor places dots).length := by
  simp [pathFor, partsFor, Part.chars, List.flatMap_replicate]

/-- There is no end to the dots that a path may have, so one for given places can always be found
that is not among given names. -/
theorem exists_pathFor_not_mem (places : List Json.Place) (names : List String) :
    ∃ dots, pathFor places dots ∉ names := by
  refine ⟨(names.map String.length).sum + 1, fun hmem => ?_⟩
  have hle := List.le_sum_of_mem (List.mem_map_of_mem (f := String.length) hmem)
  have hlt := le_length_pathFor places ((names.map String.length).sum + 1)
  omega

end Path

namespace Record

/-- How the values inside a record are looked up. -/
structure Addressed (d : Json) : Prop where
  named : ∀ path places w, Path.Names path places → d.Leads places w →
    (mk d).get? path = some ((d.field? path).getD w)
  defined : ∀ path w, (mk d).get? path = some w ↔
    d.field? path = some w ∨
      d.field? path = none ∧ ∃ places, Path.Names path places ∧ d.Leads places w
  undefined : ∀ path, (mk d).get? path = none ↔
    d.field? path = none ∧ ∀ places w, Path.Names path places → ¬ d.Leads places w
  alike : ∀ path path' parts parts', Path.Spelled parts path.toList →
    Path.Spelled parts' path'.toList → Path.texts parts = Path.texts parts' →
    d.field? path = none → d.field? path' = none → (mk d).get? path = (mk d).get? path'
  reachable : ∀ places w, places ≠ [] → (∀ place ∈ places, place.Writable) → d.Leads places w →
    ∃ path, Path.Names path places ∧ d.field? path = none ∧ (mk d).get? path = some w

/-- Whatever is inside a record has the value of every path that names the places leading there,
unless the path is a key of the record, and nothing else is the value of a path. -/
theorem addressed (d : Json) : Addressed d := by
  have named : ∀ path places w, Path.Names path places → d.Leads places w →
      (mk d).get? path = some ((d.field? path).getD w) := by
    intro path places w hnames hleads
    rw [get?_eq_some_iff]
    rcases d.field? path with _ | j
    · exact .inr ⟨rfl, places, hnames, hleads⟩
    · exact .inl rfl
  refine ⟨named, fun path w => get?_eq_some_iff, fun path => get?_eq_none_iff,
    fun path path' parts parts' => get?_congr, fun places w hne h hleads => ?_⟩
  -- dots are put after the path until it is no key of the record
  obtain ⟨dots, hfresh⟩ := Path.exists_pathFor_not_mem places (d.fields?.getD []).keys
  have hnames := Path.names_pathFor hne h dots
  have hkey : d.field? (Path.pathFor places dots) = none := by
    rw [Json.field?]
    cases hfields : d.fields? with
    | none => rfl
    | some fields =>
      rw [hfields, Option.getD_some] at hfresh
      exact Option.not_isSome_iff_eq_none.1 (mt Fields.isSome_get?_iff.1 hfresh)
  exact ⟨_, hnames, hkey, by rw [named _ places w hnames hleads, hkey, Option.getD_none]⟩

/-- A key with a dot in it, and an item whose number has a sign and white space around it. -/
theorem sample_addressed :
    (mk (.object [("a", .object [("x.y", .array [.ofInt 10])])])).get? ".a['x.y'][ +0 ]" =
      some (.ofInt 10) := by
  have hspelled : Path.Spelled [.dot, .run ['a'], .quoted '\'' ['x', '.', 'y'],
      .bare [' ', '+', '0', ' ']] ".a['x.y'][ +0 ]".toList := by
    have hbare : Path.Part.Legal (.bare [' ', '+', '0', ' ']) ∧
        (Path.Part.bare [' ', '+', '0', ' ']).step? = some (.index (String.ofList ['+', '0'])) :=
      Path.Part.legal_bare_iff.2 ⟨[' '], [' '], rfl, List.forall_mem_singleton.2 (by decide),
        List.forall_mem_singleton.2 (by decide), by decide, by decide,
        fun _ _ _ => List.cons_ne_nil _ _⟩
    refine ⟨by decide +kernel, ?_, by simp [Path.Part.isRun]⟩
    simp only [List.forall_mem_cons, List.not_mem_nil, false_implies, implies_true, and_true]
    exact ⟨.dot, .run (by decide) (by simp [Path.isPlain]), .quoted (.inl rfl) (by decide),
      hbare.1⟩
  have hcalled : List.Forall₂ Json.Place.Called [.field "a", .field "x.y", .item 0]
      (Path.texts [.dot, .run ['a'], .quoted '\'' ['x', '.', 'y'], .bare [' ', '+', '0', ' ']]) :=
    .cons (.field "a") (.cons (.field "x.y") (.cons (.item (by decide +kernel)) .nil))
  have hleads : Json.Leads [.field "a", .field "x.y", .item 0]
      (.object [("a", .object [("x.y", .array [.ofInt 10])])]) (.ofInt 10) :=
    .step (.field rfl) (.step (.field rfl) (.step (.item rfl) (.here _)))
  exact (addressed _).named _ _ _ ⟨List.cons_ne_nil _ _, _, hspelled, hcalled⟩ hleads

end Record

end Audience
