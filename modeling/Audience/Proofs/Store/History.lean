import Audience.Store
import Mathlib.Data.List.Induction
import Mathlib.Tactic.SplitIfs

/-!
# The history of a store

What calls bring about is an `Event` each: a segment was loaded, a name was removed, all names were
cleared. This file says what a list of events means, without looking at a store. `LastLoaded` is the
segment that a name was last loaded with and not dropped since, a name is `Present` if there is one,
and it has `ArrivedAt` the event at which it was first loaded since it was last absent. The
`_append` lemmas tell what one more event changes.
-/

namespace Audience.Store

/-- What a call brings about. -/
inductive Event where
  | loaded (segment : Segment)
  | removed (name : String)
  | cleared

namespace Event

/-- The event loads a name. -/
def Loads (name : String) : Event → Prop
  | loaded segment => segment.name = name
  | _ => False

/-- The event takes a name out. -/
def Drops (name : String) : Event → Prop
  | loaded _ => False
  | removed name' => name' = name
  | cleared => True

theorem loads_iff {name : String} {e : Event} :
    e.Loads name ↔ ∃ segment, e = .loaded segment ∧ segment.name = name := by
  cases e with
  | loaded segment' =>
    constructor
    · exact fun h => ⟨segment', rfl, h⟩
    · rintro ⟨segment, he, hname⟩
      obtain rfl := Event.loaded.inj he
      exact hname
  | _ => simp [Loads]

theorem Loads.not_drops {name : String} {e : Event} (h : e.Loads name) : ¬ e.Drops name := by
  obtain ⟨segment, rfl, -⟩ := loads_iff.1 h
  exact id

end Event

/-- A name was loaded with this segment, and has not been loaded or dropped since. -/
def LastLoaded (events : List Event) (name : String) (segment : Segment) : Prop :=
  segment.name = name ∧ ∃ before after, events = before ++ .loaded segment :: after ∧
    ∀ e ∈ after, ¬ e.Loads name ∧ ¬ e.Drops name

/-- A name has been loaded and not dropped since. -/
def Present (events : List Event) (name : String) : Prop :=
  ∃ segment, LastLoaded events name segment

/-- A name that was absent was loaded by the event at this place, and has not been dropped since. -/
def ArrivedAt (events : List Event) (name : String) (place : Nat) : Prop :=
  ∃ before e after, events = before ++ e :: after ∧ before.length = place ∧ e.Loads name ∧
    ¬ Present before name ∧ ∀ e' ∈ after, ¬ e'.Drops name

/-- Of two names that are present, the first arrived before the second. -/
def ArrivedBefore (events : List Event) (first second : String) : Prop :=
  ∃ i j, ArrivedAt events first i ∧ ArrivedAt events second j ∧ i < j

/-! ## One more event -/

/-- A place in a list with one more item is the last one or a place in the list before. -/
theorem append_singleton_eq_append_cons_iff {α : Type} {xs before after : List α} {x y : α} :
    xs ++ [x] = before ++ y :: after ↔ (before = xs ∧ y = x ∧ after = []) ∨
      ∃ rest, after = rest ++ [x] ∧ xs = before ++ y :: rest := by
  constructor
  · intro h
    rcases after.eq_nil_or_concat with rfl | ⟨rest, z, rfl⟩
    · obtain ⟨hbefore, hlast⟩ := List.append_inj' h rfl
      exact .inl ⟨hbefore.symm, (List.singleton_inj.1 hlast).symm, rfl⟩
    · rw [List.concat_eq_append] at h ⊢
      rw [← List.cons_append, ← List.append_assoc] at h
      obtain ⟨hbefore, hlast⟩ := List.append_inj' h rfl
      exact .inr ⟨rest, by rw [hlast], hbefore⟩
  · rintro (⟨rfl, rfl, rfl⟩ | ⟨rest, rfl, rfl⟩)
    · rfl
    · rw [List.append_assoc, List.cons_append]

variable {events : List Event} {e : Event} {name : String} {segment : Segment} {place : Nat}

theorem not_present_nil : ¬ Present [] name := by
  rintro ⟨segment, -, before, after, h, -⟩
  exact absurd h.symm (List.append_ne_nil_of_right_ne_nil _ (List.cons_ne_nil _ _))

theorem lastLoaded_append :
    LastLoaded (events ++ [e]) name segment ↔
      (e = .loaded segment ∧ segment.name = name) ∨
        (LastLoaded events name segment ∧ ¬ e.Loads name ∧ ¬ e.Drops name) := by
  constructor
  · rintro ⟨hname, before, after, h, hafter⟩
    rcases append_singleton_eq_append_cons_iff.1 h with ⟨-, rfl, -⟩ | ⟨rest, rfl, rfl⟩
    · exact .inl ⟨rfl, hname⟩
    · refine .inr ⟨⟨hname, before, rest, rfl, fun e' he' => ?_⟩, ?_⟩
      · exact hafter e' (List.mem_append_left _ he')
      · exact hafter e (List.mem_append_right _ (List.mem_singleton_self e))
  · rintro (⟨rfl, hname⟩ | ⟨⟨hname, before, after, rfl, hafter⟩, he⟩)
    · exact ⟨hname, events, [], rfl, fun e' he' => (by cases he')⟩
    · refine ⟨hname, before, after ++ [e], by rw [List.append_assoc, List.cons_append], ?_⟩
      intro e' he'
      rcases List.mem_append.1 he' with he' | he'
      · exact hafter e' he'
      · rw [List.mem_singleton.1 he']
        exact he

/-- A name was last loaded with one segment only. -/
theorem LastLoaded.unique {segment' : Segment} (h : LastLoaded events name segment)
    (h' : LastLoaded events name segment') : segment = segment' := by
  induction events using List.reverseRecOn with
  | nil => exact absurd ⟨segment, h⟩ not_present_nil
  | append_singleton events e ih =>
    rcases lastLoaded_append.1 h with ⟨rfl, hname⟩ | ⟨h, hloads, -⟩
    · rcases lastLoaded_append.1 h' with ⟨he, -⟩ | ⟨-, hloads, -⟩
      · exact Event.loaded.inj he
      · exact absurd hname hloads
    · rcases lastLoaded_append.1 h' with ⟨rfl, hname⟩ | ⟨h', -, -⟩
      · exact absurd hname hloads
      · exact ih h h'

theorem present_append :
    Present (events ++ [e]) name ↔ e.Loads name ∨ (Present events name ∧ ¬ e.Drops name) := by
  by_cases hloads : e.Loads name
  · obtain ⟨segment, rfl, hname⟩ := Event.loads_iff.1 hloads
    exact iff_of_true ⟨segment, lastLoaded_append.2 (.inl ⟨rfl, hname⟩)⟩ (.inl hloads)
  · rw [or_iff_right hloads]
    constructor
    · rintro ⟨segment, h⟩
      rcases lastLoaded_append.1 h with ⟨rfl, hname⟩ | ⟨hlast, -, hdrops⟩
      · exact absurd hname hloads
      · exact ⟨⟨segment, hlast⟩, hdrops⟩
    · rintro ⟨⟨segment, hlast⟩, hdrops⟩
      exact ⟨segment, lastLoaded_append.2 (.inr ⟨hlast, hloads, hdrops⟩)⟩

theorem lastLoaded_append_loaded {segment' : Segment} :
    LastLoaded (events ++ [.loaded segment]) name segment' ↔
      if name = segment.name then segment' = segment else LastLoaded events name segment' := by
  rw [lastLoaded_append]
  split_ifs with hname
  · constructor
    · rintro (⟨he, -⟩ | ⟨-, hloads, -⟩)
      · exact (Event.loaded.inj he).symm
      · exact absurd hname.symm hloads
    · rintro rfl
      exact .inl ⟨rfl, hname.symm⟩
  · constructor
    · rintro (⟨he, hname'⟩ | ⟨hlast, -⟩)
      · obtain rfl := Event.loaded.inj he
        exact absurd hname'.symm hname
      · exact hlast
    · exact fun hlast => .inr ⟨hlast, fun hloads => hname hloads.symm, id⟩

theorem lastLoaded_append_removed {removed : String} :
    LastLoaded (events ++ [.removed removed]) name segment ↔
      name ≠ removed ∧ LastLoaded events name segment := by
  rw [lastLoaded_append]
  constructor
  · rintro (⟨he, -⟩ | ⟨hlast, -, hdrops⟩)
    · cases he
    · exact ⟨fun hname => hdrops hname.symm, hlast⟩
  · rintro ⟨hname, hlast⟩
    exact .inr ⟨hlast, id, fun hdrops => hname hdrops.symm⟩

theorem not_lastLoaded_append_cleared : ¬ LastLoaded (events ++ [.cleared]) name segment := by
  rw [lastLoaded_append]
  rintro (⟨he, -⟩ | ⟨-, -, hdrops⟩)
  · cases he
  · exact hdrops trivial

theorem arrivedAt_append :
    ArrivedAt (events ++ [e]) name place ↔
      (place = events.length ∧ e.Loads name ∧ ¬ Present events name) ∨
        (ArrivedAt events name place ∧ ¬ e.Drops name) := by
  constructor
  · rintro ⟨before, e', after, h, rfl, hloads, habsent, hafter⟩
    rcases append_singleton_eq_append_cons_iff.1 h with ⟨rfl, rfl, -⟩ | ⟨rest, rfl, rfl⟩
    · exact .inl ⟨rfl, hloads, habsent⟩
    · refine .inr ⟨⟨before, e', rest, rfl, rfl, hloads, habsent, fun e' he' => ?_⟩, ?_⟩
      · exact hafter e' (List.mem_append_left _ he')
      · exact hafter e (List.mem_append_right _ (List.mem_singleton_self e))
  · rintro (⟨rfl, hloads, habsent⟩ | ⟨⟨before, e', after, rfl, rfl, hloads, habsent, hafter⟩, he⟩)
    · exact ⟨events, e, [], rfl, rfl, hloads, habsent, fun e' he' => (by cases he')⟩
    · refine ⟨before, e', after ++ [e], by rw [List.append_assoc, List.cons_append], rfl, hloads,
        habsent, fun e'' he'' => ?_⟩
      rcases List.mem_append.1 he'' with he'' | he''
      · exact hafter e'' he''
      · rw [List.mem_singleton.1 he'']
        exact he

theorem ArrivedAt.lt_length (h : ArrivedAt events name place) : place < events.length := by
  obtain ⟨before, e, after, rfl, rfl, -⟩ := h
  simp

/-- A name is present exactly if it has arrived. -/
theorem present_iff_exists_arrivedAt :
    Present events name ↔ ∃ place, ArrivedAt events name place := by
  induction events using List.reverseRecOn with
  | nil =>
    refine iff_of_false not_present_nil ?_
    rintro ⟨place, h⟩
    exact absurd h.lt_length (Nat.not_lt_zero place)
  | append_singleton events e ih =>
    simp only [present_append, arrivedAt_append, exists_or, exists_and_right, ← ih]
    by_cases h : Present events name
    · simp only [h, true_and, not_true_eq_false, and_false, false_or]
      exact ⟨fun he => he.elim Event.Loads.not_drops id, Or.inr⟩
    · simp [h]

/-- A name arrives at one place only, so `ArrivedBefore` orders names by their places. -/
theorem ArrivedAt.unique {place' : Nat} (h : ArrivedAt events name place)
    (h' : ArrivedAt events name place') : place = place' := by
  induction events using List.reverseRecOn with
  | nil => exact absurd h.lt_length (Nat.not_lt_zero place)
  | append_singleton events e ih =>
    rcases arrivedAt_append.1 h with ⟨rfl, -, habsent⟩ | ⟨h, -⟩
    · rcases arrivedAt_append.1 h' with ⟨rfl, -, -⟩ | ⟨h', -⟩
      · rfl
      · exact absurd (present_iff_exists_arrivedAt.2 ⟨_, h'⟩) habsent
    · rcases arrivedAt_append.1 h' with ⟨rfl, -, habsent⟩ | ⟨h', -⟩
      · exact absurd (present_iff_exists_arrivedAt.2 ⟨_, h⟩) habsent
      · exact ih h h'

end Audience.Store
