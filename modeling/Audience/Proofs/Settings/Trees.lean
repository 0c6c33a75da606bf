import Audience.Proofs.Fields
import Audience.Settings.Tree

/-!
# What stands in a tree of settings

A tree is looked at along a path of names (`Tree.at?`). Putting a value at a key changes what stands
at the path of that key (`Tree.at?_set_names`), and nothing at a path that neither leads through the
key nor is led through by it (`Tree.at?_set_of_apart`). To put a table at a name is to put its fields
at their names one after the other (`Tree.set_table`).
-/

namespace Audience.Settings

/-- The names that a key begins with. -/
def KeyStep.names : List KeyStep → List String
  | .name n :: steps => n :: names steps
  | _ => []

/-- The path of a key, as far as it goes by names. -/
def Key.path (key : Key) : List String :=
  key.top :: KeyStep.names key.steps

/-- Neither of two paths begins with the other. -/
def Apart (path path' : List String) : Prop :=
  ¬ path <+: path' ∧ ¬ path' <+: path

instance (path path' : List String) : Decidable (Apart path path') :=
  inferInstanceAs (Decidable (_ ∧ _))

namespace Tree

variable {name name' : String} {names path : List String} {steps : List KeyStep} {key : Key}
  {change change' : Tree → Tree} {t u value : Tree}

/-- What stands at a path of names. -/
def at? : List String → Tree → Option Tree
  | [], t => some t
  | name :: path, t => (Fields.get? name t.fields).bind (at? path)

/-- A tree is a table. -/
def IsTable (t : Tree) : Prop :=
  ∃ origin fields, t = table origin fields

theorem isTable_atName (name : String) (change : Tree → Tree) (t : Tree) :
    (atName name change t).IsTable :=
  ⟨_, _, rfl⟩

theorem fields_atName : (atName name change t).fields =
    Fields.put name (change ((Fields.get? name t.fields).getD (absent none))) t.fields := rfl

theorem at?_cons (name : String) (path : List String) (t : Tree) :
    at? (name :: path) t = (Fields.get? name t.fields).bind (at? path) := rfl

theorem at?_cons_eq_bind : at? (name :: path) t = (at? [name] t).bind (at? path) := by
  rw [at?_cons, at?_cons]
  cases Fields.get? name t.fields <;> rfl

theorem at?_atName_self : at? (name :: path) (atName name change t) =
    at? path (change ((Fields.get? name t.fields).getD (absent none))) := by
  rw [at?_cons, fields_atName, Fields.get?_put, if_pos rfl, Option.bind_some]

theorem at?_atName_of_ne (h : name' ≠ name) :
    at? (name' :: path) (atName name change t) = at? (name' :: path) t := by
  rw [at?_cons, fields_atName, Fields.get?_put, if_neg h, at?_cons]

/-- Below a name that is not there, nothing is. -/
theorem at?_getD_absent (h : path ≠ []) :
    at? path ((Fields.get? name t.fields).getD (absent none)) = at? (name :: path) t := by
  rw [at?_cons]
  rcases Fields.get? name t.fields with _ | u
  · rcases path with _ | ⟨name', path⟩
    · exact absurd rfl h
    · rfl
  · rfl

/-- A change along steps changes nothing apart from them. -/
theorem at?_atSteps_of_apart (h : Apart path (KeyStep.names steps)) :
    at? path (atSteps change steps t) = at? path t := by
  induction steps generalizing path t with
  | nil => exact absurd List.nil_prefix h.2
  | cons step steps ih =>
    cases step with
    | place index => exact absurd List.nil_prefix h.2
    | name name =>
      rcases path with _ | ⟨name', path⟩
      · exact absurd List.nil_prefix h.1
      by_cases hname : name' = name
      · subst hname
        have hrest : Apart path (KeyStep.names steps) := by
          refine ⟨fun hpre => h.1 ?_, fun hpre => h.2 ?_⟩
          · exact (List.prefix_cons_inj name').2 hpre
          · exact (List.prefix_cons_inj name').2 hpre
        have hne : path ≠ [] := fun hnil => hrest.1 (hnil ▸ List.nil_prefix)
        rw [atSteps, at?_atName_self, ih hrest, at?_getD_absent hne]
      · exact at?_atName_of_ne hname

/-- A change along names changes what stands there. -/
theorem at?_atSteps_names (names : List String) : at? names (atSteps change (names.map .name) t) =
    some (change ((at? names t).getD (absent none))) := by
  induction names generalizing t with
  | nil => rfl
  | cons name names ih =>
    rw [List.map_cons, atSteps, at?_atName_self, ih]
    rcases names with _ | ⟨name', names⟩
    · rw [at?, at?]
      cases Fields.get? name t.fields <;> rfl
    · rw [at?_getD_absent (List.cons_ne_nil _ _)]

theorem at?_set_of_apart (h : Apart path key.path) : at? path (set key value t) = at? path t := by
  refine at?_atSteps_of_apart ?_
  exact h

theorem at?_set_names {top : String} : at? (top :: names) (set ⟨top, names.map .name⟩ value t) =
    some (merge value ((at? (top :: names) t).getD (absent none))) :=
  at?_atSteps_names (top :: names)

/-- What a key leads to through names is a table above. -/
theorem isTable_at?_set (hsteps : ∃ name steps, key.steps = .name name :: steps) :
    ∃ u, at? [key.top] (set key value t) = some u ∧ u.IsTable := by
  obtain ⟨name, steps, hsteps⟩ := hsteps
  have hset : set key value t =
      atName key.top (atName name (atSteps (merge value) steps)) t := by
    rw [set, atSteps, hsteps]
    rfl
  rw [hset, at?_atName_self]
  exact ⟨_, rfl, isTable_atName _ _ _⟩

/-! ## Tables -/

theorem atName_atName :
    atName name change' (atName name change t) = atName name (change' ∘ change) t := by
  unfold atName
  simp [fields, Fields.get?_put, Fields.put_put]

/-- A value that is not a table yet as one. -/
def asTable : Tree → Tree
  | absent _ => table none []
  | t => t

theorem merge_table (origin : Option String) (fields : List (String × Tree)) (lower : Tree) :
    merge (table origin fields) lower = mergeFields fields lower.asTable := by
  cases lower <;> rfl

/-- Putting a table at a name is putting its fields there, one after the other. -/
theorem set_table (top : String) (origin : Option String) (fields : List (String × Tree)) :
    set ⟨top, []⟩ (table origin fields) t =
      fields.foldl (fun t m => set ⟨top, [.name m.1]⟩ m.2 t) (atName top asTable t) := by
  have hfields : ∀ change : Tree → Tree,
      atName top (fun u => mergeFields fields (change u)) t =
        fields.foldl (fun t m => set ⟨top, [.name m.1]⟩ m.2 t) (atName top change t) := by
    induction fields with
    | nil => exact fun change => rfl
    | cons m fields ih =>
      intro change
      have hset : set ⟨top, [.name m.1]⟩ m.2 (atName top change t) =
          atName top (atName m.1 (merge m.2) ∘ change) t := atName_atName
      rw [List.foldl_cons, hset, ← ih]
      rfl
  have hmerge : merge (table origin fields) = fun u => mergeFields fields u.asTable :=
    funext (merge_table origin fields)
  rw [← hfields, ← hmerge]
  rfl

end Tree

end Audience.Settings
