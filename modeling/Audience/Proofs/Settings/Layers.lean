import Audience.Proofs.Fallible
import Audience.Proofs.Settings.Leaves
import Audience.Settings.Layers

/-!
# Layers over a tree of settings

A layer gives a leaf by a value at its key or in a table for its section (`Leaf.Given`). In an
orderly layer every value is one for a leaf, of the leaf's type, or is apart from all leaves. Putting
such a layer over a tree changes the leaves that it gives and no others (`Tree.overlaid_addLayer`):
of values for one leaf the last counts (`Leaf.given?`), and of layers put one over the other the last
that gives a leaf (`Tree.at?_ofLayers`), whatever becomes of the other leaves of its section.

So the layers decide every leaf (`Leaf.Decided`). Since the entries of a layer may be taken in any
order, of values that one layer gives a leaf it may be any that counts (`exists_load`).
-/

namespace Audience.Settings

/-! ## Layers -/

/-- The name of the variable for the setting. -/
def Leaf.variableName : Leaf → String
  | .serviceName => "SEGMENT_SERVICE_NAME"
  | .environment => "SEGMENT_ENVIRONMENT"
  | .logLevel => "SEGMENT_OBSERVABILITY__LOG_LEVEL"
  | .logFormat => "SEGMENT_OBSERVABILITY__LOG_FORMAT"
  | .traced => "SEGMENT_ENGINE__TRACE_ENABLED"

theorem variableKey?_variableName (l : Leaf) : variableKey? l.variableName = some l.key := by
  cases l <;> decide +kernel

/-- The last of some values and keys that is for a leaf. -/
def Leaf.last? (l : Leaf) (as : List (Key × Tree)) : Option Tree :=
  (as.reverse.find? fun a => a.1 = l.key).map (·.2)

namespace Tree

/-- The values and keys of one in a layer, a table for a section being taken as its fields. -/
def assignments : Key × Tree → List (Key × Tree)
  | (⟨top, []⟩, table origin fields) =>
    if top ∈ sections then fields.map fun m => (⟨top, [.name m.1]⟩, m.2)
    else [(⟨top, []⟩, table origin fields)]
  | entry => [entry]

/-- A value and its key give a leaf, or have nothing to do with any. -/
def InOrder (a : Key × Tree) : Prop :=
  (∃ l : Leaf, a.1 = l.key ∧ ∃ v, l.read a.2 = .ok v) ∨ ∀ l : Leaf, Apart l.key.path a.1.path

/-- A layer is orderly: leaves are given by values of their types, and sections by tables. -/
def Layer.Orderly (layer : Layer) : Prop :=
  ∀ a ∈ layer.flatMap assignments, InOrder a

instance : DecidablePred InOrder := fun a =>
  decidable_of_iff ((∃ l ∈ Leaf.all, a.1 = l.key ∧ (l.read a.2).toOption.isSome = true) ∨
    ∀ l ∈ Leaf.all, Apart l.key.path a.1.path) (by
      simp [InOrder, Leaf.mem_all, Option.isSome_iff_exists, toOption_eq_some_iff])

instance (layer : Layer) : Decidable layer.Orderly :=
  inferInstanceAs (Decidable (∀ a ∈ layer.flatMap assignments, InOrder a))

end Tree

/-- A layer gives a leaf this value. -/
def Leaf.Given (l : Leaf) (layer : Tree.Layer) (t : Tree) : Prop :=
  (l.key, t) ∈ layer.flatMap Tree.assignments

/-- The value that counts among those that a layer gives a leaf. -/
def Leaf.given? (l : Leaf) (layer : Tree.Layer) : Option Tree :=
  l.last? (layer.flatMap Tree.assignments)

section Last

variable {l l' : Leaf} {a : Key × Tree} {as as' : List (Key × Tree)} {u : Tree}

theorem Leaf.last?_append : l.last? (as ++ as') = (l.last? as').or (l.last? as) := by
  rw [last?, List.reverse_append, List.find?_append, Option.map_or]
  rfl

theorem Leaf.last?_cons : l.last? (a :: as) = (l.last? as).or (l.last? [a]) := by
  rw [← List.singleton_append, last?_append]

theorem Leaf.last?_singleton : l.last? [a] = if a.1 = l.key then some a.2 else none := by
  by_cases h : a.1 = l.key <;> simp [last?, h]

theorem Leaf.key_inj (h : l.key = l'.key) : l = l' := by
  revert h
  cases l <;> cases l' <;> decide

/-- What is for a leaf is of its type. -/
theorem Tree.InOrder.exists_read (h : InOrder a) (hl : a.1 = l.key) : ∃ v, l.read a.2 = .ok v := by
  rcases h with ⟨l', hl', hread⟩ | hapart
  · obtain rfl := Leaf.key_inj (hl.symm.trans hl')
    exact hread
  · exact absurd (hl ▸ List.prefix_refl _) (hapart l).1

end Last

/-! ## What a layer gives -/

section Given

variable {l : Leaf} {layer layer' : Tree.Layer} {t : Tree}

theorem Leaf.given_of_given? (h : l.given? layer = some t) : l.Given layer t := by
  obtain ⟨a, hfind, rfl⟩ := Option.map_eq_some_iff.1 h
  have hmem : a ∈ layer.flatMap Tree.assignments :=
    List.mem_reverse.1 (List.mem_of_find?_eq_some hfind)
  have hkey : a.1 = l.key := by simpa using List.find?_some hfind
  rw [Given, ← hkey]
  exact hmem

theorem Leaf.not_given_of_given? (h : l.given? layer = none) : ¬ l.Given layer t := by
  intro hgiven
  have hnone := List.find?_eq_none.1 (Option.map_eq_none_iff.1 h)
  exact hnone _ (List.mem_reverse.2 hgiven) (decide_eq_true rfl)

/-- What is given for a leaf in an orderly layer is of its type. -/
theorem Leaf.Given.exists_read (h : l.Given layer t) (horderly : layer.Orderly) :
    ∃ v, l.read t = .ok v :=
  (horderly _ h).exists_read rfl

theorem Leaf.Given.of_perm (h : l.Given layer t) (hperm : layer.Perm layer') : l.Given layer' t :=
  (hperm.flatMap_right _).mem_iff.1 h

theorem Tree.Layer.Orderly.of_perm (h : layer.Orderly) (hperm : layer.Perm layer') :
    layer'.Orderly :=
  fun a ha => h a ((hperm.flatMap_right _).mem_iff.2 ha)

end Given

/-! ## Putting layers over a tree -/

namespace Tree

/-- A tree came of another, its sections are tables, and of its leaves those have changed for which
something was given. -/
structure Overlaid (given : Leaf → Option Tree) (t t' : Tree) : Prop where
  sectioned : t'.Sectioned
  leaves (l : Leaf) : at? l.key.path t' = (given l).or (at? l.key.path t)

variable {t t' t'' : Tree} {given given' : Leaf → Option Tree} {l : Leaf} {a : Key × Tree}
  {as : List (Key × Tree)} {key : Key} {value : Tree} {layer : Layer} {layers : List Layer}

theorem Overlaid.refl (ht : t.Sectioned) : Overlaid (fun _ => none) t t :=
  ⟨ht, fun _ => rfl⟩

theorem Overlaid.trans (h : Overlaid given t t') (h' : Overlaid given' t' t'') :
    Overlaid (fun l => (given' l).or (given l)) t t'' :=
  ⟨h'.sectioned, fun l => by rw [h'.leaves, h.leaves, Option.or_assoc]⟩

theorem apart_of_ne {top top' : String} (names : List String) (h : top ≠ top') :
    Apart [top] (top' :: names) := by
  refine ⟨fun hpre => h ?_, fun hpre => h ?_⟩
  · exact (List.cons_prefix_cons.1 hpre).1
  · exact (List.cons_prefix_cons.1 hpre).1.symm

theorem Sectioned.set (ht : t.Sectioned)
    (hkey : key.top ∈ sections → ∃ name steps, key.steps = .name name :: steps) :
    (set key value t).Sectioned := by
  intro top htop u hu
  by_cases heq : top = key.top
  · subst heq
    obtain ⟨u', hu', htable⟩ : ∃ u', at? [key.top] (Tree.set key value t) = some u' ∧ u'.IsTable :=
      isTable_at?_set (hkey htop)
    obtain rfl := Option.some.inj (hu'.symm.trans hu)
    exact htable
  · rw [at?_set_of_apart (apart_of_ne _ heq)] at hu
    exact ht top htop u hu

/-- A key in order leads into a section by a name. -/
theorem InOrder.exists_steps (h : InOrder a) (hsection : a.1.top ∈ sections) :
    ∃ name steps, a.1.steps = .name name :: steps := by
  rcases h with ⟨l, hl, -⟩ | hapart
  · rw [hl] at hsection ⊢
    cases l with
    | serviceName => exact absurd hsection (by decide)
    | environment => exact absurd hsection (by decide)
    | _ => exact ⟨_, _, rfl⟩
  · have hleaf : ∃ l : Leaf, [a.1.top] <+: l.key.path := by
      simp only [sections, List.mem_cons, List.not_mem_nil, or_false] at hsection
      rcases hsection with htop | htop
      · exact ⟨.logLevel, by rw [htop]; decide⟩
      · exact ⟨.traced, by rw [htop]; decide⟩
    obtain ⟨l, hl⟩ := hleaf
    have hnot := (hapart l).2
    unfold Key.path at hnot
    rcases hsteps : a.1.steps with _ | ⟨_ | _, steps⟩
    · rw [hsteps] at hnot
      exact absurd hl hnot
    · exact ⟨_, _, rfl⟩
    · rw [hsteps] at hnot
      exact absurd hl hnot

/-- What is in order changes the leaf that it is for, if any. -/
theorem at?_set_of_inOrder (h : InOrder a) :
    at? l.key.path (set a.1 a.2 t) = (l.last? [a]).or (at? l.key.path t) := by
  rw [Leaf.last?_singleton]
  rcases h with ⟨l', hl', v, hread⟩ | hapart
  · obtain ⟨origin, value, hvalue⟩ := Leaf.exists_scalar_of_read hread
    by_cases heq : l' = l
    · subst heq
      obtain ⟨top, names, hkey, hpath⟩ := l'.exists_names
      rw [if_pos hl', hvalue, hpath, hl', hkey, at?_set_names]
      rfl
    · rw [if_neg fun hl => heq (Leaf.key_inj (hl'.symm.trans hl)), Option.none_or]
      exact at?_set_of_apart (hl' ▸ Leaf.apart_of_ne (Ne.symm heq))
  · have hne : a.1 ≠ l.key := fun hl => (hapart l).1 (hl ▸ List.prefix_refl _)
    rw [if_neg hne, Option.none_or]
    exact at?_set_of_apart (hapart l)

theorem overlaid_set_of_inOrder (h : InOrder a) (ht : t.Sectioned) :
    Overlaid (·.last? [a]) t (set a.1 a.2 t) :=
  ⟨ht.set h.exists_steps, fun _ => at?_set_of_inOrder h⟩

/-- Values in order that are put one after the other change the leaves that they are for. -/
theorem overlaid_foldl_set (h : ∀ a ∈ as, InOrder a) (ht : t.Sectioned) :
    Overlaid (·.last? as) t (as.foldl (fun t a => set a.1 a.2 t) t) := by
  induction as generalizing t with
  | nil => exact .refl ht
  | cons a as ih =>
    obtain ⟨ha, has⟩ := List.forall_mem_cons.1 h
    have hset := overlaid_set_of_inOrder ha ht
    have hlast : (fun l : Leaf => l.last? (a :: as)) = fun l => (l.last? as).or (l.last? [a]) :=
      funext fun _ => Leaf.last?_cons
    rw [hlast]
    exact hset.trans (ih has hset.sectioned)

/-- A section that becomes a table has nothing more in it than before. -/
theorem overlaid_atName_asTable {top : String} (ht : t.Sectioned) (htop : top ∈ sections) :
    Overlaid (fun _ => none) t (atName top asTable t) := by
  constructor
  · intro top' htop' u hu
    by_cases heq : top' = top
    · subst heq
      rw [at?_atName_self] at hu
      obtain rfl := Option.some.inj hu
      rcases hfield : Fields.get? top' t.fields with _ | u
      · exact ⟨_, _, rfl⟩
      · obtain ⟨origin, fields, rfl⟩ := ht top' htop' u (by rw [at?_cons, hfield]; rfl)
        exact ⟨_, _, rfl⟩
    · rw [at?_atName_of_ne heq] at hu
      exact ht top' htop' u hu
  · intro l
    obtain ⟨top', names, -, hpath⟩ := l.exists_names
    rw [hpath, Option.none_or]
    by_cases heq : top' = top
    · subst heq
      rw [at?_atName_self, at?_cons]
      rcases hfield : Fields.get? top' t.fields with _ | u
      · -- the leaf is in the section, so it is not there as long as the section is not
        have hnames : names ≠ [] := by
          rintro rfl
          revert htop
          cases l <;> cases hpath <;> decide
        obtain ⟨name, names, rfl⟩ := List.exists_cons_of_ne_nil hnames
        rfl
      · obtain ⟨origin, fields, rfl⟩ := ht top' htop u (by rw [at?_cons, hfield]; rfl)
        rfl
    · exact at?_atName_of_ne heq

theorem assignments_cases (a : Key × Tree) : assignments a = [a] ∨
    ∃ top origin fields, top ∈ sections ∧ a = (⟨top, []⟩, table origin fields) ∧
      assignments a = fields.map fun m => (⟨top, [.name m.1]⟩, m.2) := by
  unfold assignments
  split
  · split
    · rename_i top origin fields htop
      exact .inr ⟨top, origin, fields, htop, rfl, rfl⟩
    · exact .inl rfl
  · exact .inl rfl

/-- One value of a layer does what its assignments do. -/
theorem overlaid_set (h : ∀ a' ∈ assignments a, InOrder a') (ht : t.Sectioned) :
    Overlaid (·.last? (assignments a)) t (set a.1 a.2 t) := by
  rcases assignments_cases a with heq | ⟨top, origin, fields, htop, rfl, heq⟩
  · have ha : InOrder a := h a (by rw [heq]; exact List.mem_cons_self)
    rw [heq]
    exact overlaid_set_of_inOrder ha ht
  · have htable := overlaid_atName_asTable ht htop
    have hfields := htable.trans (overlaid_foldl_set h htable.sectioned)
    simp only [Option.or_none] at hfields
    rw [heq, List.foldl_map] at hfields
    rw [heq, set_table]
    exact hfields

/-- An orderly layer changes the leaves that it gives. -/
theorem overlaid_addLayer (h : layer.Orderly) (ht : t.Sectioned) :
    Overlaid (·.given? layer) t (t.addLayer layer) := by
  induction layer generalizing t with
  | nil => exact .refl ht
  | cons a layer ih =>
    unfold Layer.Orderly at h
    rw [List.flatMap_cons, List.forall_mem_append] at h
    have hset := overlaid_set h.1 ht
    have hgiven : (fun l : Leaf => l.given? (a :: layer)) =
        fun l => (l.given? layer).or (l.last? (assignments a)) := by
      funext l
      rw [Leaf.given?, List.flatMap_cons, Leaf.last?_append]
      rfl
    rw [hgiven]
    exact hset.trans (ih h.2 hset.sectioned)

/-- Of orderly layers the last that gives a leaf decides. -/
theorem overlaid_foldl_addLayer (h : ∀ layer ∈ layers, layer.Orderly) (ht : t.Sectioned) :
    Overlaid (fun l => layers.reverse.findSome? l.given?) t (layers.foldl addLayer t) := by
  induction layers generalizing t with
  | nil => exact .refl ht
  | cons layer layers ih =>
    obtain ⟨hlayer, hlayers⟩ := List.forall_mem_cons.1 h
    have hadd := overlaid_addLayer hlayer ht
    have hlast : (fun l : Leaf => (layer :: layers).reverse.findSome? l.given?) =
        fun l => (layers.reverse.findSome? l.given?).or (l.given? layer) := by
      funext l
      rw [List.reverse_cons, List.findSome?_append, List.findSome?_singleton]
    rw [hlast]
    exact hadd.trans (ih hlayers hadd.sectioned)

theorem isTable_addLayer (ht : t.IsTable) (layer : Layer) : (t.addLayer layer).IsTable := by
  induction layer generalizing t with
  | nil => exact ht
  | cons a layer ih => exact ih (isTable_atName _ _ _)

theorem isTable_ofLayers (layers : List Layer) : (ofLayers layers).IsTable := by
  have hstart : ∀ t : Tree, t.IsTable → (layers.foldl addLayer t).IsTable := by
    induction layers with
    | nil => exact fun t ht => ht
    | cons layer layers ih => exact fun t ht => ih _ (isTable_addLayer ht layer)
  exact hstart _ ⟨none, [], rfl⟩

/-- In the tree of orderly layers, what stands at the key of a leaf is what the last of them gives
that gives the leaf. -/
theorem at?_ofLayers (h : ∀ layer ∈ layers, layer.Orderly) :
    (ofLayers layers).Sectioned ∧
      ∀ l : Leaf, at? l.key.path (ofLayers layers) = layers.reverse.findSome? l.given? := by
  have hempty : (table none []).Sectioned := fun top _ u hu => by cases hu
  have hoverlaid := overlaid_foldl_addLayer h hempty
  refine ⟨hoverlaid.sectioned, fun l => ?_⟩
  obtain ⟨top, names, -, hpath⟩ := l.exists_names
  have hnone : at? l.key.path (table none []) = none := by
    rw [hpath]
    rfl
  rw [ofLayers, hoverlaid.leaves, hnone, Option.or_none]

end Tree

theorem orderly_ofNames (service environment : String) :
    (Layer.ofNames service environment).Orderly := by
  refine List.forall_mem_cons.2 ⟨.inl ⟨.serviceName, rfl, service, rfl⟩, ?_⟩
  exact List.forall_mem_cons.2 ⟨.inl ⟨.environment, rfl, environment, rfl⟩, List.forall_mem_nil _⟩

/-! ## What layers decide -/

/-- The value that layers decide for a leaf, of which the first is the highest: one that the first
layer to give the leaf gives it, or the built-in one if there is no such layer. -/
inductive Leaf.Decided (service environment : String) (l : Leaf) :
    List Tree.Layer → l.Value → Prop
  | builtIn : Decided service environment l [] (l.builtIn service environment)
  | given {layer : Tree.Layer} {layers : List Tree.Layer} {t : Tree} {v : l.Value}
      (h : l.Given layer t) (hv : l.read t = .ok v) :
      Decided service environment l (layer :: layers) v
  | passed {layer : Tree.Layer} {layers : List Tree.Layer} {v : l.Value}
      (hnone : ∀ t, ¬ l.Given layer t) (h : Decided service environment l layers v) :
      Decided service environment l (layer :: layers) v

section Decided

variable {l : Leaf} {service environment : String} {names : Tree.Layer}
  {layers layers' : List Tree.Layer} {t : Tree}

theorem Leaf.read_of_given_ofNames (h : l.Given (Layer.ofNames service environment) t) :
    l.read t = .ok (l.builtIn service environment) := by
  rcases List.mem_pair.1 h with heq | heq
  · obtain ⟨hkey, rfl⟩ := Prod.mk.inj heq
    obtain rfl : l = .serviceName := Leaf.key_inj hkey
    rfl
  · obtain ⟨hkey, rfl⟩ := Prod.mk.inj heq
    obtain rfl : l = .environment := Leaf.key_inj hkey
    rfl

theorem Leaf.builtIn_of_not_given_ofNames
    (h : ∀ t, ¬ l.Given (Layer.ofNames service environment) t) : l.builtIn service environment =
      l.builtIn Settings.default.serviceName Settings.default.environment := by
  cases l with
  | serviceName => exact absurd List.mem_cons_self (h (.scalar none (.text service)))
  | environment =>
    exact absurd (List.mem_cons_of_mem _ List.mem_cons_self) (h (.scalar none (.text environment)))
  | _ => rfl

/-- A leaf for which the tree has what the first of some layers gives, or else the names that
settings are loaded for, has the value that these layers decide, in whichever order the entries of
each of them stand. -/
theorem Leaf.exists_decided (hlayers : List.Forall₂ List.Perm layers' layers)
    (hnames : names.Perm (Layer.ofNames service environment))
    (horderly : ∀ layer ∈ layers, layer.Orderly)
    (hstands : t.at? l.key.path = (layers' ++ [names]).findSome? l.given?) :
    ∃ v, l.Has t v ∧ l.Decided service environment layers v := by
  induction hlayers with
  | nil =>
    refine ⟨l.builtIn service environment, ?_, .builtIn⟩
    rw [List.nil_append, List.findSome?_singleton] at hstands
    rcases hgiven : l.given? names with _ | u
    · refine .inl ⟨hstands.trans hgiven, builtIn_of_not_given_ofNames fun u hu => ?_⟩
      exact not_given_of_given? hgiven (hu.of_perm hnames.symm)
    · have hu : l.Given (Layer.ofNames service environment) u :=
        (given_of_given? hgiven).of_perm hnames
      exact .inr ⟨u, hstands.trans hgiven, read_of_given_ofNames hu⟩
  | @cons layer' layer layers' layers hperm _ ih =>
    obtain ⟨hlayer, hlayers⟩ := List.forall_mem_cons.1 horderly
    rw [List.cons_append, List.findSome?_cons] at hstands
    rcases hgiven : l.given? layer' with _ | u
    · rw [hgiven] at hstands
      obtain ⟨v, hhas, hdecided⟩ := ih hlayers hstands
      have hnone : ∀ u, ¬ l.Given layer u :=
        fun u hu => not_given_of_given? hgiven (hu.of_perm hperm.symm)
      exact ⟨v, hhas, .passed hnone hdecided⟩
    · rw [hgiven] at hstands
      have hu : l.Given layer u := (given_of_given? hgiven).of_perm hperm
      obtain ⟨v, hv⟩ := hu.exists_read hlayer
      exact ⟨v, .inr ⟨u, hstands, hv⟩, .given hu hv⟩

end Decided

/-! ## Loading layers -/

section Load

variable {layers layers' files : List Tree.Layer} {manner : Manner} {service environment : String}
  {vars : List (String × String)}

theorem forall₂_perm_mapIdx {order : Nat → Tree.Layer → Tree.Layer}
    (h : ∀ place layer, (order place layer).Perm layer) :
    List.Forall₂ List.Perm (layers.mapIdx order) layers := by
  induction layers generalizing order with
  | nil => exact .nil
  | cons layer layers ih =>
    rw [List.mapIdx_cons]
    exact .cons (h 0 layer) (ih fun place => h (place + 1))

theorem orderly_of_forall₂_perm (hperm : List.Forall₂ List.Perm layers' layers)
    (h : ∀ layer ∈ layers, layer.Orderly) : ∀ layer ∈ layers', layer.Orderly := by
  induction hperm with
  | nil => exact List.forall_mem_nil _
  | cons hlayer _ ih =>
    rw [List.forall_mem_cons] at h ⊢
    exact ⟨h.1.of_perm hlayer.symm, ih h.2⟩

/-- Orderly layers are loaded, in whichever order the entries of each are taken: the settings are
those that the variables and the files decide, later files before earlier ones. -/
theorem exists_load (horderly : ∀ layer ∈ Layer.ofVariables vars :: files.reverse, layer.Orderly) :
    ∃ settings, load manner service environment files vars = .ok settings ∧
      ∀ l : Leaf, l.Decided service environment (Layer.ofVariables vars :: files.reverse)
        (settings.get l) := by
  let names := manner.order 0 (Layer.ofNames service environment)
  let upper := (files ++ [Layer.ofVariables vars]).mapIdx fun place => manner.order (place + 1)
  have hload : load manner service environment files vars =
      (ofTree (.ofLayers (names :: upper))).mapError .mismatch := by
    rw [load, List.cons_append, List.mapIdx_cons]
  have hreverse : (files ++ [Layer.ofVariables vars]).reverse =
      Layer.ofVariables vars :: files.reverse := List.reverse_concat
  have hperm : List.Forall₂ List.Perm upper.reverse (Layer.ofVariables vars :: files.reverse) := by
    rw [← hreverse, List.forall₂_reverse_iff]
    exact forall₂_perm_mapIdx fun place => manner.perm (place + 1)
  have hlayers : ∀ layer ∈ names :: upper, layer.Orderly := by
    refine List.forall_mem_cons.2 ⟨?_, fun layer hlayer => ?_⟩
    · exact (orderly_ofNames service environment).of_perm (manner.perm 0 _).symm
    · exact orderly_of_forall₂_perm hperm horderly layer (List.mem_reverse.2 hlayer)
  obtain ⟨hsectioned, hleaves⟩ := Tree.at?_ofLayers hlayers
  rw [List.reverse_cons] at hleaves
  have htable := Tree.isTable_ofLayers (names :: upper)
  have hvalue : ∀ l : Leaf, ∃ v, l.Has (.ofLayers (names :: upper)) v ∧
      l.Decided service environment (Layer.ofVariables vars :: files.reverse) v :=
    fun l => Leaf.exists_decided hperm (manner.perm 0 _) horderly (hleaves l)
  choose v hhas hv using hvalue
  obtain ⟨settings, hget⟩ : ∃ settings : Settings, ∀ l, settings.get l = v l :=
    ⟨⟨v .serviceName, v .environment, ⟨v .logLevel, v .logFormat⟩, v .traced⟩,
      fun l => by cases l <;> rfl⟩
  refine ⟨settings, ?_, fun l => hget l ▸ hv l⟩
  rw [hload, ofTree_eq_ok htable hsectioned fun l => hget l ▸ hhas l]
  rfl

end Load

end Audience.Settings
