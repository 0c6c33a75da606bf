import Audience.Proofs.Settings.Trees
import Audience.Settings.Basic

/-!
# The leaves of a tree of settings

There are five settings, each a leaf at a key of its own (`Leaf.key`). Two are at the top of the tree
and three in sections. If the sections are tables, each leaf is read by itself: what stands at its key
is converted, and if nothing stands there the leaf has its built-in value (`Leaf.Has`). The settings
of the tree are the values of its leaves (`ofTree_eq_ok`).
-/

namespace Audience.Settings

/-! ## Leaves -/

/-- A setting. -/
inductive Leaf where
  | serviceName
  | environment
  | logLevel
  | logFormat
  | traced
deriving DecidableEq, Repr

namespace Leaf

/-- All settings. -/
def all : List Leaf :=
  [serviceName, environment, logLevel, logFormat, traced]

theorem mem_all (l : Leaf) : l ∈ all := by
  cases l <;> decide

/-- The setting's key. -/
def key : Leaf → Key
  | serviceName => ⟨"service_name", []⟩
  | environment => ⟨"environment", []⟩
  | logLevel => ⟨"observability", [.name "log_level"]⟩
  | logFormat => ⟨"observability", [.name "log_format"]⟩
  | traced => ⟨"engine", [.name "trace_enabled"]⟩

/-- The type of the setting. -/
def Value : Leaf → Type
  | traced => Bool
  | _ => String

/-- What the setting is converted from. -/
def read : (l : Leaf) → Tree → Except Mismatch l.Value
  | traced => truth
  | serviceName | environment | logLevel | logFormat => text

/-- The setting when nothing gives it. -/
def builtIn (service environment : String) : (l : Leaf) → l.Value
  | .serviceName => service
  | .environment => environment
  | .logLevel => "info"
  | .logFormat => "pretty"
  | .traced => false

end Leaf

/-- One of the settings. -/
def get (s : Settings) : (l : Leaf) → l.Value
  | .serviceName => s.serviceName
  | .environment => s.environment
  | .logLevel => s.observability.logLevel
  | .logFormat => s.observability.logFormat
  | .traced => s.traced

/-- The names of the sections. -/
def sections : List String :=
  ["observability", "engine"]

namespace Leaf

variable {l l' : Leaf} {t : Tree}

/-- Only single values are converted. -/
theorem exists_scalar_of_read {v : l.Value} (h : l.read t = .ok v) :
    ∃ origin value, t = .scalar origin value := by
  cases t with
  | scalar origin value => exact ⟨origin, value, rfl⟩
  | _ => cases l <;> cases h

theorem apart_of_ne (h : l ≠ l') : Apart l.key.path l'.key.path := by
  revert h
  cases l <;> cases l' <;> decide

theorem exists_names (l : Leaf) : ∃ (top : String) (names : List String),
    l.key = ⟨top, names.map .name⟩ ∧ l.key.path = top :: names := by
  cases l with
  | serviceName => exact ⟨_, [], rfl, rfl⟩
  | environment => exact ⟨_, [], rfl, rfl⟩
  | logLevel => exact ⟨_, ["log_level"], rfl, rfl⟩
  | logFormat => exact ⟨_, ["log_format"], rfl, rfl⟩
  | traced => exact ⟨_, ["trace_enabled"], rfl, rfl⟩

end Leaf

/-- Sections are tables where they are there. -/
def Tree.Sectioned (t : Tree) : Prop :=
  ∀ top ∈ sections, ∀ u, t.at? [top] = some u → u.IsTable

/-! ## Reading the settings -/

section Reading

variable {α : Type} {t u : Tree} {name : String} {place : Nat} {default v : α}
  {read : Tree → Except Mismatch α}

theorem partOr_of_isTable (hu : u.IsTable) : partOr default read name place u =
    match u.at? [name] with
    | some w => (read w).mapError (·.within (.name name))
    | none => .ok default := by
  obtain ⟨origin, fields, rfl⟩ := hu
  rw [Tree.at?_cons]
  unfold partOr part?
  dsimp only [Tree.fields]
  cases Fields.get? name fields <;> rfl

/-- A part of a table is its default, or what is read there. -/
theorem partOr_eq_ok (hu : u.IsTable)
    (h : (u.at? [name] = none ∧ v = default) ∨ ∃ w, u.at? [name] = some w ∧ read w = .ok v) :
    partOr default read name place u = .ok v := by
  rw [partOr_of_isTable hu]
  rcases h with ⟨hnone, rfl⟩ | ⟨w, hw, hread⟩
  · rw [hnone]
  · rw [hw]
    dsimp only
    rw [hread]
    rfl

/-- A section is read from the table that it is, if it is there. -/
theorem partOr_section_eq_ok (ht : t.IsTable)
    (hsection : ∀ u, t.at? [name] = some u → u.IsTable)
    (hnone : t.at? [name] = none → v = default)
    (hsome : ∀ u, t.at? [name] = some u → u.IsTable → read u = .ok v) :
    partOr default read name place t = .ok v := by
  refine partOr_eq_ok ht ?_
  rcases hu : t.at? [name] with _ | u
  · exact .inl ⟨rfl, hnone hu⟩
  · exact .inr ⟨u, rfl, hsome u hu (hsection u hu)⟩

theorem sectionOf_of_isTable {title : String} (hu : u.IsTable) : sectionOf title read u = read u := by
  obtain ⟨origin, fields, rfl⟩ := hu
  rfl

/-- A leaf of a tree has this value: that of what stands at its key, or else the built-in one. -/
def Leaf.Has (l : Leaf) (t : Tree) (v : l.Value) : Prop :=
  (t.at? l.key.path = none ∧
    v = l.builtIn Settings.default.serviceName Settings.default.environment) ∨
    ∃ w, t.at? l.key.path = some w ∧ l.read w = .ok v

/-- A leaf of a section has the built-in value if the section is not there, and else what it has in
the section. -/
theorem Leaf.Has.inSection {l : Leaf} {top : String} {v : l.Value} (h : l.Has t v)
    (hpath : l.key.path = [top, name]) :
    (t.at? [top] = none →
      v = l.builtIn Settings.default.serviceName Settings.default.environment) ∧
      ∀ u, t.at? [top] = some u → (u.at? [name] = none ∧
        v = l.builtIn Settings.default.serviceName Settings.default.environment) ∨
          ∃ w, u.at? [name] = some w ∧ l.read w = .ok v := by
  unfold Leaf.Has at h
  rw [hpath, Tree.at?_cons_eq_bind] at h
  refine ⟨fun hnone => ?_, fun u hu => ?_⟩
  · rw [hnone] at h
    rcases h with ⟨-, hv⟩ | ⟨w, hw, -⟩
    · exact hv
    · cases hw
  · rwa [hu, Option.bind_some] at h

/-- The settings of a tree are the values of its leaves. -/
theorem ofTree_eq_ok {s : Settings} (ht : t.IsTable) (hsections : t.Sectioned)
    (h : ∀ l : Leaf, l.Has t (s.get l)) : ofTree t = .ok s := by
  have hservice : partOr Settings.default.serviceName text "service_name" 0 t =
      .ok s.serviceName := partOr_eq_ok ht (h .serviceName)
  have henvironment : partOr Settings.default.environment text "environment" 1 t =
      .ok s.environment := partOr_eq_ok ht (h .environment)
  have hobservability : partOr Observability.default observabilityOf "observability" 2 t =
      .ok s.observability := by
    have hlevel := (h .logLevel).inSection rfl
    have hformat := (h .logFormat).inSection rfl
    refine partOr_section_eq_ok ht (hsections _ (by decide)) (fun hnone => ?_) fun u hu htable => ?_
    · exact congrArg₂ Observability.mk (hlevel.1 hnone) (hformat.1 hnone)
    · have hreadLevel : partOr Observability.default.logLevel text "log_level" 0 u =
          .ok s.observability.logLevel := partOr_eq_ok htable (hlevel.2 u hu)
      have hreadFormat : partOr Observability.default.logFormat text "log_format" 1 u =
          .ok s.observability.logFormat := partOr_eq_ok htable (hformat.2 u hu)
      unfold observabilityOf
      rw [sectionOf_of_isTable htable, hreadLevel, hreadFormat]
      rfl
  have htraced : partOr false tracedOf "engine" 3 t = .ok s.traced := by
    have htrace := (h .traced).inSection rfl
    refine partOr_section_eq_ok ht (hsections _ (by decide)) htrace.1 fun u hu htable => ?_
    unfold tracedOf
    rw [sectionOf_of_isTable htable]
    exact partOr_eq_ok htable (htrace.2 u hu)
  unfold ofTree
  rw [sectionOf_of_isTable ht, hservice, henvironment, hobservability, htraced]
  rfl

end Reading

end Audience.Settings
