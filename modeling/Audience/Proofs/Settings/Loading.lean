import Audience.CommandLine.Basic
import Audience.Proofs.Settings.Layers

/-!
# Loading settings

Settings files are looked for in a directory, and what each of them gives is a layer, empty if no
file is found (`FileLayer`). The settings that are loaded are those of the layers of the files and of
the variables put over each other, and each setting is the one that these layers decide
(`loadSettings_layered`), in whichever order further endings are tried and the entries of a layer are
taken.

A file of another name may stand in for one that is not there: so a setting may come from none of
the files that are named (`debug_of_doubledFile`).
-/

namespace Audience

open Settings

/-! ## Forms of files -/

theorem Settings.Manner.find?_toml (manner : Manner) :
    (manner.forms.find? fun form => form.ending == "toml") = some .toml := by
  obtain ⟨form, hform⟩ : ∃ form,
      (manner.forms.find? fun form => form.ending == "toml") = some form :=
    Option.isSome_iff_exists.1 (List.find?_isSome.2 ⟨.toml, manner.toml_mem, rfl⟩)
  have hending : form.ending = "toml" := by simpa using List.find?_some hform
  rw [hform, List.inj_on_of_nodup_map manner.distinct (List.mem_of_find?_eq_some hform)
    manner.toml_mem hending]

namespace CommandLine

variable {read : String → Except FileFault String}
  {directory name service environment path : String} {vars : List (String × String)}
  {layer first second third : Tree.Layer} {manner : Manner} {forms before : List FileForm}

theorem endsWith_slash_iff {s : String} : s.endsWith "/" = true ↔ s.toList.getLast? = some '/' := by
  rw [String.endsWith_eq_endsWith_toSlice, String.Slice.endsWith_string_iff, String.copy_toSlice,
    List.getLast?_eq_some_iff]
  exact exists_congr fun start => eq_comm

/-- A settings file is the name with its ending, at the start of the path or after a slash. -/
theorem exists_settingsPath (directory name : String) : ∃ start : List Char,
    (settingsPath directory name).toList = start ++ name.toList ++ fileEnding.toList ∧
      (start = [] ∨ start.getLast? = some '/') := by
  unfold settingsPath inDirectory
  split
  · exact ⟨[], by simp, .inl rfl⟩
  · split
    · rename_i hdirectory
      refine ⟨directory.toList, by simp, ?_⟩
      rw [Bool.or_eq_true, decide_eq_true_eq, endsWith_slash_iff] at hdirectory
      exact hdirectory.imp_left fun hempty => by rw [hempty]; rfl
    · exact ⟨directory.toList ++ ['/'], by simp, .inr List.getLast?_concat⟩

theorem endingOf?_of_reverse {cs : List Char}
    (h : path.toList.reverse = 'l' :: 'm' :: 'o' :: 't' :: '.' :: cs) :
    FileForm.endingOf? path = if cs.head?.all (· == '/') then none else some "toml" := by
  unfold FileForm.endingOf?
  rw [h]
  rcases cs with _ | ⟨c, cs⟩
  · simp
  · rcases eq_or_ne c '/' with rfl | hc
    · simp
    · simp [hc]

/-- A settings file has the ending `toml`, unless the ending is all of its name. -/
theorem endingOf?_settingsPath : FileForm.endingOf? (settingsPath directory name) =
    if name = "" ∨ name.endsWith "/" = true then none else some "toml" := by
  obtain ⟨start, hpath, hstart⟩ := exists_settingsPath directory name
  have hreverse : (settingsPath directory name).toList.reverse =
      'l' :: 'm' :: 'o' :: 't' :: '.' :: (start ++ name.toList).reverse := by
    rw [hpath, List.reverse_append]
    rfl
  have hnothing : (name = "" ∨ name.endsWith "/" = true) ↔
      (start ++ name.toList).reverse.head?.all (· == '/') = true := by
    rw [endsWith_slash_iff, List.head?_reverse, List.getLast?_append]
    rcases hlast : name.toList.getLast? with _ | c
    · have hname : name = "" := String.toList_eq_nil_iff.1 (List.getLast?_eq_none_iff.1 hlast)
      rcases hstart with rfl | hslash
      · simp [hname]
      · simp [hname, hslash]
    · have hname : name ≠ "" := fun hempty => by simp [hempty] at hlast
      simp [hname]
  simp only [hnothing]
  exact endingOf?_of_reverse hreverse

/-! ## Files -/

/-- No file is at a path. -/
def Absent (read : String → Except FileFault String) (path : String) : Prop :=
  ∃ fault, read path = .error fault ∧ fault.isAbsence = true

/-- What a settings file gives: the layer of the file itself, and nothing if the file is not there.
That much its name tells (`named`, `missing`). But a file that is called by the ending alone is
passed over, and for one that is not there the first with a further ending stands in. -/
inductive FileLayer (read : String → Except FileFault String) (forms : List FileForm)
    (directory name : String) : Tree.Layer → Prop
  | named {text : String} {layer : Tree.Layer} (hname : name ≠ "")
      (hslash : name.endsWith "/" = false) (h : read (settingsPath directory name) = .ok text)
      (hlayer : FileForm.toml.layer (settingsPath directory name) text = .ok layer) :
      FileLayer read forms directory name layer
  | nameless {text : String} (hname : name = "" ∨ name.endsWith "/" = true)
      (h : read (settingsPath directory name) = .ok text) : FileLayer read forms directory name []
  | standIn {before after : List FileForm} {form : FileForm} {text : String} {layer : Tree.Layer}
      (hforms : forms = before ++ form :: after)
      (hfirst : Absent read (settingsPath directory name))
      (hbefore : ∀ other ∈ before, Absent read (standInPath (settingsPath directory name) other))
      (h : read (standInPath (settingsPath directory name) form) = .ok text)
      (hlayer : form.layer (standInPath (settingsPath directory name) form) text = .ok layer) :
      FileLayer read forms directory name layer
  | missing (hfirst : Absent read (settingsPath directory name))
      (h : ∀ form ∈ forms, Absent read (standInPath (settingsPath directory name) form)) :
      FileLayer read forms directory name []

theorem readStandIn_cons (form : FileForm) : readStandIn (m := Id) read path (form :: forms) =
    match read (standInPath path form) with
    | .ok text => form.layer (standInPath path form) text
    | .error fault =>
      if fault.isAbsence then readStandIn (m := Id) read path forms else .ok [] := rfl

/-- Endings are passed as long as no file has them. -/
theorem readStandIn_append (h : ∀ form ∈ before, Absent read (standInPath path form)) :
    readStandIn (m := Id) read path (before ++ forms) = readStandIn (m := Id) read path forms := by
  induction before with
  | nil => rfl
  | cons form before ih =>
    obtain ⟨⟨fault, hfault, habsence⟩, hbefore⟩ := List.forall_mem_cons.1 h
    rw [List.cons_append, readStandIn_cons, hfault]
    exact (if_pos habsence).trans (ih hbefore)

theorem readSettingsFile_eq : readSettingsFile (m := Id) read forms path =
    match read path with
    | .ok text =>
      match FileForm.ofPath? forms path with
      | some form => form.layer path text
      | none => .ok []
    | .error fault =>
      if fault.isAbsence then readStandIn (m := Id) read path forms else .ok [] := rfl

theorem readSettingsFile_of_absent (h : Absent read path) :
    readSettingsFile (m := Id) read forms path = readStandIn (m := Id) read path forms := by
  obtain ⟨fault, hfault, habsence⟩ := h
  rw [readSettingsFile_eq, hfault]
  exact if_pos habsence

/-- What is read of a settings file is what it gives. -/
theorem FileLayer.readSettingsFile_eq_ok (h : FileLayer read manner.forms directory name layer) :
    readSettingsFile (m := Id) read manner.forms (settingsPath directory name) = .ok layer := by
  have hform : FileForm.ofPath? manner.forms (settingsPath directory name) =
      if name = "" ∨ name.endsWith "/" = true then none else some .toml := by
    rw [FileForm.ofPath?, endingOf?_settingsPath]
    split
    · rfl
    · exact manner.find?_toml
  cases h with
  | named hname hslash h hlayer =>
    have hkept : ¬ (name = "" ∨ name.endsWith "/" = true) := by simp [hname, hslash]
    rw [readSettingsFile_eq, h, hform, if_neg hkept]
    exact hlayer
  | nameless hname h => rw [readSettingsFile_eq, h, hform, if_pos hname]
  | standIn hforms hfirst hbefore h hlayer =>
    rw [readSettingsFile_of_absent hfirst, hforms, readStandIn_append hbefore, readStandIn_cons, h]
    exact hlayer
  | missing hfirst h =>
    rw [readSettingsFile_of_absent hfirst, ← List.append_nil manner.forms, readStandIn_append h]
    rfl

/-! ## Settings -/

theorem readSettingsFiles_cons {paths : List String} :
    readSettingsFiles (m := Id) read forms (path :: paths) =
      match readSettingsFile (m := Id) read forms path with
      | .error e => .error e
      | .ok layer => (readSettingsFiles (m := Id) read forms paths).map (layer :: ·) := rfl

/-- The layers of files are read one by one. -/
theorem readSettingsFiles_eq_ok {paths : List String} {layers : List Tree.Layer}
    (h : List.Forall₂ (fun path layer => readSettingsFile (m := Id) read forms path = .ok layer)
      paths layers) : readSettingsFiles (m := Id) read forms paths = .ok layers := by
  induction h with
  | nil => rfl
  | cons hlayer _ ih =>
    rw [readSettingsFiles_cons, hlayer, ih]
    rfl

theorem loadSettingsIn_eq :
    loadSettingsIn (m := Id) read manner directory service environment vars =
      match readSettingsFiles (m := Id) read manner.forms
        ((fileNames service environment).map (settingsPath directory)) with
      | .error e => .error e
      | .ok files => Settings.load manner service environment files vars := rfl

/-- Settings are loaded, and each of them is the one that the variables, the file of the service,
that of the environment and `default.toml` decide, each before those after it. -/
theorem loadSettings_layered (hdefault : FileLayer read manner.forms directory "default" first)
    (henvironment : FileLayer read manner.forms directory environment second)
    (hservice : FileLayer read manner.forms directory service third)
    (horderly : ∀ layer ∈ [Layer.ofVariables vars, third, second, first], layer.Orderly) :
    (∀ l : Leaf, variableKey? l.variableName = some l.key) ∧
      ∃ settings, loadSettingsIn (m := Id) read manner directory service environment vars =
          .ok settings ∧
        ∀ l : Leaf, l.Decided service environment [Layer.ofVariables vars, third, second, first]
          (settings.get l) := by
  refine ⟨variableKey?_variableName, ?_⟩
  have hfiles : readSettingsFiles (m := Id) read manner.forms
      ((fileNames service environment).map (settingsPath directory)) = .ok [first, second, third] :=
    readSettingsFiles_eq_ok <| .cons hdefault.readSettingsFile_eq_ok <|
      .cons henvironment.readSettingsFile_eq_ok <| .cons hservice.readSettingsFile_eq_ok .nil
  rw [loadSettingsIn_eq, hfiles]
  exact exists_load horderly

/-! ## Samples -/

/-- The files of a sample: the defaults, and those of a service. -/
def sampleFiles (path : String) : Except FileFault String :=
  if path = "config/default.toml" then
    .ok "[observability]\nlog_level = \"warn\"\nlog_format = \"json\"\n"
  else if path = "config/segment-eval.toml" then .ok "[observability]\nlog_level = \"debug\"\n"
  else .error .notFound

/-- The variables of a sample. -/
def sampleVariables : List (String × String) :=
  [("SEGMENT_ENGINE__TRACE_ENABLED", "1"), ("SEGMENT_ENVIRONMENT", "staging")]

theorem exists_orderly {origin text : String}
    (h : ((FileForm.toml.layer origin text).toOption.any fun layer => layer.Orderly) = true) :
    ∃ layer, FileForm.toml.layer origin text = .ok layer ∧ layer.Orderly := by
  obtain ⟨layer, hlayer, horderly⟩ := (Option.any_eq_true _ _).1 h
  exact ⟨layer, toOption_eq_some_iff.1 hlayer, of_decide_eq_true horderly⟩

/-- The file of the service sets the level alone, so the format is still that of the defaults. -/
theorem sample_layered : ∃ first third,
    FileLayer sampleFiles Manner.plain.forms "config" "default" first ∧
      FileLayer sampleFiles Manner.plain.forms "config" "production" [] ∧
      FileLayer sampleFiles Manner.plain.forms "config" "segment-eval" third ∧
      (∀ layer ∈ [Layer.ofVariables sampleVariables, third, [], first], layer.Orderly) ∧
      (∃ settings, loadSettingsIn (m := Id) sampleFiles .plain "config" "segment-eval" "production"
        sampleVariables = .ok settings ∧
        ∀ l : Leaf, l.Decided "segment-eval" "production"
          [Layer.ofVariables sampleVariables, third, [], first] (settings.get l)) ∧
      loadSettings (m := Id) sampleFiles "config" "segment-eval" "production" sampleVariables =
        .ok ⟨"segment-eval", "staging", ⟨"debug", "json"⟩, true⟩ := by
  obtain ⟨first, hfirst, hfirstOrderly⟩ : ∃ layer,
      FileForm.toml.layer (settingsPath "config" "default")
        "[observability]\nlog_level = \"warn\"\nlog_format = \"json\"\n" = .ok layer ∧
      layer.Orderly :=
    exists_orderly (by decide +kernel)
  obtain ⟨third, hthird, hthirdOrderly⟩ : ∃ layer,
      FileForm.toml.layer (settingsPath "config" "segment-eval")
        "[observability]\nlog_level = \"debug\"\n" = .ok layer ∧ layer.Orderly :=
    exists_orderly (by decide +kernel)
  have hdefault : FileLayer sampleFiles Manner.plain.forms "config" "default" first :=
    .named (by decide) (by decide +kernel) (by decide +kernel) hfirst
  have hnamed : sampleFiles (settingsPath "config" "production") = .error .notFound := by
    decide +kernel
  have hstandIn : ∀ form ∈ FileForm.known,
      sampleFiles (standInPath (settingsPath "config" "production") form) = .error .notFound := by
    decide +kernel
  have henvironment : FileLayer sampleFiles Manner.plain.forms "config" "production" [] :=
    .missing ⟨_, hnamed, rfl⟩ fun form hform => ⟨_, hstandIn form hform, rfl⟩
  have hservice : FileLayer sampleFiles Manner.plain.forms "config" "segment-eval" third :=
    .named (by decide) (by decide +kernel) (by decide +kernel) hthird
  have horderly : ∀ layer ∈ [Layer.ofVariables sampleVariables, third, [], first],
      layer.Orderly := by
    have hvariables : (Layer.ofVariables sampleVariables).Orderly := by decide +kernel
    simp only [List.forall_mem_cons]
    exact ⟨hvariables, hthirdOrderly, by decide +kernel, hfirstOrderly, List.forall_mem_nil _⟩
  exact ⟨first, third, hdefault, henvironment, hservice, horderly,
    (loadSettings_layered hdefault henvironment hservice horderly).2,
    toOption_eq_some_iff.1 (by decide +kernel)⟩

/-- A file whose name has the ending twice. -/
def doubledFile (path : String) : Except FileFault String :=
  if path = "config/default.toml.toml" then .ok "[observability]\nlog_level = \"debug\"\n"
  else .error .notFound

/-- The level is taken from that file, although none of the files is there under its name. -/
theorem debug_of_doubledFile :
    (∀ name ∈ fileNames "segment-eval" "development",
        doubledFile (settingsPath "config" name) = .error .notFound) ∧
      loadSettings (m := Id) doubledFile "config" "segment-eval" "development" [] =
        .ok ⟨"segment-eval", "development", ⟨"debug", "pretty"⟩, false⟩ ∧
      Leaf.logLevel.builtIn "segment-eval" "development" = "info" := by
  refine ⟨by decide +kernel, ?_, rfl⟩
  exact toOption_eq_some_iff.1 (by decide +kernel)

end CommandLine

end Audience
