import Audience.CommandLine.Arguments
import Audience.Settings.Layers
import Audience.Store

/-!
# The command line

The program evaluates the segments of one file on the record of another and writes the result as
JSON: for a single segment its outcome, for a list the first match, or all matches as a list. With a
trace, reports on all segments are added.

`CommandLine.evaluate` is that evaluation, and `CommandLine.run` the whole program but for its
effects: files are read by the function it is given, and what is to be written is its result.
-/

namespace Audience.CommandLine

open Settings (FileForm Manner Tree)

/-- Why the program gives up: what it was about to do, and the causes, each behind the one before. -/
structure Failure where
  context : String
  causes : List String
deriving DecidableEq, Repr

namespace Failure

/-- A text whose further lines are indented. -/
def indented (blanks : String) (s : String) : String :=
  ("\n" ++ blanks).intercalate (s.splitOn "\n")

/-- The lines for causes; more than one are numbered. -/
def causeLines : List String → List String
  | [cause] => ["    " ++ indented "    " cause]
  | causes => causes.mapIdx fun i cause =>
    let number := toString i
    "".pushn ' ' (5 - number.length) ++ number ++ ": " ++ indented "       " cause

/-- The words for a failure. -/
def text (f : Failure) : String :=
  "Error: " ++ f.context ++
    if f.causes.isEmpty then ""
    else "\n\nCaused by:\n" ++ "\n".intercalate (causeLines f.causes)

/-- A failure because of an error; one in a document has the fault behind it. -/
def ofError (context : String) (e : Error) : Failure :=
  match e with
  | .document fault => ⟨context, [e.message, fault.message]⟩
  | _ => ⟨context, [e.message]⟩

end Failure

/-! ## Evaluation -/

/-- The result, with reports where they are asked for. -/
def output (traced : Bool) (result : Json) (reports : List Report) : Json :=
  if traced then
    .ofFields [("result", result), ("reports", .array (reports.map Report.toJson))]
  else result

/-- Evaluates a list of segments. -/
def evaluateList (items : List Json) (r : Record) (all traced : Bool) : Except Failure Json := do
  let segments ← (items.mapM Segment.ofJson).mapError fun fault =>
    ⟨"分群配置格式错误", [(Json.Error.ofMismatch fault).message]⟩
  let (answer, store) := (Store.loadAll segments).on .empty
  let _ ← answer.mapError (.ofError "分群编译失败")
  let engine : Engine := ⟨.standard, traced⟩
  let result :=
    if all then .array ((store.selectAll engine r).map Segment.toJson)
    else (store.selectFirst engine r).toJson
  return output traced result (store.reportAll engine r)

/-- Evaluates a single segment. -/
def evaluateSingle (j : Json) (r : Record) (all traced : Bool) : Except Failure Json := do
  let p ← (Predicate.ofJson j).mapError (.ofError "分群编译失败")
  let report := p.report .standard traced r
  let result :=
    if all then .array (report.outcome.segment?.toList.map Segment.toJson)
    else report.outcome.toJson
  return output traced result [report]

/-- Evaluates the segments that a value describes, a list of them or a single one, on a state. -/
def evaluate (segments state : Json) (all traced : Bool) : Except Failure Json :=
  let r := Record.resolve state none
  match segments with
  | .array items => evaluateList items r all traced
  | j => evaluateSingle j r all traced

/-! ## The program -/

/-- Why a file cannot be read. -/
inductive FileFault where
  | notFound
  | isDirectory
  | notDirectory
  | notText
  | other (text : String)
deriving DecidableEq, Repr

/-- The words for a fault of a file. -/
def FileFault.text : FileFault → String
  | notFound => "No such file or directory (os error 2)"
  | isDirectory => "Is a directory (os error 21)"
  | notDirectory => "Not a directory (os error 20)"
  | notText => "stream did not contain valid UTF-8"
  | other text => text

/-- Whether no file is there. -/
def FileFault.isAbsence : FileFault → Bool
  | notFound | isDirectory | notDirectory => true
  | notText | other _ => false

/-- The name of the program. -/
def programName : String := "segment-eval"

/-- The answer to the request for the version. -/
def versionText : String := programName ++ " 0.1.0"

/-- The answer to the request for help. -/
def helpText : String :=
  "\n".intercalate
    ["人群分群规则评估工具", "",
      "Usage: " ++ programName ++ " [OPTIONS] --segments <SEGMENTS> --state <STATE>", "",
      "Options:",
      "  -s, --segments <SEGMENTS>  分群配置文件（单个配置对象或配置数组）",
      "      --state <STATE>        状态记录文件",
      "  -a, --all                  输出全部命中的分群（数组）",
      "  -t, --trace                同时输出每个分群的逐条件评估报告",
      "  -h, --help                 Print help",
      "  -V, --version              Print version"]

/-- How a run ends. -/
inductive Ending where
  | result (j : Json)
  | message (text : String)
  | failure (f : Failure)
  | misuse
deriving Repr

/-- What a run leaves to be written: a notice that settings could not be loaded, and its end. -/
structure Run where
  notice : Option String
  ending : Ending
deriving Repr

/-- The path of a name in a directory. A name that begins at the root is a path of its own. -/
def inDirectory (directory name : String) : String :=
  if name.startsWith "/" then name
  else if directory = "" || directory.endsWith "/" then directory ++ name
  else directory ++ "/" ++ name

/-- Where a settings file is looked for first. -/
def settingsPath (directory name : String) : String :=
  inDirectory directory (name ++ Settings.fileEnding)

/-- Where a file of the form is looked for that stands in for a settings file. -/
def standInPath (path : String) (form : FileForm) : String :=
  path ++ "." ++ form.ending

section Run

variable {m : Type → Type} [Monad m] (read : String → m (Except FileFault String))

/-- Reads the layer of the first file that has the ending of a form behind a path. -/
def readStandIn (path : String) : List FileForm → m (Except Settings.Error Tree.Layer)
  | [] => return .ok []
  | form :: forms => do
    let standIn := standInPath path form
    match ← read standIn with
    | .ok text => return form.layer standIn text
    | .error fault => if fault.isAbsence then readStandIn path forms else return .ok []

/-- Reads the layer of a settings file. If no file is there, one with a further ending stands in for
it; what cannot be read, or has no ending that tells its form, is passed over. -/
def readSettingsFile (forms : List FileForm) (path : String) :
    m (Except Settings.Error Tree.Layer) := do
  match ← read path with
  | .ok text =>
    match FileForm.ofPath? forms path with
    | some form => return form.layer path text
    | none => return .ok []
  | .error fault => if fault.isAbsence then readStandIn read path forms else return .ok []

/-- Reads the layers of settings files, of which the first that is refused tells why. -/
def readSettingsFiles (forms : List FileForm) :
    List String → m (Except Settings.Error (List Tree.Layer))
  | [] => return .ok []
  | path :: paths => do
    match ← readSettingsFile read forms path with
    | .error e => return .error e
    | .ok layer => return (← readSettingsFiles forms paths).map (layer :: ·)

/-- Loads the settings of a service for an environment from a directory and variables, in a manner
that settles what is left open. -/
def loadSettingsIn (manner : Manner) (directory service environment : String)
    (vars : List (String × String)) : m (Except Settings.Error Settings) := do
  let paths := (Settings.fileNames service environment).map (settingsPath directory)
  match ← readSettingsFiles read manner.forms paths with
  | .error e => return .error e
  | .ok files => return Settings.load manner service environment files vars

/-- Loads the settings of a service in the plain manner. -/
def loadSettings (directory service environment : String) (vars : List (String × String)) :
    m (Except Settings.Error Settings) :=
  loadSettingsIn read .plain directory service environment vars

/-- Reads a JSON file. -/
def readJson (path : String) : m (Except Failure Json) := do
  match ← read path with
  | .error fault => return .error ⟨"无法读取文件: " ++ path, [fault.text]⟩
  | .ok text =>
    return (Json.ofText? text).mapError fun e => ⟨"无效的 JSON: " ++ path, [e.message]⟩

/-- Reads both files and evaluates. -/
def evaluateFiles (arguments : Arguments) (traced : Bool) : m (Except Failure Json) := do
  match ← readJson read arguments.segments with
  | .error f => return .error f
  | .ok segments =>
    match ← readJson read arguments.state with
    | .error f => return .error f
    | .ok state => return evaluate segments state arguments.all traced

/-- The environment that variables name. -/
def environmentOf (vars : List (String × String)) : String :=
  (vars.lookup "SEGMENT_ENV").getD "development"

/-- The directory of settings files that variables name. -/
def directoryOf (vars : List (String × String)) : String :=
  (vars.lookup "CONFIG_DIR").getD "config"

/-- Runs the program on its arguments and variables. -/
def run (args : List String) (vars : List (String × String)) : m Run := do
  match Request.ofArguments? args with
  | none => return ⟨none, .misuse⟩
  | some .help => return ⟨none, .message helpText⟩
  | some .version => return ⟨none, .message versionText⟩
  | some (.evaluate arguments) =>
    let loaded ← loadSettings read (directoryOf vars) programName (environmentOf vars) vars
    let (notice, settings) :=
      match loaded with
      | .ok settings => (none, settings)
      | .error e => (some ("Failed to load config, using defaults: " ++ e.message), .default)
    match ← evaluateFiles read arguments (arguments.traced || settings.traced) with
    | .ok j => return ⟨notice, .result j⟩
    | .error f => return ⟨notice, .failure f⟩

end Run

end Audience.CommandLine
