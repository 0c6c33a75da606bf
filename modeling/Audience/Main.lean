import Audience.CommandLine.Basic

/-!
# The program

Files and variables of the system, and the streams that results and notices go to.
-/

namespace Audience.CommandLine

/-- The fault that an error of the system stands for. Reading a directory fails without a name. -/
def FileFault.ofSystem : IO.Error → FileFault
  | .noFileOrDirectory .. => .notFound
  | .inappropriateType none .. => .isDirectory
  | .inappropriateType (some _) .. => .notDirectory
  | e => .other (toString e)

/-- Reads a file of the system. -/
def readSystemFile (path : String) : IO (Except FileFault String) := do
  try
    match String.fromUTF8? (← IO.FS.readBinFile path) with
    | some text => return .ok text
    | none => return .error .notText
  catch e => return .error (.ofSystem e)

/-- The variables of the process, as the system lists them. -/
def systemVariables : IO (List (String × String)) := do
  match ← readSystemFile "/proc/self/environ" with
  | .error _ => return []
  | .ok text =>
    return (text.splitOn "\x00").filterMap fun entry =>
      match entry.splitOn "=" with
      | name :: first :: rest => some (name, "=".intercalate (first :: rest))
      | _ => none

/-- Writes what a run leaves and gives its code of exit. -/
def Run.write (r : Run) : IO UInt32 := do
  if let some notice := r.notice then IO.eprintln notice
  match r.ending with
  | .result j => IO.println j.pretty; return 0
  | .message text => IO.println text; return 0
  | .failure f => IO.eprintln f.text; return 1
  | .misuse => IO.eprintln helpText; return 2

end Audience.CommandLine

open Audience.CommandLine in
/-- Evaluates the files that the arguments name. -/
def main (args : List String) : IO UInt32 := do
  (← run readSystemFile args (← systemVariables)).write
