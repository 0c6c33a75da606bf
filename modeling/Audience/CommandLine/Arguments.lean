/-!
# Arguments of the command line

`Request.ofArguments?` reads the arguments from left to right: two paths that must be given once
each, two switches, and the requests for help and for the version, which are answered as soon as
they are met. Short options may stand together behind one dash; a value stands apart, after an
equals sign, or directly behind a short option. What is not understood makes the whole unusable.
-/

namespace Audience.CommandLine

/-- What is to be evaluated, and how. -/
structure Arguments where
  segments : String
  state : String
  all : Bool
  traced : Bool
deriving DecidableEq, Repr

/-- What the command line asks for. -/
inductive Request where
  | evaluate (arguments : Arguments)
  | help
  | version
deriving DecidableEq, Repr

/-- An option that takes a path. -/
inductive PathOption where
  | segments
  | state
deriving DecidableEq, Repr

/-- An option that stands alone. -/
inductive Switch where
  | all
  | traced
  | help
  | version
deriving DecidableEq, Repr

/-- The arguments understood so far. -/
structure Draft where
  segments : Option String
  state : Option String
  all : Bool
  traced : Bool
deriving DecidableEq, Repr

namespace Draft

/-- Nothing understood yet. -/
def empty : Draft := ⟨none, none, false, false⟩

/-- Takes a path, which may not be empty or given before. -/
def setPath? (d : Draft) (option : PathOption) (path : String) : Option Draft :=
  if path = "" then none
  else
    match option, d with
    | .segments, ⟨none, state, all, traced⟩ => some ⟨some path, state, all, traced⟩
    | .state, ⟨segments, none, all, traced⟩ => some ⟨segments, some path, all, traced⟩
    | _, _ => none

/-- The request of a complete draft. -/
def request? (d : Draft) : Option Request :=
  match d.segments, d.state with
  | some segments, some state => some (.evaluate ⟨segments, state, d.all, d.traced⟩)
  | _, _ => none

end Draft

/-- What comes of an option that stands alone: the draft goes on, or a request is answered. -/
def Switch.take? (s : Switch) (d : Draft) : Option (Draft ⊕ Request) :=
  match s with
  | all => if d.all then none else some (.inl { d with all := true })
  | traced => if d.traced then none else some (.inl { d with traced := true })
  | help => some (.inr .help)
  | version => some (.inr .version)

/-- The switch of a letter. -/
def Switch.ofLetter? : Char → Option Switch
  | 'a' => some all
  | 't' => some traced
  | 'h' => some help
  | 'V' => some version
  | _ => none

/-- The switch of a name. -/
def Switch.ofName? : String → Option Switch
  | "all" => some all
  | "trace" => some traced
  | "help" => some help
  | "version" => some version
  | _ => none

/-- The path option of a name. -/
def PathOption.ofName? : String → Option PathOption
  | "segments" => some .segments
  | "state" => some .state
  | _ => none

/-- Where reading stands after an option: it goes on, waits for a path, or has its answer. -/
inductive Progress where
  | goOn (d : Draft)
  | awaitPath (d : Draft) (option : PathOption)
  | answer (r : Request)
deriving DecidableEq, Repr

/-- Takes letters behind one dash. -/
def takeLetters? (d : Draft) : List Char → Option Progress
  | [] => some (.goOn d)
  | 's' :: [] => some (.awaitPath d .segments)
  | 's' :: '=' :: path => (d.setPath? .segments (String.ofList path)).map .goOn
  | 's' :: path => (d.setPath? .segments (String.ofList path)).map .goOn
  | c :: cs => do
    match ← (← Switch.ofLetter? c).take? d with
    | .inl d => takeLetters? d cs
    | .inr r => some (.answer r)

/-- Takes a name behind two dashes, with a value after an equals sign or without. -/
def takeName? (d : Draft) (cs : List Char) : Option Progress :=
  let name := String.ofList (cs.takeWhile (· ≠ '='))
  match cs.dropWhile (· ≠ '=') with
  | [] =>
    match PathOption.ofName? name with
    | some option => some (.awaitPath d option)
    | none => do
      match ← (← Switch.ofName? name).take? d with
      | .inl d => some (.goOn d)
      | .inr r => some (.answer r)
  | _ :: path => do (d.setPath? (← PathOption.ofName? name) (String.ofList path)).map .goOn

/-- Whether an argument may be the value of an option before it. -/
def isValue (arg : String) : Bool :=
  arg == "-" || !arg.startsWith "-"

/-- Reads arguments into a draft. -/
def readArguments? (d : Draft) : List String → Option Request
  | [] => d.request?
  | arg :: args =>
    match arg.toList with
    | ['-', '-'] => if args.isEmpty then d.request? else none
    | '-' :: '-' :: cs => (takeName? d cs).bind fun p => go p args
    | '-' :: c :: cs => (takeLetters? d (c :: cs)).bind fun p => go p args
    | _ => none
where
  /-- Goes on after an option. -/
  go (p : Progress) (args : List String) : Option Request :=
    match p, args with
    | .goOn d, args => readArguments? d args
    | .answer r, _ => some r
    | .awaitPath d option, path :: args =>
      if isValue path then (d.setPath? option path).bind fun d => readArguments? d args else none
    | .awaitPath _ _, [] => none

/-- What the arguments ask for, or nothing if they are not understood. -/
def Request.ofArguments? (args : List String) : Option Request :=
  readArguments? .empty args

end Audience.CommandLine
