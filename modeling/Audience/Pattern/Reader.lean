import Audience.Number.Decimal
import Audience.Pattern.Basic
import Audience.Text.Blank

/-!
# Reading patterns

The written form of a pattern: `|` divides choices, `* + ? {n} {n,} {n,m}` repeat what stands
before (an added `?` changes nothing that a search could tell), `( )` groups, with `?:`, a name or
flags after the opening one, and `[ ]` holds a set of characters with ranges, nested sets and the
operations `&&`, `--` and `~~`. A backslash writes a character, a set or a condition on the place.

Flags are `i`, `m`, `s`, `R`, `u`, `U` and `x`; they hold up to the end of the group they stand in.
Without `u` sets and conditions are those of ASCII, and a set may not reach beyond it.

`Pattern.parse?` reads a whole text and refuses one that is not a pattern.
-/

namespace Audience.Pattern

/-- The flags in force. -/
structure Flags where
  ignoreCase : Bool
  multiLine : Bool
  dotAll : Bool
  crlf : Bool
  unicode : Bool
  verbose : Bool
deriving Repr

/-- Where a reader stands: the characters ahead, the flags in force and the names of groups. -/
structure Stand where
  rest : List Char
  flags : Flags
  names : List String

/-- A step through a written pattern. -/
abbrev Reader := StateT Stand Option

/-- A pattern that was read, with the depth of its nesting, and whether it may be repeated. -/
structure Piece where
  pattern : Pattern
  depth : Nat
  repeatable : Bool

/-- What a backslash or a single character writes. -/
inductive Primitive where
  /-- A character; `byte` marks one written by two hexadecimal digits. -/
  | char (c : Char) (byte : Bool)
  | set (a : CharSet)
  | look (condition : Look)
  | dot

/-- A set that was read, with the depth of its nesting. -/
structure SetPiece where
  set : CharSet
  depth : Nat

/-- An operation on sets. -/
inductive SetOp where
  | inter
  | diff
  | symmDiff

/-- Levels of nesting that are allowed. -/
def depthLimit : Nat := 250

namespace Reader

variable {α : Type}

/-- Refuses the pattern. -/
def refuse : Reader α := fun _ => none

/-- Refuses the pattern unless the condition holds. -/
def require (condition : Bool) : Reader Unit :=
  if condition then pure () else refuse

/-- The value, or refuses the pattern. -/
def need (a : Option α) : Reader α :=
  match a with
  | some a => pure a
  | none => refuse

/-- The flags in force. -/
def flags : Reader Flags := do
  return (← get).flags

/-- Changes the flags in force. -/
def setFlags (f : Flags) : Reader Unit :=
  modify fun s => { s with flags := f }

/-- The character ahead. -/
def peek? : Reader (Option Char) := do
  return (← get).rest.head?

/-- The character ahead, which must be there. -/
def peek : Reader Char := do
  need (← peek?)

/-- Passes the character ahead. -/
def bump : Reader Unit :=
  modify fun s => { s with rest := s.rest.drop 1 }

/-- Passes the given characters if they stand ahead. -/
def bumpIf (text : String) : Reader Bool := do
  let s ← get
  if text.toList.isPrefixOf s.rest then
    set { s with rest := s.rest.drop text.length }
    return true
  else return false

/-- The characters after white space and comments, which reach from `#` to the end of the line. -/
def afterSpace (inComment : Bool) : List Char → List Char
  | [] => []
  | c :: cs =>
    if inComment then afterSpace (c != '\n') cs
    else if Text.isBlank c then afterSpace false cs
    else if c = '#' then afterSpace true cs
    else c :: cs

/-- Passes white space and comments where these do not count. -/
def space : Reader Unit :=
  modify fun s => if s.flags.verbose then { s with rest := afterSpace false s.rest } else s

/-- Passes a character and the space after it. -/
def bumpSpace : Reader Unit := do
  bump
  space

/-- The character after the one ahead, past white space and the sign of one comment where these do
not count. -/
def peekPast? : Reader (Option Char) := do
  let s ← get
  let ahead := s.rest.drop 1
  if !s.flags.verbose then return ahead.head?
  else
    let first := ahead.dropWhile Text.isBlank
    let second := match first with
      | '#' :: cs => cs.dropWhile Text.isBlank
      | cs => cs
    return if second.isEmpty then ahead.head? else second.head?

/-- The characters of a kind ahead, space between them being passed. -/
def takeSpaced (p : Char → Bool) : (fuel : Nat) → Reader (List Char)
  | 0 => return []
  | fuel + 1 => do
    match ← peek? with
    | some c =>
      if p c then
        bumpSpace
        return c :: (← takeSpaced p fuel)
      else return []
    | none => return []

/-- Fuel for going through all characters ahead. -/
def fuel : Reader Nat := do
  return (← get).rest.length + 1

/-! ## Escapes -/

/-- Whether a character is a hexadecimal digit. -/
def isHex (c : Char) : Bool :=
  (Text.Table.hexDigit? c).isSome

/-- The character with a number in hexadecimal. -/
def charOfHex (cs : List Char) : Reader Char := do
  let n := Text.Table.hexValue cs
  require (!cs.isEmpty && (n < 0xD800 || (0xDFFF < n && n < 0x110000)))
  return Char.ofNat n

/-- So many hexadecimal digits. -/
def hexDigits : (count : Nat) → Reader (List Char)
  | 0 => return []
  | count + 1 => do
    let c ← peek
    require (isHex c)
    bumpSpace
    return c :: (← hexDigits count)

/-- A character by number, `x`, `u` or `U` standing ahead: in braces, or by as many digits as the
letter takes. -/
def hexChar (count : Nat) : Reader Primitive := do
  bumpSpace
  if (← peek) = '\x7b' then
    bumpSpace
    let cs ← takeSpaced isHex (← fuel)
    require ((← peek) = '\x7d')
    bumpSpace
    return .char (← charOfHex cs) false
  else
    return .char (← charOfHex (← hexDigits count)) (count == 2)

/-- What stands between two characters, if both are there. -/
def cut (c : Char) (cs : List Char) : Option (List Char × List Char) :=
  if cs.contains c then some (cs.takeWhile (· != c), (cs.dropWhile (· != c)).drop 1) else none

/-- The set of the property written between braces, and whether it is excluded. -/
def propertyOf (cs : List Char) : Option (CharSet × Bool) :=
  match excluded cs with
  | some (name, value) =>
    (CharSet.valued? (String.ofList name) (String.ofList value)).map (·, true)
  | none =>
    match (cut ':' cs).or (cut '=' cs) with
    | some (name, value) =>
      (CharSet.valued? (String.ofList name) (String.ofList value)).map (·, false)
    | none => (CharSet.named? (String.ofList cs)).map (·, false)
where
  /-- The sides of the first `!=`. -/
  excluded : List Char → Option (List Char × List Char)
    | [] => none
    | '!' :: '=' :: cs => some ([], cs)
    | c :: cs => (excluded cs).map fun p => (c :: p.1, p.2)

/-- Ignores case, if that is asked for, and then takes the complement, if that is. -/
def foldNegate (negated : Bool) (a : CharSet) : Reader CharSet := do
  let f ← flags
  if f.unicode then
    return (if f.ignoreCase then CharSet.anyCase a else a).negate negated
  else
    let b := (if f.ignoreCase then CharSet.anyAsciiCase a else a).negate negated
    require b.isAscii
    return b.inter (.interval 0 0x7F)

/-- The set of a property, `p` or `P` standing ahead. -/
def propertySet (negated : Bool) : Reader Primitive := do
  bumpSpace
  let (a, excluded) ←
    if (← peek) = '\x7b' then do
      bumpSpace
      let cs ← takeSpaced (· != '\x7d') (← fuel)
      require ((← peek?) == some '\x7d')
      bump
      need (propertyOf cs)
    else do
      let c ← peek
      require (c != '\\')
      bumpSpace
      need ((CharSet.named? c.toString).map (·, false))
  require (← flags).unicode
  return .set (← foldNegate (negated != excluded) a)

/-- One of the sets of a single letter. -/
def letterSet (a : Bool → CharSet) (negated : Bool) : Reader Primitive := do
  bump
  let unicode := (← flags).unicode
  let b := (a unicode).negate negated
  require (unicode || b.isAscii)
  return .set b

/-- The named condition in braces that may follow `\b`, the brace standing ahead; none if these
are the braces of a repetition. -/
def namedBoundary (unicode : Bool) : Reader (Option Look) := do
  let start ← get
  bumpSpace
  let isLetter := fun c : Char => ('A' ≤ c && c ≤ 'Z') || ('a' ≤ c && c ≤ 'z') || c == '-'
  if !isLetter (← peek) then
    set start
    return none
  else
    let cs ← takeSpaced isLetter (← fuel)
    require ((← peek?) == some '\x7d')
    bump
    match String.ofList cs with
    | "start" => return some (.wordStart unicode)
    | "end" => return some (.wordEnd unicode)
    | "start-half" => return some (.wordStartHalf unicode)
    | "end-half" => return some (.wordEndHalf unicode)
    | _ => refuse

/-- Whether a backslash may stand before a character that needs none. -/
def escapable (c : Char) : Bool :=
  c.toNat < 0x80 && !c.isAlphanum && c != '<' && c != '>'

/-- What a backslash and the characters after it write. -/
def escape : Reader Primitive := do
  bump
  let c ← peek
  let unicode := (← flags).unicode
  match c with
  | 'x' => hexChar 2
  | 'u' => hexChar 4
  | 'U' => hexChar 8
  | 'p' => propertySet false
  | 'P' => propertySet true
  | 'd' => letterSet CharSet.digit false
  | 'D' => letterSet CharSet.digit true
  | 's' => letterSet CharSet.space false
  | 'S' => letterSet CharSet.space true
  | 'w' => letterSet CharSet.word false
  | 'W' => letterSet CharSet.word true
  | _ =>
    bump
    match c with
    | 'a' => return .char '\x07' false
    | 'f' => return .char '\x0c' false
    | 't' => return .char '\t' false
    | 'n' => return .char '\n' false
    | 'r' => return .char '\r' false
    | 'v' => return .char '\x0b' false
    | 'A' => return .look .textStart
    | 'z' => return .look .textEnd
    | 'B' => return .look (.notWordBoundary unicode)
    | '<' => return .look (.wordStart unicode)
    | '>' => return .look (.wordEnd unicode)
    | 'b' =>
      if (← peek?) == some '\x7b' then
        return .look ((← namedBoundary unicode).getD (.wordBoundary unicode))
      else return .look (.wordBoundary unicode)
    | _ =>
      require (escapable c)
      return .char c false

/-! ## Sets in brackets -/

/-- The set of a character; without `u`, one of ASCII. -/
def charInSet (c : Char) : Reader CharSet := do
  require ((← flags).unicode || c.toNat < 0x80)
  return .single c.toNat

/-- A character or a backslash and what follows it, in brackets. -/
def setItem : Reader Primitive := do
  let c ← peek
  if c = '\\' then escape
  else
    bump
    return .char c false

/-- A single item or a range. -/
def setRange : Reader SetPiece := do
  let first ← setItem
  space
  let c ← peek
  if c != '-' || (← peekPast?) == some ']' || (← peekPast?) == some '-' then
    match first with
    | .char c _ => return ⟨← charInSet c, 0⟩
    | .set a => return ⟨a, 0⟩
    | _ => refuse
  else
    bumpSpace
    let last ← setItem
    match first, last with
    | .char a _, .char b _ =>
      require (a.toNat ≤ b.toNat)
      let _ ← charInSet a
      let _ ← charInSet b
      return ⟨.interval a.toNat b.toNat, 0⟩
    | _, _ => refuse

/-- A class such as `[:alpha:]`, if one stands ahead. -/
def asciiClass : Reader (Option SetPiece) := do
  let start ← get
  let found : Option (Bool × List Char × List Char) :=
    match start.rest with
    | '[' :: ':' :: '^' :: cs => some (true, cs.takeWhile (· != ':'), cs.dropWhile (· != ':'))
    | '[' :: ':' :: cs => some (false, cs.takeWhile (· != ':'), cs.dropWhile (· != ':'))
    | _ => none
  match found with
  | some (negated, name, ':' :: ']' :: rest) =>
    match CharSet.ascii? (String.ofList name) with
    | some a =>
      set { start with rest := rest }
      return some ⟨← foldNegate negated a, 0⟩
    | none => return none
  | _ => return none

/-- The union of items, the last first. -/
def unionOf (items : List SetPiece) : SetPiece :=
  match items with
  | [] => ⟨.empty, 0⟩
  | [a] => a
  | items => ⟨.ofList (items.reverse.map (·.set)), 1 + (items.map (·.depth)).foldl max 0⟩

/-- Applies an operation that waits for its right side. -/
def applyOp (waiting : Option (SetPiece × SetOp)) (right : SetPiece) : Reader SetPiece := do
  match waiting with
  | none => return right
  | some (left, op) =>
    let f ← flags
    let fold := fun a : CharSet =>
      if !f.ignoreCase then a else if f.unicode then a.anyCase else a.anyAsciiCase
    let a := fold left.set
    let b := fold right.set
    let c := match op with
      | .inter => a.inter b
      | .diff => a.diff b
      | .symmDiff => a.symmDiff b
    return ⟨c, 1 + max left.depth right.depth⟩

/-- The literal hyphens that may open a set. -/
def openingHyphens (items : List SetPiece) : (fuel : Nat) → Reader (List SetPiece)
  | 0 => return items
  | fuel + 1 => do
    if (← peek) = '-' then
      bumpSpace
      openingHyphens (⟨.single '-'.toNat, 0⟩ :: items) fuel
    else return items

mutual

/-- A set in brackets, the opening one standing ahead. -/
def bracketSet : (fuel : Nat) → Reader SetPiece
  | 0 => refuse
  | fuel + 1 => do
    bumpSpace
    let negated := (← peek) = '^'
    if negated then bumpSpace
    let items ← openingHyphens [] fuel
    let items ←
      if items.isEmpty && (← peek) = ']' then do
        bumpSpace
        pure [⟨.single ']'.toNat, 0⟩]
      else pure items
    let _ ← peek
    let inner ← setBody items none fuel
    return ⟨← foldNegate negated inner.set, 1 + inner.depth⟩

/-- The items of a set up to its closing bracket, those since the last operation first. -/
def setBody (items : List SetPiece) (waiting : Option (SetPiece × SetOp)) :
    (fuel : Nat) → Reader SetPiece
  | 0 => refuse
  | fuel + 1 => do
    space
    match (← get).rest with
    | [] => refuse
    | '[' :: _ =>
      match ← asciiClass with
      | some a => setBody (a :: items) waiting fuel
      | none => setBody ((← bracketSet fuel) :: items) waiting fuel
    | ']' :: _ =>
      let a ← applyOp waiting (unionOf items)
      bump
      return a
    | '&' :: '&' :: _ => operation .inter items waiting fuel
    | '-' :: '-' :: _ => operation .diff items waiting fuel
    | '~' :: '~' :: _ => operation .symmDiff items waiting fuel
    | _ => setBody ((← setRange) :: items) waiting fuel

/-- An operation, whose sign stands ahead, and the items after it. -/
def operation (op : SetOp) (items : List SetPiece) (waiting : Option (SetPiece × SetOp)) :
    (fuel : Nat) → Reader SetPiece
  | 0 => refuse
  | fuel + 1 => do
    let left ← applyOp waiting (unionOf items)
    bump
    bump
    setBody [] (some (left, op)) fuel

end

/-! ## Pieces -/

/-- A character of its own. -/
def charPiece (c : Char) (byte : Bool) : Reader Pattern := do
  let f ← flags
  require (f.unicode || !byte || c.toNat < 0x80)
  let a := CharSet.single c.toNat
  if !f.ignoreCase then return one a
  else if f.unicode then return one a.anyCase
  else return one a.anyAsciiCase

/-- Any character, save for line ends unless these are wanted. -/
def dotPiece : Reader Pattern := do
  let f ← flags
  require f.unicode
  if f.dotAll then return one .all
  else if f.crlf then return one (.compl (.union (.single 0xA) (.single 0xD)))
  else return one (.compl (.single 0xA))

/-- A character, a set or a condition. -/
def primitive : Reader Piece := do
  let c ← peek
  let f ← flags
  let p ← match c with
    | '\\' => escape
    | '.' => do bump; pure .dot
    | '^' => do
      bump
      pure (.look (if !f.multiLine then .textStart else if f.crlf then .crlfStart else .lineStart))
    | '$' => do
      bump
      pure (.look (if !f.multiLine then .textEnd else if f.crlf then .crlfEnd else .lineEnd))
    | c => do bump; pure (.char c false)
  match p with
  | .char c byte => return ⟨← charPiece c byte, 0, true⟩
  | .set a => return ⟨one a, 0, true⟩
  | .look condition => return ⟨look condition, 0, true⟩
  | .dot => return ⟨← dotPiece, 0, true⟩

/-- Repeats the last of the pieces, which are listed backwards. -/
def repeated (items : List Piece) (least : Nat) (most : Option Nat) : Reader (List Piece) := do
  match items with
  | p :: items =>
    require p.repeatable
    return ⟨times p.pattern least most, p.depth + 1, true⟩ :: items
  | [] => refuse

/-- A count: digits, with white space around them. -/
def count? : Reader (Option Nat) := do
  modify fun s => { s with rest := s.rest.dropWhile Text.isBlank }
  let ds ← takeSpaced isDigit (← fuel)
  let _ ← takeSpaced Text.isBlank (← fuel)
  if ds.isEmpty then return none
  else
    let n := natOfDigits ds
    require (n < Nat.pow 2 32)
    return some n

/-- Passes the sign of a repetition that takes as little as it can. -/
def lazily : Reader Unit := do
  if (← peek?) == some '?' then bump

/-- A repetition in braces, the opening one standing ahead. -/
def counted (items : List Piece) : Reader (List Piece) := do
  require (items.head?.any (·.repeatable))
  bumpSpace
  let least ← count?
  let (least, most) ←
    if (← peek) = ',' then do
      bumpSpace
      if (← peek) = '\x7d' then pure (← need least, none)
      else do
        let least ← need least
        let most ← need (← count?)
        pure (least, some most)
    else do
      let n ← need least
      pure (n, some n)
  require ((← peek?) == some '\x7d')
  bumpSpace
  lazily
  require (most.all (least ≤ ·))
  repeated items least most

/-- The name of a group up to its closing bracket. -/
def groupName : Reader Unit := do
  let s ← get
  let name := s.rest.takeWhile (· != '>')
  let rest := s.rest.dropWhile (· != '>')
  let letter := fun c : Char => Text.isAlphabetic .seventeenth c.toNat
  let number := fun c : Char =>
    ["Nd", "Nl", "No"].contains (Text.generalCategory .seventeenth c.toNat)
  let first := name.head?.any fun c => c == '_' || letter c
  let others := name.all fun c =>
    c == '_' || c == '.' || c == '[' || c == ']' || letter c || number c
  let text := String.ofList name
  require (!rest.isEmpty && first && others && !s.names.contains text)
  set { s with rest := rest.drop 1, names := text :: s.names }

/-- Sets a flag by its letter. -/
def setFlag (f : Flags) (c : Char) (value : Bool) : Flags :=
  match c with
  | 'i' => { f with ignoreCase := value }
  | 'm' => { f with multiLine := value }
  | 's' => { f with dotAll := value }
  | 'R' => { f with crlf := value }
  | 'u' => { f with unicode := value }
  | 'x' => { f with verbose := value }
  | _ => f

/-- Flags up to `:` or `)`: no letter twice, at most one `-`, and a letter after it. -/
def flagLetters (seen : List Char) (value : Bool) (f : Flags) :
    (fuel : Nat) → Reader (Flags × List Char)
  | 0 => refuse
  | fuel + 1 => do
    let c ← peek
    if c = ':' || c = ')' then
      require (seen.head? != some '-')
      return (f, seen)
    else
      require (!seen.contains c)
      bump
      if c = '-' then flagLetters (c :: seen) false f fuel
      else
        require (['i', 'm', 's', 'U', 'u', 'R', 'x'].contains c)
        flagLetters (c :: seen) value (setFlag f c value) fuel

/-- How a group begins. -/
inductive Opening where
  /-- A group that is kept apart. -/
  | capture
  | plain
  | directive

/-- What follows the opening bracket of a group; the flags come into force. -/
def opening : Reader Opening := do
  bumpSpace
  for look in ["?=", "?!", "?<=", "?<!"] do
    require !(look.toList.isPrefixOf (← get).rest)
  if ← bumpIf "?P<" then
    groupName
    return .capture
  else if ← bumpIf "?<" then
    groupName
    return .capture
  else if ← bumpIf "?" then
    let (f, seen) ← flagLetters [] true (← flags) (← fuel)
    let c ← peek
    bump
    setFlags f
    if c = ')' then
      require (!seen.isEmpty)
      return .directive
    else return .plain
  else return .capture

/-- Pieces in a row, listed backwards. -/
def sequenceOf (items : List Piece) : Piece :=
  match items with
  | [] => ⟨empty, 0, true⟩
  | [p] => p
  | items => ⟨ofSeq (items.reverse.map (·.pattern)), 1 + (items.map (·.depth)).foldl max 0, true⟩

mutual

/-- Choices up to a closing bracket or the end. -/
def choices : (fuel : Nat) → Reader Piece
  | 0 => refuse
  | fuel + 1 => do
    let first ← branch [] fuel
    if (← peek?) == some '|' then
      let (branches, depth) ← furtherChoices [first.pattern] first.depth fuel
      return ⟨ofAlt branches, depth + 1, true⟩
    else return first

/-- The choices after those read, which are listed backwards, and the greatest depth. -/
def furtherChoices (read : List Pattern) (depth : Nat) : (fuel : Nat) → Reader (List Pattern × Nat)
  | 0 => refuse
  | fuel + 1 => do
    if (← peek?) == some '|' then
      bump
      let p ← branch [] fuel
      furtherChoices (p.pattern :: read) (max depth p.depth) fuel
    else return (read.reverse, depth)

/-- Pieces in a row up to `|`, a closing bracket or the end. -/
def branch (items : List Piece) : (fuel : Nat) → Reader Piece
  | 0 => refuse
  | fuel + 1 => do
    space
    match ← peek? with
    | none | some ')' | some '|' => return sequenceOf items
    | some '(' => branch ((← group fuel) :: items) fuel
    | some '[' =>
      let a ← bracketSet fuel
      branch (⟨one a.set, a.depth, true⟩ :: items) fuel
    | some '*' => bump; lazily; branch (← repeated items 0 none) fuel
    | some '+' => bump; lazily; branch (← repeated items 1 none) fuel
    | some '?' => bump; lazily; branch (← repeated items 0 (some 1)) fuel
    | some '\x7b' => branch (← counted items) fuel
    | some _ => branch ((← primitive) :: items) fuel

/-- A group or a directive, the opening bracket standing ahead. -/
def group : (fuel : Nat) → Reader Piece
  | 0 => refuse
  | fuel + 1 => do
    let outer ← flags
    match ← opening with
    | .directive => return ⟨empty, 0, false⟩
    | kind =>
      let inner ← choices fuel
      require ((← peek?) == some ')')
      bump
      setFlags outer
      let pattern := match kind with
        | .capture => Pattern.group inner.pattern
        | _ => inner.pattern
      return ⟨pattern, inner.depth + 1, true⟩

end

end Reader

/-- The pattern that a text writes. -/
def parse? (text : String) : Option Pattern := do
  let start : Stand := ⟨text.toList, ⟨false, false, false, false, true, false⟩, []⟩
  let (p, s) ← Reader.choices (4 * text.length + 4) start
  if s.rest.isEmpty && p.depth ≤ depthLimit then some p.pattern else none

end Audience.Pattern
