import Audience.Toml.Tree
import Audience.Toml.Word

/-!
# Reading TOML

`Toml.ofText?` reads a document, or nothing if the text is not TOML. A document is a sequence of
lines: a key with its value, a header that tells the table for the lines after it, or nothing; a
comment may end each. Lists and inline tables may go over several lines.
-/

namespace Audience.Toml

/-- A step through the characters of a document. -/
abbrev Reader := StateT (List Char) Option

namespace Reader

/-- The character ahead. -/
def peek? : Reader (Option Char) := do
  return (← get).head?

/-- Takes a character. -/
def next : Reader Char := do
  match ← get with
  | c :: cs => set cs; return c
  | [] => failure

/-- Takes the given characters if they stand ahead. -/
def takes (part : List Char) : Reader Bool := do
  let cs ← get
  if part.isPrefixOf cs then
    set (cs.drop part.length)
    return true
  else return false

/-- Takes the given characters, which must stand ahead. -/
def expect (part : List Char) : Reader Unit := do
  if !(← takes part) then failure

/-- Takes characters as long as they meet a condition. -/
def takeWhile (p : Char → Bool) : Reader (List Char) := do
  let cs ← get
  set (cs.dropWhile p)
  return cs.takeWhile p

/-! ## Blanks, lines and comments -/

/-- A blank within a line. -/
def isSpace (c : Char) : Bool :=
  c == ' ' || c == '\t'

/-- Passes blanks. -/
def spaces : Reader Unit := do
  let _ ← takeWhile isSpace

/-- A control character, which may stand nowhere; tabs and line ends are treated apart. -/
def isControl (c : Char) : Bool :=
  (c.toNat < 0x20 && c != '\t') || c == '\x7f'

/-- Takes the end of a line if it stands ahead. -/
def takesNewline : Reader Bool := do
  return (← takes ['\n']) || (← takes ['\r', '\n'])

/-- Passes a comment, if one stands ahead. -/
def comment : Reader Unit := do
  if ← takes ['#'] then
    let _ ← takeWhile (!isControl ·)

/-- Passes blanks, a comment, and the end of the line or of the text. -/
def endOfLine : Reader Unit := do
  spaces
  comment
  if (← peek?).isSome && !(← takesNewline) then failure

/-- Passes blanks, comments and line ends. -/
def gapFrom : (fuel : Nat) → Reader Unit
  | 0 => return
  | fuel + 1 => do
    spaces
    comment
    if ← takesNewline then gapFrom fuel

/-- Passes blanks, comments and line ends. -/
def gap : Reader Unit := do
  gapFrom ((← get).length + 1)

/-! ## Texts -/

/-- The character whose code has so many hexadecimal digits. -/
def codePoint (count : Nat) : Reader Char := do
  let cs ← get
  let ds := cs.take count
  let n := natOfDigitsIn 16 ds
  if ds.length = count ∧ ds.all (isDigitIn 16) ∧ n.isValidChar then
    set (cs.drop count)
    return Char.ofNat n
  else failure

/-- The character that an escape stands for, its backslash being taken. -/
def escape : Reader Char := do
  match ← next with
  | 'b' => return '\x08'
  | 't' => return '\t'
  | 'n' => return '\n'
  | 'f' => return '\x0c'
  | 'r' => return '\r'
  | 'e' => return '\x1b'
  | '"' => return '"'
  | '\\' => return '\\'
  | 'x' => codePoint 2
  | 'u' => codePoint 4
  | 'U' => codePoint 8
  | _ => failure

/-- The rest of a text on one line, up to its closing quote; within double quotes there are
escapes. -/
def lineFrom (quote : Char) : (fuel : Nat) → Reader (List Char)
  | 0 => failure
  | fuel + 1 => do
    let c ← next
    if c = quote then return []
    else if c = '\\' ∧ quote = '"' then return (← escape) :: (← lineFrom quote fuel)
    else if isControl c then failure
    else return c :: (← lineFrom quote fuel)

/-- Passes the line end after a backslash, and all blanks and line ends after that; tells whether
there was one. -/
def takesLineEnding : Reader Bool := do
  let cs ← get
  spaces
  if ← takesNewline then
    let _ ← takeWhile fun c => isSpace c || c == '\n' || c == '\r'
    return true
  else
    set cs
    return false

/-- The rest of a text over several lines. Up to two quotes may stand before the three that close
it. -/
def blockFrom (quote : Char) : (fuel : Nat) → Reader (List Char)
  | 0 => failure
  | fuel + 1 => do
    if ← takes [quote, quote, quote] then
      if ← takes [quote, quote] then return [quote, quote]
      else if ← takes [quote] then return [quote]
      else return []
    else if ← takesNewline then return '\n' :: (← blockFrom quote fuel)
    else
      let c ← next
      if c = '\\' ∧ quote = '"' then
        if ← takesLineEnding then blockFrom quote fuel
        else return (← escape) :: (← blockFrom quote fuel)
      else if isControl c then failure
      else return c :: (← blockFrom quote fuel)

/-- A text, whose first quote stands ahead; a line end right after three quotes is dropped. -/
def quotedText (quote : Char) : Reader String := do
  let fuel := (← get).length
  if ← takes [quote, quote, quote] then
    let _ ← takesNewline
    return String.ofList (← blockFrom quote fuel)
  else
    expect [quote]
    return String.ofList (← lineFrom quote fuel)

/-! ## Keys -/

/-- A character of a key without quotes. -/
def isKeyChar (c : Char) : Bool :=
  c.isAlphanum || c == '_' || c == '-'

/-- A key. -/
def simpleKey : Reader String := do
  match ← peek? with
  | some '"' => next *> return String.ofList (← lineFrom '"' (← get).length)
  | some '\'' => next *> return String.ofList (← lineFrom '\'' (← get).length)
  | _ =>
    let cs ← takeWhile isKeyChar
    if cs.isEmpty then failure else return String.ofList cs

/-- The keys after the first of a path: each has a dot before it. -/
def furtherKeys : (fuel : Nat) → Reader (List String)
  | 0 => return []
  | fuel + 1 => do
    spaces
    if ← takes ['.'] then
      spaces
      let key ← simpleKey
      return key :: (← furtherKeys fuel)
    else return []

/-- A path of keys: those before the last, and the last. -/
def path : Reader (List String × String) := do
  let first ← simpleKey
  let keys := first :: (← furtherKeys (← get).length)
  return (keys.dropLast, keys.getLastD first)

/-! ## Values -/

/-- A character of a word. -/
def isWordChar (c : Char) : Bool :=
  c.isAlphanum || ['_', '+', '-', '.', ':'].contains c

/-- A word; a date and a time may have a blank between them. -/
def word : Reader (List Char) := do
  let cs ← takeWhile isWordChar
  let rest ← get
  match afterDate? cs, rest with
  | some [], ' ' :: c :: _ =>
    if isDigit c then
      let _ ← next
      return cs ++ ' ' :: (← takeWhile isWordChar)
    else return cs
  | _, _ => return cs

mutual

/-- A value. -/
def value : (fuel : Nat) → Reader Toml
  | 0 => failure
  | fuel + 1 => do
    match ← peek? with
    | some '"' => return .text (← quotedText '"')
    | some '\'' => return .text (← quotedText '\'')
    | some '[' => next *> return .array (← items fuel)
    | some '\x7b' => next *> return .table (Tree.fieldValues (← members [] fuel))
    | _ =>
      match ofWord? (← word) with
      | some v => return v
      | none => failure

/-- The items of a list up to its end. -/
def items : (fuel : Nat) → Reader (List Toml)
  | 0 => failure
  | fuel + 1 => do
    gap
    if ← takes [']'] then return []
    let v ← value fuel
    gap
    if ← takes [','] then return v :: (← items fuel)
    expect [']']
    return [v]

/-- The keys and values of an inline table up to its end, put into a tree. -/
def members (tree : Tree) : (fuel : Nat) → Reader Tree
  | 0 => failure
  | fuel + 1 => do
    gap
    if ← takes ['\x7d'] then return tree
    let (keys, last) ← path
    spaces
    expect ['=']
    spaces
    let tree ← Tree.assign (← value fuel) last keys tree
    gap
    if ← takes [','] then members tree fuel
    else
      expect ['\x7d']
      return tree

end

/-! ## Documents -/

/-- A header: the tree with its table, and the path of the table. -/
def header (tree : Tree) : Reader (Tree × List String) := do
  let isList ← takes ['[', '[']
  if !isList then expect ['[']
  spaces
  let (keys, last) ← path
  spaces
  expect (if isList then [']', ']'] else [']'])
  let tree ← Tree.inside (if isList then Tree.extend last else Tree.define last) keys tree
  return (tree, keys ++ [last])

/-- A key and its value, put into the table that the last header named. -/
def assignment (tree : Tree) (current : List String) : Reader Tree := do
  let (keys, last) ← path
  spaces
  expect ['=']
  spaces
  let v ← value (← get).length
  Tree.inside (Tree.assign v last keys) current tree

/-- Reads lines into a tree. -/
def lines (tree : Tree) (current : List String) : (fuel : Nat) → Reader Tree
  | 0 => failure
  | fuel + 1 => do
    gap
    match ← peek? with
    | none => return tree
    | some '[' =>
      let (tree, current) ← header tree
      endOfLine
      lines tree current fuel
    | some _ =>
      let tree ← assignment tree current
      endOfLine
      lines tree current fuel

end Reader

/-- The table that a document describes. A mark of byte order at its start is passed. -/
def ofText? (text : String) : Option (Fields Toml) :=
  let cs :=
    match text.toList with
    | '\ufeff' :: cs => cs
    | cs => cs
  ((Reader.lines [] [] (cs.length + 1)).run cs).map fun p => Tree.fieldValues p.1

end Audience.Toml
