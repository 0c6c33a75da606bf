import Audience.Number.Decimal
import Audience.Text.Blank
import Audience.Text.Case
import Audience.Text.Category
import Audience.Text.Letter

/-!
# Log filters

A log filter is a list of directives between commas. A directive names a level, in any letter case
or by its number, or a target of the log, which may have a span in brackets and a level after an
equals sign; without one the target is told of everything. `LogFilter.choose` takes the filter asked
for if it is valid, else the one that was set, else the level `info`.
-/

namespace Audience.LogFilter

/-- The levels from the quietest to the loudest, numbered from zero. -/
def levels : List String := ["off", "error", "warn", "info", "debug", "trace"]

/-- The level that a text names. -/
def level? (s : String) : Option String :=
  match levels.find? (Text.equalIgnoringAsciiCase s) with
  | some level => some level
  | none =>
    if s.startsWith "-" then none
    else (intOfChars? s.toList).bind fun i => levels[i.toNat]?

/-- What a directive tells of and from which level on. -/
structure Directive where
  target : String
  /-- The span in its brackets, if there is one. -/
  span : String
  level : String
deriving DecidableEq, Repr

namespace Directive

/-- A directive as it is shown. -/
def text (d : Directive) : String :=
  let subject := d.target ++ d.span
  if subject = "" then d.level else subject ++ "=" ++ d.level

/-- A character that a directive may begin with. -/
def mayBegin (c : Char) : Bool :=
  Text.isAlphabetic .seventeenth c.toNat ||
    ["Nd", "Nl", "No"].contains (Text.generalCategory .seventeenth c.toNat) ||
    ['-', ':', '_', '['].contains c

/-- What follows the bracket that closes a span. Fields, of which none is empty, may stand in braces
at its end. -/
def afterSpan? (cs : List Char) : Option (List Char) :=
  match cs.dropWhile fun c => c ≠ ']' && c ≠ '\x7b' with
  | ']' :: rest => some rest
  | '\x7b' :: cs =>
    if cs.head? = some '\x7d' then none
    else
      match cs.dropWhile (· ≠ '\x7d') with
      | '\x7d' :: ']' :: rest => some rest
      | _ => none
  | _ => none

/-- The level that follows a target: everything if there is none. -/
def levelAfter? : List Char → Option String
  | [] | ['='] => some "trace"
  | '=' :: cs => level? (String.ofList cs)
  | _ => none

/-- The directive that a text writes. -/
def ofText? (s : String) : Option Directive :=
  let cs := s.toList
  if !cs.head?.any mayBegin then none
  else
    match level? s with
    | some level => some ⟨"", "", level⟩
    | none => do
      let target := cs.takeWhile fun c => c ≠ '=' && c ≠ '['
      let rest := cs.drop target.length
      let after ← if rest.head? = some '[' then afterSpan? (rest.drop 1) else some rest
      let level ← levelAfter? after
      return ⟨String.ofList target, String.ofList (rest.take (rest.length - after.length)), level⟩

/-- Whether a directive goes before another: those without a span go first, and then those with the
longer target. -/
def goesBefore (a b : Directive) : Bool :=
  if (a.span = "") = (b.span = "") then
    if a.target.utf8ByteSize = b.target.utf8ByteSize then b.target ≤ a.target
    else b.target.utf8ByteSize < a.target.utf8ByteSize
  else a.span = ""

/-- Directives with one more, which takes the place of one for the same. -/
def addTo (ds : List Directive) (d : Directive) : List Directive :=
  ds.filter (fun e => e.target ≠ d.target || e.span ≠ d.span) ++ [d]

end Directive

/-- The filter that a text writes, as it is shown. -/
def ofText? (s : String) : Option String := do
  let parts := (s.toList.splitOn ',').filter (!·.isEmpty)
  let directives ← parts.mapM fun cs => Directive.ofText? (String.ofList (Text.trimChars cs))
  let kept := (directives.foldl Directive.addTo []).mergeSort Directive.goesBefore
  return ",".intercalate (kept.map (·.text))

/-- The filter to be used, given the one asked for and the level that was set. -/
def choose (asked : Option String) (level : String) : String :=
  ((asked.bind ofText?).or (ofText? level)).getD "info"

end Audience.LogFilter
