import Audience.Text.Age
import Audience.Text.Break
import Audience.Text.Category
import Audience.Text.Script

/-!
# Features of characters

A feature gives every code point one of a few values, such as its general category or its script.
`Feature.value` is the value at a code point, and `Feature.values?` lists the values that a name
stands for: the name of a group covers several categories, and an age covers those before it.
-/

namespace Audience.Text

/-- What is known of every character by a value of its own. -/
inductive Feature where
  | category
  | script
  | age
  | graphemeBreak
  | wordBreak
  | sentenceBreak
deriving DecidableEq, Repr

namespace Feature

/-- All features. -/
def all : List Feature :=
  [category, script, age, graphemeBreak, wordBreak, sentenceBreak]

/-- The short and the long name of a feature, without separators and in lower case. -/
def names : Feature → List String
  | category => ["gc", "generalcategory"]
  | script => ["sc", "script"]
  | age => ["age"]
  | graphemeBreak => ["gcb", "graphemeclusterbreak"]
  | wordBreak => ["wb", "wordbreak"]
  | sentenceBreak => ["sb", "sentencebreak"]

/-- The feature that a normalised name stands for. -/
def ofName? (name : String) : Option Feature :=
  all.find? (·.names.contains name)

/-- The values of a feature at all code points. -/
def table : Feature → Table String
  | category => categoryTable
  | script => scriptTable
  | age => ageTable
  | graphemeBreak => graphemeBreakTable
  | wordBreak => wordBreakTable
  | sentenceBreak => sentenceBreakTable

/-- The value of a feature at a code point. -/
def value (f : Feature) (n : Nat) : String :=
  (f.table.value? n).getD ""

/-- The entry under which a name is listed. -/
def listed? (entries : List (String × List String)) (name : String) : Option (List String) :=
  (entries.find? (·.2.contains name)).map fun entry => [entry.1]

/-- The values that a normalised name stands for. -/
def values? (f : Feature) (name : String) : Option (List String) :=
  match f with
  | category => categoryMembers? name
  | script => listed? scriptNames name
  | age => agesUpTo? name
  | graphemeBreak => listed? graphemeBreakNames name
  | wordBreak => listed? wordBreakNames name
  | sentenceBreak => listed? sentenceBreakNames name

end Feature

end Audience.Text
