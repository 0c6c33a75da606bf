/-!
# Editions of the Unicode standard

Each edition of the Unicode standard assigns more characters. Patterns go by the sixteenth edition
and all other texts by the seventeenth, so a table that both need holds the former together with
what the latter changes.
-/

namespace Audience.Text

/-- An edition of the Unicode standard. -/
inductive Edition where
  | sixteenth
  | seventeenth
deriving DecidableEq, Repr

end Audience.Text
