import Audience.Fields
import Audience.Number.Extended

/-!
# TOML values

A TOML document is a table. Dates and times are kept as texts, in the form in which they are
written: `T` between date and time, `Z` for no offset.
-/

namespace Audience

/-- A TOML value. -/
inductive Toml where
  | boolean (value : Bool)
  | integer (value : Int)
  | float (value : Extended)
  | text (value : String)
  | moment (value : String)
  | array (items : List Toml)
  | table (fields : List (String × Toml))
deriving Repr, Inhabited

end Audience
