import Audience.Json.Reader
import Audience.Settings.Error
import Audience.Settings.Key
import Audience.Toml.Reader

/-!
# Forms of settings files

A settings file is written in some form, such as TOML or JSON. The ending of its name tells which
(`FileForm.ofPath?`), and the form tells how its text is read. `FileForm.known` lists the forms that
a file may have; those that are not read here are listed too, since their files are found.
-/

namespace Audience.Settings

/-! ## Values of files as settings -/

mutual

/-- A TOML value as settings of the given origin. -/
def Tree.ofToml (origin : String) : Toml → Tree
  | .boolean b => .scalar (some origin) (.boolean b)
  | .integer i => .scalar (some origin) (.integer i)
  | .float x => .scalar (some origin) (.float x)
  | .text s => .scalar (some origin) (.text s)
  | .moment s => .scalar (some origin) (.text s)
  | .array items => .list (some origin) (Tree.ofTomlItems origin items)
  | .table fields => .table (some origin) (Tree.ofTomlFields origin fields)

/-- TOML items as settings. -/
def Tree.ofTomlItems (origin : String) : List Toml → List Tree
  | [] => []
  | v :: items => Tree.ofToml origin v :: Tree.ofTomlItems origin items

/-- TOML fields as settings. -/
def Tree.ofTomlFields (origin : String) : List (String × Toml) → List (String × Tree)
  | [] => []
  | (key, v) :: fields => (key, Tree.ofToml origin v) :: Tree.ofTomlFields origin fields

end

/-- A number of a JSON value. A whole number beyond 64 bits is rounded. -/
def Scalar.ofNumber : Number → Scalar
  | .integer i => if fitsSigned 64 i then .integer i else .float (.finite (Binary64.ofInt i))
  | .float x => .float (.finite x)

mutual

/-- A JSON value as settings of the given origin. -/
def Tree.ofJson (origin : String) : Json → Tree
  | .null => .absent (some origin)
  | .boolean b => .scalar (some origin) (.boolean b)
  | .number x => .scalar (some origin) (.ofNumber x)
  | .string s => .scalar (some origin) (.text s)
  | .array items => .list (some origin) (Tree.ofJsonItems origin items)
  | .object fields => .table (some origin) (Tree.ofJsonFields origin fields)

/-- JSON items as settings. -/
def Tree.ofJsonItems (origin : String) : List Json → List Tree
  | [] => []
  | v :: items => Tree.ofJson origin v :: Tree.ofJsonItems origin items

/-- JSON fields as settings. -/
def Tree.ofJsonFields (origin : String) : List (String × Json) → List (String × Tree)
  | [] => []
  | (key, v) :: fields => (key, Tree.ofJson origin v) :: Tree.ofJsonFields origin fields

end

/-! ## Forms -/

/-- A form of settings files: the ending of their names, after a dot, and how the entries of a text
are read as settings of the given origin. -/
structure FileForm where
  ending : String
  read? (origin text : String) : Option (List (String × Tree))

namespace FileForm

/-- The form TOML. -/
def toml : FileForm where
  ending := "toml"
  read? origin text := (Toml.ofText? text).map (Tree.ofTomlFields origin)

/-- The form JSON. A mark of byte order at the start of a text is passed. -/
def json : FileForm where
  ending := "json"
  read? origin text := do
    let cs := match text.toList with | '\ufeff' :: cs => cs | cs => cs
    let j ← (Json.ofText? (String.ofList cs)).toOption
    return Tree.ofJsonFields origin (← j.fields?)

/-- A form of which no text is read. -/
def unread (ending : String) : FileForm where
  ending := ending
  read? _ _ := none

/-- The forms that a settings file may have. -/
def known : List FileForm :=
  [toml, json, unread "yaml", unread "yml", unread "ini", unread "ron", unread "json5"]

/-- The layer of a file's text: its entries, whose names are taken as keys. -/
def layer (form : FileForm) (origin text : String) : Except Error Tree.Layer :=
  match form.read? origin text with
  | none => .error (.notToml origin)
  | some entries => .ok (entries.map fun (name, t) => (Key.ofText name, t))

/-- The ending of a path: what follows the last dot of the last name, unless it begins the name. -/
def endingOf? (path : String) : Option String :=
  let name := path.toList.reverse.takeWhile (· ≠ '/')
  match name.dropWhile (· ≠ '.') with
  | _ :: _ :: _ => some (String.ofList (name.takeWhile (· ≠ '.')).reverse)
  | _ => none

/-- The form that the ending of a path tells. -/
def ofPath? (forms : List FileForm) (path : String) : Option FileForm :=
  (endingOf? path).bind fun ending => forms.find? fun form => form.ending == ending

end FileForm

end Audience.Settings
