import Audience.Pattern.Basic
import Audience.Pattern.Spelling

/-!
# Patterns made ready

A `Form` is a pattern made ready for being written out as states: characters are spelled out, pieces
without effect are gone, characters in a row are texts and choices between characters are sets.
`Form.ofPattern` gives the forms of the parts of a pattern that is a choice, and `Form.choice` joins
them.
-/

namespace Audience

/-- A pattern made ready for being written out. -/
inductive Form where
  | empty
  /-- A text, by its code points. -/
  | text (cs : List Nat)
  /-- A choice between texts. -/
  | texts (choices : List (List Nat))
  | set (spelling : Spelling)
  | look (condition : Look)
  | seq (a b : Form)
  /-- A choice, of which the second part may be a choice itself. -/
  | alt (a b : Form)
  | group (a : Form)
  | times (a : Form) (least : Nat) (most : Option Nat)

namespace Form

/-- Whether nothing but the empty text is described. -/
def isEmpty : Form → Bool
  | empty | look _ => true
  | text _ | texts _ | set _ => false
  | seq a b | alt a b => a.isEmpty && b.isEmpty
  | group a => a.isEmpty
  | times a _ _ => a.isEmpty

/-- Whether the empty text is not described, conditions on the place aside. -/
def isProper : Form → Bool
  | empty | look _ => false
  | text _ => true
  | texts _ => true
  | set s => !s.stretches.isEmpty
  | seq a b => a.isProper || b.isProper
  | alt a b => a.isProper && b.isProper
  | group a => a.isProper
  | times a least _ => least != 0 && a.isProper

/-- Whether a text can only be followed from its start or, backwards, from its end. -/
def isAnchored (backward : Bool) : Form → Bool
  | look condition => condition == if backward then .textEnd else .textStart
  | seq a b =>
    if backward then b.isAnchored backward || (b.isEmpty && a.isAnchored backward)
    else a.isAnchored backward || (a.isEmpty && b.isAnchored backward)
  | alt a b => a.isAnchored backward && b.isAnchored backward
  | group a => a.isAnchored backward
  | times a least _ => least != 0 && a.isAnchored backward
  | empty | text _ | texts _ | set _ => false

/-- The set of stretches; one character is a text. -/
def ofStretches : List Stretch → Form
  | [(first, last)] =>
    if first = last then text [first] else set (.ofStretches [(first, last)])
  | is => set (.ofStretches is)

/-- A text before a form, as one text with the one that it begins with. -/
def textBefore (cs : List Nat) : Form → Form
  | empty => text cs
  | text more => text (cs ++ more)
  | seq (text more) b => seq (text (cs ++ more)) b
  | b => seq (text cs) b

/-- Two forms in a row. -/
def andThen : Form → Form → Form
  | empty, b => b
  | text cs, b => textBefore cs b
  | seq a b, c => a.andThen (b.andThen c)
  | a, empty => a
  | a, b => seq a b

/-- The parts of a choice. -/
def parts : Form → List Form
  | alt a b => a :: b.parts
  | a => [a]

/-- The code points of a text. -/
def text? : Form → Option (List Nat)
  | text cs => some cs
  | _ => none

/-- The stretch of a text of one character. -/
def character? : Form → Option Stretch
  | text [c] => some (c, c)
  | _ => none

/-- The stretches of a set. -/
def stretches? : Form → Option (List Stretch)
  | set s => some s.stretches
  | _ => none

/-- A choice that is not simplified further. -/
def ofChoices : List Form → Form
  | [] => set (.ofStretches [])
  | [a] => a
  | a :: as => alt a (ofChoices as)

/-- A choice: single characters and sets make a set, and texts are kept together. -/
def choice (parts : List Form) : Form :=
  match parts.flatMap Form.parts with
  | [a] => a
  | parts =>
    match parts.mapM character? with
    | some is => ofStretches (Stretch.normalize is)
    | none =>
      match parts.mapM stretches? with
      | some is => ofStretches (Stretch.normalize is.flatten)
      | none =>
        match parts.mapM text? with
        | some choices => texts choices
        | none => ofChoices parts

/-- A repetition. What is empty counts once at most. -/
def repeated (a : Form) (least : Nat) (most : Option Nat) : Form :=
  let (least, most) :=
    if a.isEmpty then (min least 1, some (min (most.getD 1) 1)) else (least, most)
  if most = some 0 then empty
  else if least = 1 ∧ most = some 1 then a
  else times a least most

/-- The forms of the parts of a choice. -/
def ofPattern : Pattern → List Form
  | .empty => [empty]
  | .one characters => [ofStretches characters.stretches]
  | .look condition => [look condition]
  | .seq a b => [(choice (ofPattern a)).andThen (choice (ofPattern b))]
  | .alt a b => choice (ofPattern a) :: ofPattern b
  | .group a => [group (choice (ofPattern a))]
  | .times a least most => [(choice (ofPattern a)).repeated least most]

end Form

end Audience
