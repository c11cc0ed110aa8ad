import HostTools.Shell.Script

set_option autoImplicit false

namespace HostTools.Shell

inductive Mark where
  | letter (char : Char) (quoted : Bool)
  -- A quote: the field is there, even if it is empty.
  | present
  -- The end of an argument before another one.
  | between
  -- Here starts what is divided at separators, or only between arguments.
  | enter (arguments : Bool)
  | leave
deriving DecidableEq, Repr

namespace Mark

def characters (marks : List Mark) : List (Char × Bool) :=
  marks.filterMap fun mark =>
    match mark with
    | .letter char quoted => some (char, quoted)
    | _ => none

def text (marks : List Mark) : String := String.ofList ((characters marks).map (·.1))

def ofText (quoted : Bool) (text : String) : List Mark := text.toList.map (.letter · quoted)

def divided (marks : List Mark) : List Mark := .enter false :: marks ++ [.leave]

end Mark

abbrev Field := List (Char × Bool)

def Field.text (field : Field) : String := String.ofList (field.map (·.1))

structure Division where
  -- The fields and the characters of the next one, the last first.
  fields : List Field := []
  reversed : Field := []
  -- Whether the next field has started, with a character or a quote.
  started : Bool := false
  inside : Bool := false
  -- Whether the part that is divided, or the last one, holds arguments, and so for the one before.
  arguments : Bool := false
  afterArguments : Bool := false
  afterBlank : Bool := false
  -- How many fields there may still be.
  room : Option Nat := none
  -- How much of the last field is kept, if something at its end is not.
  kept : Option Nat := none

namespace Division

def add (division : Division) (char : Char) (quoted : Bool) : Division :=
  { division with reversed := (char, quoted) :: division.reversed, started := true }

def isBlank (char : Char) : Bool := char = ' ' || char = '\t' || char = '\n'

def finish (division : Division) : Division :=
  { division with
    fields := division.reversed.reverse :: division.fields, reversed := [], started := false }

-- Blank separators in a row count as one, and those at the ends count for nothing.
def separate (division : Division) (blank : Bool) (char : Option (Char × Bool)) : Division :=
  let division :=
    if division.afterArguments || division.arguments then division
    else { division with afterBlank := blank }
  if !division.started && division.afterBlank then { division with afterBlank := false }
  else
    match division.room, char with
    | some 1, some (char, quoted) =>
      { division.add char quoted with room := some 0, kept := some division.reversed.length }
    | some (room + 1), _ => { division.finish with room := some room }
    | _, _ => division.finish

def step (separators : List Char) (division : Division) (char : Option (Char × Bool)) : Division :=
  let separates := match char with
    | some (char, _) => !division.arguments && separators.contains char
    | none => true
  let blank := separates && (match char with
    | some (char, _) => isBlank char
    | none => true)
  let added := match char with
    | some (char, quoted) => division.add char quoted
    | none => division
  if division.room = some 0 then
    if blank then { added with kept := some (division.kept.getD division.reversed.length) }
    else
      { added with
        kept := if separates && division.afterBlank then division.kept else none
        afterBlank := false }
  else if division.afterBlank then
    if blank then { division with reversed := [], started := false }
    else if separates then { division with afterBlank := false }
    else { added with afterBlank := false }
  else if separates then division.separate blank char
  else { added with afterBlank := false }

def mark (separators : List Char) (division : Division) (mark : Mark) : Division :=
  match mark with
  | .enter arguments =>
    { division with
      inside := true
      arguments
      afterArguments := division.arguments
      afterBlank := false }
  | .leave => { division with inside := false }
  | .present => { division with started := true }
  | .between => division.step separators none
  | .letter char quoted =>
    if division.inside then division.step separators (some (char, quoted)) else division.add char quoted

def fieldsOf (separators : List Char) (room : Option Nat) (marks : List Mark) : List Field :=
  let last := marks.foldl (mark separators) { room }
  let last := match if last.arguments then none else last.kept with
    | some kept =>
      let reversed := last.reversed.drop (last.reversed.length - kept)
      { last with reversed, started := !reversed.isEmpty }
    | none => last
  (if last.started || last.arguments then last.finish else last).fields.reverse

end Division

end HostTools.Shell
