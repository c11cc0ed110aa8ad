import HostTools.Log.Event
import HostTools.Log.ValuePattern
import HostTools.Text.Alphanumeric
import HostTools.Text.Pieces
import HostTools.Text.Utf8

set_option autoImplicit false

namespace HostTools

-- `speaker[span{field}]=level`. There are no spans here, so a directive that names one, or asks for
-- the value of a field, lets nothing pass. Of the directives that are about an event the most
-- specific one decides.
structure Directive where
  start? : Option String := none
  span? : Option String := none
  -- Each field with whether its value is asked for too.
  fields : List (String × Bool) := []
  rank : Nat := Level.trace.rank
deriving DecidableEq, Repr

namespace Directive

-- Rank 0 is for no events at all.
def rank? (name : String) : Option Nat :=
  match ["off", "error", "warn", "info", "debug", "trace"].findIdx? (· = name.map Char.toLower) with
  | some rank => some rank
  | none =>
    let digits := match name.toList with
      | '+' :: rest => rest
      | all => all
    (Digits.read? 10 digits).filter (· ≤ 5)

def isStart (char : Char) : Bool :=
  Alphanumeric.isAlphanumeric char || char = '-' || char = ':' || char = '_'

def isBlank (char : Char) : Bool :=
  let number := char.toNat
  (0x09 ≤ number && number ≤ 0x0d) || number = 0x20 || number = 0x85 || number = 0xa0 ||
    number = 0x1680 || (0x2000 ≤ number && number ≤ 0x200a) || number = 0x2028 ||
    number = 0x2029 || number = 0x202f || number = 0x205f || number = 0x3000

-- Where the part began is counted in octets.
inductive Part where
  | start
  | name (first : Nat)
  | span (first : Nat)
  | field (first : Nat)
  | fields
  | scope
  | level (first : Nat)
deriving DecidableEq, Repr

def slice (text : Bytes) (first last : Nat) : String :=
  Utf8.lossy ((text.take last).drop first)

def field? (text : String) : Option (String × Bool) :=
  match Pieces.split '=' text.toList with
  | [] | [[]] => none
  | [name] => some (String.ofList name, false)
  | name :: value :: _ =>
    if ValuePattern.isValid value then some (String.ofList name, true) else none

def step (text : Bytes) (directive : Directive) (part : Part) (place : Nat) (char : Char) :
    Option (Directive × Part) :=
  match part with
  | .start =>
    if char = '[' then some (directive, .span (place + 1))
    else if isStart char then some (directive, .name place)
    else none
  | .name first =>
    if char = '=' then
      some ({ directive with start? := some (slice text first place) }, .level (place + 1))
    else if char = '[' then
      some ({ directive with start? := some (slice text first place) }, .span (place + 1))
    else some (directive, part)
  | .span first =>
    if char = ']' then some ({ directive with span? := some (slice text first place) }, .scope)
    else if char = '\x7b' then
      let name := slice text first place
      some ({ directive with span? := if name.isEmpty then none else some name }, .field (place + 1))
    else some (directive, part)
  | .field first =>
    if char = '\x7d' then
      (field? (slice text first place)).map fun field =>
        ({ directive with fields := directive.fields ++ [field] }, .fields)
    else some (directive, part)
  | .fields => if char = ']' then some (directive, .scope) else none
  | .scope => if char = '=' then some (directive, .level (place + 1)) else none
  | .level _ => some (directive, part)

def readFrom (text : Bytes) : Directive → Part → Nat → List Char → Option (Directive × Part)
  | directive, part, _, [] => some (directive, part)
  | directive, part, place, char :: rest =>
    match step text directive part place char with
    | some (directive, part) => readFrom text directive part (place + char.utf8Size) rest
    | none => none

-- The parts are counted off in the text without the blanks at its ends, and then taken from the
-- text as it is.
def parse? (text : List Char) : Option Directive :=
  let octets := Bytes.ofChars text
  let trimmed := ((text.dropWhile isBlank).reverse.dropWhile isBlank).reverse
  match readFrom octets {} .start 0 trimmed with
  | some (directive, .name first) =>
    let name := slice octets first octets.length
    match rank? name with
    | some rank => some { directive with rank }
    | none => some { directive with start? := some name }
  | some (directive, .level first) =>
    let level := slice octets first octets.length
    if level.isEmpty then some directive
    else (rank? level).map fun rank => { directive with rank }
  | some (directive, .scope) => some directive
  | _ => none

def isAboutEvents (directive : Directive) : Bool :=
  directive.span?.isNone && directive.fields.all fun (_, hasValue) => !hasValue

def covers (directive : Directive) (event : Event) : Bool :=
  directive.isAboutEvents &&
    (directive.start?.all fun start => start.toList.isPrefixOf event.speaker.toList) &&
    (directive.fields.all fun (name, _) => event.names.contains name)

def weight (directive : Directive) : Nat × Nat :=
  (match directive.start? with
    | some start => start.utf8ByteSize + 1
    | none => 0,
    directive.fields.length)

def precedes (directive other : Directive) : Bool :=
  let (size, count) := directive.weight
  let (otherSize, otherCount) := other.weight
  otherSize < size || (otherSize = size && (otherCount < count || (otherCount = count &&
    !((directive.fields.map (·.1)).lex (other.fields.map (·.1))))))

end Directive

abbrev LogFilter := List Directive

namespace LogFilter

-- A text without directives lets errors pass.
def ofText? (text : String) : Option LogFilter :=
  match ((Pieces.split ',' text.toList).filter (· ≠ [])).mapM Directive.parse? with
  | some [] => some [{ rank := Level.error.rank }]
  | found => found

def standard : LogFilter := [{ start? := some "hostkit", rank := Level.warn.rank }]

def ofVariable (value : Option String) : LogFilter := (value.bind ofText?).getD standard

def directive? (filter : LogFilter) (event : Event) : Option Directive :=
  (filter.filter (·.covers event)).foldl
    (fun best directive =>
      match best with
      | some held => if directive.precedes held then some directive else best
      | none => some directive)
    none

def passes (filter : LogFilter) (event : Event) : Bool :=
  match filter.directive? event with
  | some directive => event.level.rank ≤ directive.rank
  | none => false

end LogFilter

end HostTools
