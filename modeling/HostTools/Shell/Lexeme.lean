import HostTools.Shell.Name
import HostTools.Shell.Source

set_option autoImplicit false

namespace HostTools.Shell

def singleQuote : Char := Char.ofNat 39

def backQuote : Char := Char.ofNat 96

inductive Substitution where
  | value
  | length
  | fallback (kind : Fallback) (orEmpty : Bool)
  | trim (fromEnd longest : Bool)
  | unreadable
deriving DecidableEq, Repr

-- A row of codes tells where quotes, parameters and expressions start and end. It is then put
-- together to the pieces of a word.
inductive Code where
  | letter (char : Char)
  | escaped (char : Char)
  | quote
  -- A parameter that is not replaced by its value alone goes on to where it is closed.
  | parameter (substitution : Substitution) (name : String)
  | closeParameter
  | arithmetic
  | closeArithmetic
  | output (body : Script)

namespace Code

-- Between quotes the arguments alone are no word if there are none.
def assemble : Nat → Bool → List Code → Word × List Code
  | 0, _, rest => ([], rest)
  | fuel + 1, quoted, codes =>
    let onward (piece : Piece) (quoted : Bool) (rest : List Code) : Word × List Code :=
      let (more, rest) := assemble fuel quoted rest
      (piece :: more, rest)
    match codes with
    | [] => ([], [])
    | .closeParameter :: rest => ([], rest)
    | .closeArithmetic :: rest => ([], rest)
    | .letter char :: rest => onward (if quoted then .quoted char else .plain char) quoted rest
    | .escaped char :: rest => onward (.quoted char) quoted rest
    | .quote :: rest =>
      match if quoted then [] else rest with
      | .parameter .value "@" :: .quote :: rest => onward (.value true "@") false rest
      | _ => onward .present (!quoted) rest
    | .output body :: rest => onward (.output quoted body) quoted rest
    | .arithmetic :: rest =>
      let (expression, rest) := assemble fuel false rest
      onward (.arithmetic quoted expression) quoted rest
    | .parameter .value name :: rest => onward (.value quoted name) quoted rest
    | .parameter substitution name :: rest =>
      let (word, rest) := assemble fuel false rest
      let piece : Piece := match substitution with
        | .value => .value quoted name
        | .length => .length quoted name
        | .fallback kind orEmpty => .fallback quoted name kind orEmpty word
        | .trim fromEnd longest => .trim quoted name fromEnd longest word
        | .unreadable => .unreadable quoted
      onward piece quoted rest

def toWord (codes : List Code) : Word := (assemble (codes.length + 1) false codes).1

end Code

inductive Mode where
  | base
  | double
  | single
  | arithmetic
deriving DecidableEq, Repr

inductive Role where
  | letter
  -- A character that patterns and tildes give a meaning.
  | guarded
  | newline
  | backslash
  | openSingle
  | openDouble
  | closeQuote
  | backQuote
  | dollar
  | closeBrace
  | openParenthesis
  | closeParenthesis
  | separator
deriving DecidableEq, Repr

def Role.common (char : Char) (other : Role) : Role :=
  match char with
  | '\n' => .newline
  | '\\' => .backslash
  | '$' => .dollar
  | '\x7d' => .closeBrace
  | _ => if char = Shell.backQuote then .backQuote else other

def Role.isGuarded (char : Char) : Bool := "!*?[=~:/-]".toList.contains char

def Role.of (mode : Mode) (char : Char) : Role :=
  match mode with
  | .single =>
    if char = '\n' then .newline
    else if char = singleQuote then .closeQuote
    else if Role.isGuarded char || char = '\\' then .guarded
    else .letter
  | .double =>
    Role.common char
      (if char = '"' then .closeQuote else if Role.isGuarded char then .guarded else .letter)
  | .arithmetic =>
    Role.common char
      (if char = '(' then .openParenthesis else if char = ')' then .closeParenthesis else .letter)
  | .base =>
    Role.common char
      (if char = singleQuote then .openSingle
      else if char = '"' then .openDouble
      else if " \t;&|<>()".toList.contains char then .separator
      else .letter)

structure Nest where
  mode : Mode
  double : Bool := false
  -- Whether a quote inside of braces is open.
  inner : Bool := false
  -- Whether the part ends with the last of its braces.
  braced : Bool := false
  braces : Nat := 0
  -- The braces that were opened between double quotes.
  quotedBraces : Nat := 0
  parentheses : Nat := 0
deriving DecidableEq, Repr

structure Building where
  -- The last first.
  codes : List Code := []
  nest : Nest
  outer : List Nest := []
  quoted : Bool := false
  document : Option Pending := none

namespace Building

def push (building : Building) (code : Code) : Building :=
  { building with codes := code :: building.codes }

def enter (building : Building) (nest : Nest) : Building :=
  { building with nest, outer := building.nest :: building.outer }

def leave (building : Building) : Building :=
  match building.outer with
  | nest :: outer => { building with nest, outer }
  | [] => building

-- A document has no quotes of its own.
def mark (building : Building) : Building :=
  if building.document.isSome then building else building.push .quote

def toggle (building : Building) : Building :=
  let nest := building.nest
  let nest := if nest.braces ≠ 0 then { nest with inner := !nest.inner } else nest
  { building with nest }.mark

def closeQuote (building : Building) (char : Char) : Building :=
  if building.document.isSome && building.nest.braces = 0 then building.push (.letter char)
  else
    let nest := building.nest
    let nest := if nest.quotedBraces = 0 then { nest with mode := .base, double := false } else nest
    let building := { building with nest, quoted := true }
    if char = '"' then building.toggle else building.mark

def closeBrace (building : Building) : Building :=
  let nest := building.nest
  if nest.inner || nest.braces = 0 then building.push (.letter '\x7d')
  else
    let nest := { nest with braces := nest.braces - 1 }
    let building := { building with nest }
    let building :=
      if nest.braces = 0 && nest.braced then building.leave
      else { building with nest := { nest with quotedBraces := nest.quotedBraces - 1 } }
    building.push .closeParameter

def escape (building : Building) (char : Char) : Building :=
  let nest := building.nest
  let kept := nest.double && char ≠ '\\' && char ≠ backQuote && char ≠ '$' &&
    (char ≠ '"' || (building.document.isSome && nest.braces = 0)) &&
    (char ≠ '\x7d' || nest.braces = 0)
  let building := if kept then building.push (.escaped '\\') else building
  { building.push (.escaped char) with quoted := true }

-- What follows a colon, a sign or a mark of length belongs to the parameter up to a closing brace.
def parameter (building : Building) (substitution : Substitution) (name : String) : Building :=
  let building := building.push (.parameter substitution name)
  if substitution = .value then building
  else
    let mode := match substitution, building.nest.mode with
      | .trim _ _, _ => .base
      | _, .arithmetic => .double
      | _, mode => mode
    let building :=
      if mode ≠ building.nest.mode || building.nest.inner then
        building.enter { mode, braced := true, double := mode ≠ .base }
      else building
    let nest := { building.nest with braces := building.nest.braces + 1 }
    { building with
      nest := if nest.double then { nest with quotedBraces := nest.quotedBraces + 1 } else nest }

end Building

end HostTools.Shell
