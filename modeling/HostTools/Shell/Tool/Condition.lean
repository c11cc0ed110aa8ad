import HostTools.Shell.FileTest
import HostTools.Shell.Tool.Quoting

set_option autoImplicit false

namespace HostTools.Shell.ToolCondition

def binaryOperators : List String :=
  ["=", "==", "!=", "-eq", "-ne", "-ge", "-gt", "-le", "-lt", "-nt", "-ot", "-ef"]

def isBinary (word : String) : Bool := binaryOperators.contains word

structure Reader where
  files : FileTest
  words : List String
  closing : Option String
  place : Nat := 0

abbrev Read := StateT Reader (Except String)

def word? (offset : Nat) : Read (Option String) := do
  let reader ← get
  pure (reader.words[reader.place + offset]?)

def left : Read Nat := do
  let reader ← get
  pure (reader.words.length - reader.place)

def skip (count : Nat) : Read Unit := modify fun reader => { reader with place := reader.place + count }

def beyond {α : Type} : Read α := do
  throw ("missing argument after " ++ Quoting.inMessage ((← get).words.getLastD ""))

def advance : Read Unit := do
  skip 1
  if (← left) = 0 then beyond

def number (word : String) : Read Int := do
  let isBlank (char : Char) : Bool := char = ' ' || ('\t' ≤ char && char ≤ '\r')
  let body := word.toList.dropWhile isBlank
  let (negative, digits) := match body with
    | '-' :: rest => (true, rest)
    | '+' :: rest => (false, rest)
    | _ => (false, body)
  let found := digits.takeWhile Char.isDigit
  match Digits.read? 10 found with
  | some value =>
    if (digits.drop found.length).all isBlank then pure (if negative then -(value : Int) else value)
    else throw ("invalid integer " ++ Quoting.inMessage word)
  | none => throw ("invalid integer " ++ Quoting.inMessage word)

def isDashed (word : String) : Bool :=
  match word.toList with
  | ['-', _] => true
  | _ => false

def fileLetters : List Char := "erwxNOGfdsScbpLhugk".toList

def unary (word : String) : Read Bool := do
  let letter := (word.toList[1]?).getD ' '
  if letter ≠ 'n' && letter ≠ 'z' && letter ≠ 't' && !fileLetters.contains letter then
    throw (Quoting.inMessage word ++ ": unary operator expected")
  advance
  let operand := (← word? 0).getD ""
  skip 1
  match letter with
  | 'n' => pure (!operand.isEmpty)
  | 'z' => pure operand.isEmpty
  | 't' =>
    let _ ← number operand
    pure false
  | _ => pure ((← get).files.holds letter operand)

-- The length of a text may stand for a number.
def binary (lengthFirst : Bool) : Read Bool := do
  if lengthFirst then skip 1
  let first := (← word? 0).getD ""
  let operator := (← word? 1).getD ""
  let lengthSecond := 3 < (← left) && (← word? 2) = some "-l"
  if lengthSecond then skip 1
  let second := (← word? 2).getD ""
  skip 3
  let sized := lengthFirst || lengthSecond
  match operator with
  | "=" => pure (first = second)
  | "==" => pure (first = second)
  | "!=" => pure (first ≠ second)
  | "-nt" => if sized then throw "-nt does not accept -l" else pure false
  | "-ot" => if sized then throw "-ot does not accept -l" else pure false
  | "-ef" =>
    if sized then throw "-ef does not accept -l" else pure ((← get).files.same first second)
  | _ =>
    let a : Int ← (if lengthFirst then pure (first.length : Int) else number first)
    let b : Int ← (if lengthSecond then pure (second.length : Int) else number second)
    pure (match operator with
      | "-eq" => a = b
      | "-ne" => a ≠ b
      | "-lt" => a < b
      | "-le" => a ≤ b
      | "-gt" => b < a
      | _ => b ≤ a)

def one : Read Bool := do
  let word := (← word? 0).getD ""
  skip 1
  pure (!word.isEmpty)

def two : Read Bool := do
  let word := (← word? 0).getD ""
  if word = "!" then
    skip 1
    pure (!(← one))
  else if isDashed word then unary word
  else beyond

mutual

def disjunction : Nat → Read Bool
  | 0 => pure false
  | fuel + 1 => do
    let holds ← conjunction fuel
    if (← word? 0) = some "-o" then
      skip 1
      let other ← disjunction fuel
      pure (holds || other)
    else pure holds

def conjunction : Nat → Read Bool
  | 0 => pure false
  | fuel + 1 => do
    let holds ← term fuel
    if (← word? 0) = some "-a" then
      skip 1
      let other ← conjunction fuel
      pure (holds && other)
    else pure holds

def term : Nat → Read Bool
  | 0 => pure false
  | fuel + 1 => do
    match ← word? 0 with
    | none => beyond
    | some "!" =>
      advance
      pure (!(← term fuel))
    | some "(" =>
      advance
      let reader ← get
      let rest := reader.words.drop reader.place
      let near := (rest.drop 1).takeWhile (· ≠ ")")
      let count := if 3 < near.length then rest.length else near.length + 1
      let holds ← counted fuel count
      match ← word? 0 with
      | some ")" =>
        skip 1
        pure holds
      | found =>
        match found.or reader.closing with
        | some word => throw ("')' expected, found " ++ Quoting.inMessage word)
        | none => throw "')' expected"
    | some word =>
      let count ← left
      let isBinaryAt (offset : Nat) : Read Bool := do pure ((← word? offset).any isBinary)
      let sized ← (if 4 ≤ count && word = "-l" then isBinaryAt 2 else pure false)
      let dyadic ← (if 3 ≤ count then isBinaryAt 1 else pure false)
      if sized then binary true
      else if dyadic then binary false
      else if isDashed word then unary word
      else one

-- How a condition of few words is read hangs on their number.
def counted : Nat → Nat → Read Bool
  | 0, _ => pure false
  | fuel + 1, count => do
    let first := (← word? 0).getD ""
    let three : Read Bool := do
      let first := (← word? 0).getD ""
      let middle := (← word? 1).getD ""
      if isBinary middle then binary false
      else if first = "!" then
        advance
        pure (!(← two))
      else if first = "(" && (← word? 2) = some ")" then
        skip 1
        let holds ← one
        skip 1
        pure holds
      else if middle = "-a" || middle = "-o" then disjunction fuel
      else throw (Quoting.inMessage middle ++ ": binary operator expected")
    match count with
    | 1 => one
    | 2 => two
    | 3 => three
    | 4 =>
      if first = "!" then
        advance
        pure (!(← three))
      else if first = "(" && (← word? 3) = some ")" then
        skip 1
        let holds ← two
        skip 1
        pure holds
      else disjunction fuel
    | _ => disjunction fuel

end

def holds (files : FileTest) (closing : Option String) (words : List String) : Except String Bool :=
  if words.isEmpty then .ok false
  else
    match (counted (4 * words.length + 8) words.length).run { files, words, closing } with
    | .error reason => .error reason
    | .ok (holds, reader) =>
      match reader.words[reader.place]? with
      | some extra => .error ("extra argument " ++ Quoting.inMessage extra)
      | none => .ok holds

def command (files : FileTest) (bracket : Bool) (args : List String) : Except String Bool :=
  if !bracket then holds files none args
  else if args.getLast? = some "]" then holds files (some "]") args.dropLast
  else .error "missing ']'"

end HostTools.Shell.ToolCondition
