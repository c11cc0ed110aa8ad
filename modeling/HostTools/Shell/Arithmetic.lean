import HostTools.Shell.Name
import HostTools.Text.Digits

set_option autoImplicit false

namespace HostTools.Shell.Arithmetic

def wrap (value : Int) : Int := value.bmod (Nat.pow 2 64)

def ofBool (value : Bool) : Int := if value then 1 else 0

def digits (base : Nat) (value : Nat) : List Char → Nat × List Char
  | [] => (value, [])
  | char :: rest =>
    match Digits.inBase? base char with
    | some digit => digits base (value * base + digit) rest
    | none => (value, char :: rest)

def clamp (value : Int) : Int :=
  let limit : Int := Nat.pow 2 63
  if value < -limit then -limit else if limit ≤ value then limit - 1 else value

def numeral : List Char → Nat × List Char
  | '0' :: x :: char :: rest =>
    if (x = 'x' || x = 'X') && (Digits.inBase? 16 char).isSome then digits 16 0 (char :: rest)
    else digits 8 0 ('0' :: x :: char :: rest)
  | '0' :: rest => digits 8 0 ('0' :: rest)
  | text => digits 10 0 text

def isSpace (char : Char) : Bool := char = ' ' || ('\t' ≤ char && char ≤ '\r')

def signed (decimal : Bool) (text : List Char) : Int × List Char × Bool :=
  let body := text.dropWhile isSpace
  let (negative, body) := match body with
    | '-' :: rest => (true, rest)
    | '+' :: rest => (false, rest)
    | _ => (false, body)
  match body with
  | [] => (0, text, false)
  | char :: _ =>
    if !char.isDigit then (0, text, false)
    else
      let (value, rest) := if decimal then digits 10 0 body else numeral body
      (if negative then -(value : Int) else value, rest, true)

-- Blanks may stand around the number; nothing at all is zero, except in base ten.
def ofText? (decimal : Bool) (text : String) : Option Int :=
  let (value, rest, isThere) := signed decimal text.toList
  if clamp value ≠ value || (decimal && !isThere) || !rest.all isSpace then none else some value

inductive Lexeme where
  | number (value : Int)
  | name (text : String)
  | operator (text : String)
  | finish
  | unknown
deriving DecidableEq, Repr

-- Longer ones before their beginnings.
def operators : List String :=
  ["<<=", ">>=", "<<", ">>", "<=", ">=", "==", "!=", "&&", "||", "*=", "/=", "%=", "+=", "-=", "&=",
    "^=", "|=", "*", "/", "%", "+", "-", "<", ">", "&", "^", "|", "=", "!", "~", "?", ":", "(", ")"]

def looseness? : String → Option Nat
  | "*" => some 0
  | "/" => some 0
  | "%" => some 0
  | "+" => some 1
  | "-" => some 1
  | "<<" => some 2
  | ">>" => some 2
  | "<" => some 3
  | "<=" => some 3
  | ">" => some 3
  | ">=" => some 3
  | "==" => some 4
  | "!=" => some 4
  | "&" => some 5
  | "^" => some 6
  | "|" => some 7
  | _ => none

def assigning? : String → Option (Option String)
  | "=" => some none
  | "<<=" => some (some "<<")
  | ">>=" => some (some ">>")
  | "*=" => some (some "*")
  | "/=" => some (some "/")
  | "%=" => some (some "%")
  | "+=" => some (some "+")
  | "-=" => some (some "-")
  | "&=" => some (some "&")
  | "^=" => some (some "^")
  | "|=" => some (some "|")
  | _ => none

inductive Failure where
  | form (text : String)
  | notNumber (text : String)
  -- The quotient of the least number and minus one.
  | overflow
deriving DecidableEq, Repr

def apply (operator : String) (left right : Int) : Except Failure Int :=
  let least : Int := -(Nat.pow 2 63 : Nat)
  match operator with
  | "*" => .ok (wrap (left * right))
  | "/" =>
    if right = 0 then .error (.form "division by zero")
    else if left = least ∧ right = -1 then .error .overflow
    else .ok (left.tdiv right)
  | "%" =>
    if right = 0 then .error (.form "division by zero")
    else if left = least ∧ right = -1 then .error .overflow
    else .ok (left.tmod right)
  | "+" => .ok (wrap (left + right))
  | "-" => .ok (wrap (left - right))
  | "<<" => .ok (wrap (left * Nat.pow 2 (right % 64).toNat))
  | ">>" => .ok (left.fdiv (Nat.pow 2 (right % 64).toNat))
  | "<" => .ok (ofBool (left < right))
  | "<=" => .ok (ofBool (left ≤ right))
  | ">" => .ok (ofBool (right < left))
  | ">=" => .ok (ofBool (right ≤ left))
  | "==" => .ok (ofBool (left = right))
  | "!=" => .ok (ofBool (left ≠ right))
  | "&" => .ok (BitVec.ofInt 64 left &&& BitVec.ofInt 64 right).toInt
  | "^" => .ok (BitVec.ofInt 64 left ^^^ BitVec.ofInt 64 right).toInt
  | "|" => .ok (BitVec.ofInt 64 left ||| BitVec.ofInt 64 right).toInt
  | _ => .ok 0

structure Progress where
  rest : List Char
  -- The last word that has been read and not used.
  last : Lexeme := .finish
  -- The last one first.
  assigned : List (String × Int) := []

abbrev Evaluator := StateT Progress (Except Failure)

def lexeme : Evaluator Lexeme := do
  let progress ← get
  let text := progress.rest.dropWhile isSpace
  let (found, rest) : Lexeme × List Char := match text with
    | [] => (.finish, [])
    | char :: after =>
      if char.isDigit then
        let (value, rest) := numeral text
        (.number (clamp value), rest)
      else if Name.isStart char then
        (.name (String.ofList (text.takeWhile Name.isInside)), text.dropWhile Name.isInside)
      else
        match operators.find? fun operator => operator.toList.isPrefixOf text with
        | some operator => (.operator operator, text.drop operator.length)
        | none => (.unknown, after)
  set { progress with rest }
  pure found

def setLast (last : Lexeme) : Evaluator Unit := modify ({ · with last })

def current (texts : String → String) (name : String) : Evaluator Int := do
  match (← get).assigned.lookup name with
  | some value => pure value
  | none =>
    match ofText? false (texts name) with
    | some value => pure value
    | none => throw (.notNumber (texts name))

mutual

-- An expression is worked out while it is read, so a fault of its value may come before a fault of
-- its form. Where it is idle, nothing is looked up and nothing assigned.
def assignment (texts : String → String) : Nat → Bool → Lexeme → Evaluator Int
  | 0, _, _ => throw (.form "expecting primary")
  | fuel + 1, idle, first => do
    let second ← lexeme
    match first, second with
    | .name name, .operator operator =>
      match assigning? operator with
      | some change => do
        let given ← assignment texts fuel idle (← lexeme)
        if idle then pure given
        else
          let value ← (match change with
            | some operator => do apply operator (← current texts name) given
            | none => pure given : Evaluator Int)
          modify fun progress => { progress with assigned := (name, value) :: progress.assigned }
          pure value
      | none => choice texts fuel idle first second
    | _, _ => choice texts fuel idle first second

def choice (texts : String → String) : Nat → Bool → Lexeme → Lexeme → Evaluator Int
  | 0, _, _, _ => throw (.form "expecting primary")
  | fuel + 1, idle, first, second => do
    let condition ← disjunction texts fuel idle first second
    if (← get).last ≠ .operator "?" then pure condition
    else
      let yes ← assignment texts fuel (idle || condition = 0) (← lexeme)
      if (← get).last ≠ .operator ":" then throw (.form "expecting ':'")
      let first ← lexeme
      let second ← lexeme
      let no ← choice texts fuel (idle || condition ≠ 0) first second
      pure (if condition ≠ 0 then yes else no)

def disjunction (texts : String → String) : Nat → Bool → Lexeme → Lexeme → Evaluator Int
  | 0, _, _, _ => throw (.form "expecting primary")
  | fuel + 1, idle, first, second => do
    let left ← conjunction texts fuel idle first second
    if (← get).last ≠ .operator "||" then pure left
    else
      let first ← lexeme
      let second ← lexeme
      let right ← disjunction texts fuel (idle || left ≠ 0) first second
      pure (ofBool (left ≠ 0 || right ≠ 0))

def conjunction (texts : String → String) : Nat → Bool → Lexeme → Lexeme → Evaluator Int
  | 0, _, _, _ => throw (.form "expecting primary")
  | fuel + 1, idle, first, second => do
    let left ← binary texts fuel idle first second
    if (← get).last ≠ .operator "&&" then pure left
    else
      let first ← lexeme
      let second ← lexeme
      let right ← conjunction texts fuel (idle || left = 0) first second
      pure (ofBool (left ≠ 0 && right ≠ 0))

def binary (texts : String → String) : Nat → Bool → Lexeme → Lexeme → Evaluator Int
  | 0, _, _, _ => throw (.form "expecting primary")
  | fuel + 1, idle, first, second => do
    let left ← primary texts fuel idle first second
    match (← get).last with
    | .operator operator =>
      match looseness? operator with
      | some _ => climb texts fuel idle left operator 8
      | none => pure left
    | _ => pure left

def climb (texts : String → String) : Nat → Bool → Int → String → Nat → Evaluator Int
  | 0, _, _, _, _ => throw (.form "expecting primary")
  | fuel + 1, idle, left, operator, bound => do
    let loose := (looseness? operator).getD 0
    let first ← lexeme
    let second ← lexeme
    let right ← primary texts fuel idle first second
    let following (last : Lexeme) : Option (String × Nat) := match last with
      | .operator next => (looseness? next).map (next, ·)
      | _ => none
    let right ← (match following (← get).last with
      | some (next, tight) =>
        if tight < loose then climb texts fuel idle right next loose else pure right
      | none => pure right : Evaluator Int)
    let value ← (if idle then pure right else apply operator left right : Evaluator Int)
    match following (← get).last with
    | some (next, level) => if level < bound then climb texts fuel idle value next bound else pure value
    | none => pure value

def primary (texts : String → String) : Nat → Bool → Lexeme → Lexeme → Evaluator Int
  | 0, _, _, _ => throw (.form "expecting primary")
  | fuel + 1, idle, first, second => do
    match first with
    | .number value => do
      setLast second
      pure value
    | .name name => do
      setLast second
      if idle then pure 0 else current texts name
    | .operator "(" => do
      let value ← assignment texts fuel idle second
      if (← get).last ≠ .operator ")" then throw (.form "expecting ')'")
      setLast (← lexeme)
      pure value
    | .operator "+" => do primary texts fuel idle second (← lexeme)
    | .operator "-" => do
      let value ← primary texts fuel idle second (← lexeme)
      pure (wrap (-value))
    | .operator "!" => do
      let value ← primary texts fuel idle second (← lexeme)
      pure (ofBool (value = 0))
    | .operator "~" => do
      let value ← primary texts fuel idle second (← lexeme)
      pure (-value - 1)
    | _ => throw (.form "expecting primary")

end

def evaluate (texts : String → String) (text : List Char) :
    Except Failure (Int × List (String × Int)) := do
  let whole : Evaluator Int := do
    let value ← assignment texts (8 * text.length + 16) false (← lexeme)
    if (← get).last ≠ .finish then throw (.form "expecting EOF")
    pure value
  let (value, progress) ← whole.run { rest := text }
  pure (value, progress.assigned.reverse)

end HostTools.Shell.Arithmetic
