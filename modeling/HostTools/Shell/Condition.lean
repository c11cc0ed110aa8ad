import HostTools.Shell.Arithmetic
import HostTools.Shell.FileTest

set_option autoImplicit false

namespace HostTools.Shell.Condition

inductive Kind where
  | unary
  | binary
  | negation
  | conjunction
  | disjunction
  | opening
  | closing
deriving DecidableEq, Repr

def unaryOperators : List String :=
  ["-r", "-w", "-x", "-e", "-f", "-d", "-c", "-b", "-p", "-u", "-g", "-k", "-s", "-t", "-z", "-n", "-h",
    "-O", "-G", "-L", "-S"]

def binaryOperators : List String :=
  ["=", "!=", "<", ">", "-eq", "-ne", "-ge", "-gt", "-le", "-lt", "-nt", "-ot", "-ef"]

def kind? (word : String) : Option Kind :=
  match word with
  | "!" => some .negation
  | "-a" => some .conjunction
  | "-o" => some .disjunction
  | "(" => some .opening
  | ")" => some .closing
  | _ =>
    if unaryOperators.contains word then some .unary
    else if binaryOperators.contains word then some .binary
    else none

inductive Role where
  | finish
  | operator (kind : Kind)
  | operand
deriving DecidableEq, Repr

-- Whether a word is an operator hangs on the words after it.
def role : List String → Role
  | [] => .finish
  | word :: rest =>
    match kind? word with
    | none => .operand
    | some .unary =>
      match rest with
      | [] => .operand
      | next :: more => if !more.isEmpty && kind? next = some .binary then .operand else .operator .unary
    | some .opening => if rest.isEmpty then .operand else .operator .opening
    | some kind => .operator kind

def number (word : String) : Except String Int :=
  match Arithmetic.ofText? true word with
  | some value => .ok value
  | none => .error ("Illegal number: " ++ word)

def unary (files : FileTest) (operator operand : String) : Except String Bool :=
  match operator with
  | "-n" => .ok (!operand.isEmpty)
  | "-z" => .ok operand.isEmpty
  | "-t" => (number operand).map fun _ => false
  | _ => .ok (files.holds ((operator.toList[1]?).getD 'e') operand)

def binary (files : FileTest) (operator left right : String) : Except String Bool :=
  match operator with
  | "=" => .ok (left = right)
  | "!=" => .ok (left ≠ right)
  | "<" => .ok (left < right)
  | ">" => .ok (right < left)
  | "-nt" => .ok false
  | "-ot" => .ok false
  | "-ef" => .ok (files.same left right)
  | _ => do
    let a ← number left
    let b ← number right
    pure (match operator with
      | "-eq" => a = b
      | "-ne" => a ≠ b
      | "-lt" => a < b
      | "-le" => a ≤ b
      | "-gt" => b < a
      | _ => b ≤ a)

-- The first word is the last that was read, unless there is none.
abbrev Found := Except String (Bool × List String)

mutual

def disjunction (files : FileTest) : Nat → Bool → Role → List String → Found
  | 0, _, _, words => .ok (false, words)
  | fuel + 1, soFar, first, words =>
    match conjunction files fuel true first words with
    | .error reason => .error reason
    | .ok (holds, words) =>
      if role (words.drop 1) = .operator .disjunction then
        disjunction files fuel (soFar || holds) (role (words.drop 2)) (words.drop 2)
      else .ok (soFar || holds, words)

def conjunction (files : FileTest) : Nat → Bool → Role → List String → Found
  | 0, _, _, words => .ok (false, words)
  | fuel + 1, soFar, first, words =>
    match negation files fuel first words with
    | .error reason => .error reason
    | .ok (holds, words) =>
      if role (words.drop 1) = .operator .conjunction then
        conjunction files fuel (soFar && holds) (role (words.drop 2)) (words.drop 2)
      else .ok (soFar && holds, words)

def negation (files : FileTest) : Nat → Role → List String → Found
  | 0, _, words => .ok (false, words)
  | fuel + 1, first, words =>
    if first ≠ .operator .negation then primary files fuel first words
    else
      let next := role (words.drop 1)
      match negation files fuel next (if next = .finish then words else words.drop 1) with
      | .error reason => .error reason
      | .ok (holds, words) => .ok (!holds, words)

def primary (files : FileTest) : Nat → Role → List String → Found
  | 0, _, words => .ok (false, words)
  | fuel + 1, first, words =>
    match first with
    | .finish => .ok (false, words)
    | .operator .opening =>
      let next := role (words.drop 1)
      if next = .operator .closing then .ok (false, words.drop 1)
      else
        match disjunction files fuel false next (words.drop 1) with
        | .error reason => .error reason
        | .ok (holds, words) =>
          if role (words.drop 1) = .operator .closing then .ok (holds, words.drop 1)
          else .error "closing paren expected"
    | .operator .unary =>
      match words with
      | operator :: operand :: rest =>
        match unary files operator operand with
        | .error reason => .error reason
        | .ok holds => .ok (holds, operand :: rest)
      | _ => .error (words.headD "" ++ ": argument expected")
    | _ =>
      if role (words.drop 1) = .operator .binary then
        match words with
        | left :: operator :: right :: rest =>
          match binary files operator left right with
          | .error reason => .error reason
          | .ok holds => .ok (holds, right :: rest)
        | _ => .error ((words.drop 1).headD "" ++ ": argument expected")
      else .ok (words.head?.any (!·.isEmpty), words)

end

def evaluate (files : FileTest) (first : Role) (words : List String) : Except String Bool :=
  match disjunction files (4 * words.length + 8) false first words with
  | .error reason => .error reason
  | .ok (holds, rest) =>
    match rest with
    | last :: _ :: _ =>
      .error (if last.isEmpty then "unexpected operator" else last ++ ": unexpected operator")
    | _ => .ok holds

-- Three or four words are read in a way of their own.
def holds (files : FileTest) : List String → Except String Bool
  | [] => .ok false
  | word :: rest =>
    let words := word :: rest
    let few := words.length = 3 || words.length = 4
    if words.length = 3 && (rest.head?.bind kind?) = some .binary then evaluate files .operand words
    else if few && word = "(" && words.getLast? = some ")" then
      evaluate files (role rest.dropLast) rest.dropLast
    else if few && word = "!" then (holds files rest).map (!·)
    else evaluate files (role words) words

def command (files : FileTest) (name : String) (args : List String) : Except String Bool :=
  if !name.startsWith "[" then holds files args
  else
    match args.getLast? with
    | some last => if last.startsWith "]" then holds files args.dropLast else .error "missing ]"
    | none => .error "missing ]"

end HostTools.Shell.Condition
