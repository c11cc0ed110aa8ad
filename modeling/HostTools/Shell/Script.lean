set_option autoImplicit false

namespace HostTools.Shell

inductive Fallback where
  | other
  | assign
  | complain
  -- Take a word if the parameter is set.
  | present
deriving DecidableEq, Repr

inductive Opening where
  | read
  | both
  | write
  -- Write even if a file must not be replaced.
  | clobber
  | append
deriving DecidableEq, Repr

mutual

-- Everywhere in the shell a character stands for the octet of its number, so a text can hold any
-- output of a program. Pieces between double quotes are marked as quoted.
inductive Piece where
  | plain (char : Char)
  | quoted (char : Char)
  -- A quote, whatever follows it: the word is there, even if it is empty.
  | present
  | value (quoted : Bool) (name : String)
  | length (quoted : Bool) (name : String)
  | fallback (quoted : Bool) (name : String) (kind : Fallback) (orEmpty : Bool) (word : List Piece)
  | trim (quoted : Bool) (name : String) (fromEnd longest : Bool) (pattern : List Piece)
  -- A parameter that is not written in any of the ways above.
  | unreadable (quoted : Bool)
  | arithmetic (quoted : Bool) (expression : List Piece)
  | output (quoted : Bool) (body : Script)

inductive Redirection where
  | file (descriptor : Nat) (opening : Opening) (path : List Piece)
  | copy (descriptor : Nat) (word : List Piece)
  -- Where the text is literal, nothing in it is replaced.
  | document (descriptor : Nat) (literal : Bool) (text : List Piece)

inductive Script where
  | simple (line : Nat) (assignments : List (String × List Piece)) (words : List (List Piece))
      (redirections : List Redirection)
  | redirected (line : Nat) (body : Script) (redirections : List Redirection)
  | pipeline (stages : List Script)
  | negated (body : Script)
  | both (first second : Script)
  | either (first second : Script)
  | sequence (first second : Script)
  | background (body : Script)
  | apart (line : Nat) (body : Script) (redirections : List Redirection)
  | choice (condition body otherwise : Script)
  | loop (untilTrue : Bool) (condition body : Script)
  | each (line : Nat) (name : String) (words : List (List Piece)) (body : Script)
  | select (line : Nat) (word : List Piece) (branches : List (List (List Piece) × Script))
  | function (name : String) (body : Script)
  | nothing

end

abbrev Word := List Piece

instance : Inhabited Script := ⟨.nothing⟩

def Script.isNothing : Script → Bool
  | .nothing => true
  | _ => false

def bareText : Word → Option String
  | [] => some ""
  | .plain char :: rest => (bareText rest).map fun text => String.singleton char ++ text
  | _ => none

def literalText (word : Word) : String :=
  String.ofList (word.filterMap fun piece =>
    match piece with
    | .plain char => some char
    | .quoted char => some char
    | _ => none)

structure Fault where
  line : Nat
  text : String
deriving DecidableEq, Repr

end HostTools.Shell
