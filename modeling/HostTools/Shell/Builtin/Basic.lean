import HostTools.Shell.State

set_option autoImplicit false

namespace HostTools.Shell.Builtin

structure Options where
  given : List (Char × String) := []
  rest : Except String (List String)

namespace Options

def add (letter : Char) (value : String) (options : Options) : Options :=
  { options with given := (letter, value) :: options.given }

end Options

-- A colon after the letter tells that it takes a value.
def known (letter : Char) : List Char → Option Bool
  | [] => none
  | found :: ':' :: rest => if found = letter then some true else known letter rest
  | found :: rest => if found = letter then some false else known letter rest

def remaining : List String → Nat
  | [] => 0
  | word :: words => word.toList.length + 1 + remaining words

def optionsFrom (allowed : List Char) : List Char → List String → Options
  | [], words =>
    match words with
    | [] => { rest := .ok [] }
    | word :: words =>
      match _shape : word.toList with
      | '-' :: first :: letters =>
        if first = '-' && letters.isEmpty then { rest := .ok words }
        else optionsFrom allowed (first :: letters) words
      | _ => { rest := .ok (word :: words) }
  | letter :: letters, words =>
    match known letter allowed with
    | none => { rest := .error ("Illegal option -" ++ String.singleton letter) }
    | some false => (optionsFrom allowed letters words).add letter ""
    | some true =>
      match letters, words with
      | [], [] => { rest := .error ("No arg for -" ++ String.singleton letter ++ " option") }
      | [], value :: words => (optionsFrom allowed [] words).add letter value
      | value, words => (optionsFrom allowed [] words).add letter (String.ofList value)
termination_by letters words => letters.length + remaining words
decreasing_by
  all_goals simp only [remaining, List.length_cons, List.length_nil]
  · have := congrArg List.length _shape
    simp only [List.length_cons] at this
    omega
  all_goals omega

def options (allowed : String) (args : List String) : Act (List (Char × String) × List String) := do
  let found := optionsFrom allowed.toList [] args
  match found.rest with
  | .ok rest => pure (found.given, rest)
  | .error reason => fail reason

def noOptions (args : List String) : Act (List String) := do pure (← options "" args).2

-- What a command prints is kept until it ends, so complaints come before it.
def put (text : String) (status : Nat) : Act Nat := do
  if text.isEmpty then pure status
  else
    match ← write 1 text with
    | none => pure status
    | some _ =>
      complain ((← process).running.getD "" ++ ": I/O error")
      pure (status ||| 1)

def failAfter {α : Type} (text reason : String) : Act α := do
  complain reason
  if !text.isEmpty then
    let _ ← write 1 text
  setStatus 2
  throw .failure

end HostTools.Shell.Builtin
