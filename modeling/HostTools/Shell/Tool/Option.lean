import HostTools.Text.Pieces

set_option autoImplicit false

namespace HostTools.Shell.Tool

structure OptionForm where
  letter : Option Char
  name : Option String
  takesValue : Bool := false

structure Given where
  form : OptionForm
  value : String := ""

namespace OptionForm

def key (form : OptionForm) : String :=
  match form.letter with
  | some letter => String.singleton letter
  | none => form.name.getD ""

end OptionForm

structure Arguments where
  options : List Given := []
  words : List String := []

-- What follows a letter that takes a value is the value, or else the next word is.
def letters (forms : List OptionForm) : List Char → List String → Except String (List Given × List String)
  | [], rest => .ok ([], rest)
  | letter :: more, rest =>
    match forms.find? fun form => form.letter = some letter with
    | none => .error ("invalid option -- '" ++ String.singleton letter ++ "'")
    | some form =>
      if !form.takesValue then
        match letters forms more rest with
        | .ok (given, rest) => .ok ({ form } :: given, rest)
        | .error reason => .error reason
      else if !more.isEmpty then .ok ([{ form, value := String.ofList more }], rest)
      else
        match rest with
        | value :: rest => .ok ([{ form, value }], rest)
        | [] => .error ("option requires an argument -- '" ++ String.singleton letter ++ "'")

-- A name may be cut short as long as it can only mean one option.
def longName (forms : List OptionForm) (word : String) (rest : List String) :
    Except String (List Given × List String) :=
  let body := word.toList.drop 2
  let (name, value) : String × Option String := match Pieces.cut '=' body with
    | some (name, value) => (String.ofList name, some (String.ofList value))
    | none => (String.ofList body, none)
  let exact := forms.filter fun form => form.name = some name
  let found := if exact.isEmpty
    then forms.filter fun form => form.name.any (·.startsWith name) else exact
  match found with
  | [] => .error ("unrecognized option '" ++ word ++ "'")
  | [form] =>
    let full := "'--" ++ form.name.getD "" ++ "'"
    match form.takesValue, value, rest with
    | false, none, _ => .ok ([{ form }], rest)
    | false, some _, _ => .error ("option " ++ full ++ " doesn't allow an argument")
    | true, some value, _ => .ok ([{ form, value }], rest)
    | true, none, value :: rest => .ok ([{ form, value }], rest)
    | true, none, [] => .error ("option " ++ full ++ " requires an argument")
  | several =>
    .error ("option '" ++ word ++ "' is ambiguous; possibilities:" ++
      String.join (several.map fun form => " '--" ++ form.name.getD "" ++ "'"))

-- Where options may not stand after other words, the first of those ends them.
def divide (forms : List OptionForm) (anywhere : Bool) : Nat → List String → Except String Arguments
  | 0, words => .ok { words }
  | _ + 1, [] => .ok {}
  | fuel + 1, word :: rest =>
    let isOption := word.startsWith "-" && word ≠ "-"
    if word = "--" then .ok { words := rest }
    else if !isOption then
      if !anywhere then .ok { words := word :: rest }
      else
        match divide forms anywhere fuel rest with
        | .ok found => .ok { found with words := word :: found.words }
        | .error reason => .error reason
    else
      let read := if word.startsWith "--" then longName forms word rest
        else letters forms (word.toList.drop 1) rest
      match read with
      | .error reason => .error reason
      | .ok (given, rest) =>
        match divide forms anywhere fuel rest with
        | .ok found => .ok { found with options := given ++ found.options }
        | .error reason => .error reason

def arguments (forms : List OptionForm) (anywhere : Bool) (words : List String) :
    Except String Arguments :=
  divide forms anywhere (words.length + 1) words

namespace Arguments

def has (found : Arguments) (key : String) : Bool := found.options.any fun given => given.form.key = key

end Arguments

end HostTools.Shell.Tool
