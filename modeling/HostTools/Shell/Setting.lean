set_option autoImplicit false

namespace HostTools.Shell

inductive Setting where
  | stopOnFailure
  | plainNames
  | keepAtEnd
  | interactive
  | jobControl
  | readOnly
  | fromInput
  | trace
  | verbose
  | vi
  | emacs
  | keepFiles
  | exportAll
  | notify
  | needSet
  | privileged
  | noLog
  | debug
deriving DecidableEq, Repr

namespace Setting

-- In the order of their listing.
def table : List (Setting × Option Char × String) :=
  [(.stopOnFailure, some 'e', "errexit"), (.plainNames, some 'f', "noglob"),
    (.keepAtEnd, some 'I', "ignoreeof"), (.interactive, some 'i', "interactive"),
    (.jobControl, some 'm', "monitor"), (.readOnly, some 'n', "noexec"),
    (.fromInput, some 's', "stdin"), (.trace, some 'x', "xtrace"), (.verbose, some 'v', "verbose"),
    (.vi, some 'V', "vi"), (.emacs, some 'E', "emacs"), (.keepFiles, some 'C', "noclobber"),
    (.exportAll, some 'a', "allexport"), (.notify, some 'b', "notify"), (.needSet, some 'u', "nounset"),
    (.privileged, some 'p', "privileged"), (.noLog, none, "nolog"), (.debug, none, "debug")]

def ofLetter? (letter : Char) : Option Setting :=
  (table.find? fun (_, found, _) => found = some letter).map (·.1)

def ofName? (name : String) : Option Setting :=
  (table.find? fun (_, _, found) => found = name).map (·.1)

-- Of the two settings that are about editing, one at most is on by its letter.
def turn (settings : List Setting) (setting : Setting) (on : Bool) : List Setting :=
  let others := settings.filter (· ≠ setting)
  if on then setting :: others else others

def turnLetter (settings : List Setting) (setting : Setting) (on : Bool) : List Setting :=
  let turned := turn settings setting on
  if !on then turned
  else
    match setting with
    | .vi => turn turned .emacs false
    | .emacs => turn turned .vi false
    | _ => turned

def letters (settings : List Setting) : String :=
  String.ofList (table.reverse.filterMap fun (setting, letter, _) =>
    if settings.contains setting then letter else none)

def pad (width : Nat) (text : String) : String :=
  text ++ String.ofList (List.replicate (width - text.length) ' ')

def listing (settings : List Setting) : String :=
  "Current option settings\n" ++ String.join (table.map fun (setting, _, name) =>
    pad 16 name ++ (if settings.contains setting then "on" else "off") ++ "\n")

def commands (settings : List Setting) : String :=
  String.join (table.map fun (setting, _, name) =>
    "set " ++ (if settings.contains setting then "-o" else "+o") ++ " " ++ name ++ "\n")

end Setting

end HostTools.Shell
