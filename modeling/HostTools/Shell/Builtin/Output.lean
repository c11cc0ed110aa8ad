import HostTools.Shell.Builtin.Basic
import HostTools.Shell.Condition
import HostTools.Shell.Printing

set_option autoImplicit false

namespace HostTools.Shell.Builtin

def echoed : List String → List Char × Bool
  | [] => ([], false)
  | word :: rest =>
    let (text, ended) := Escape.all Escape.inArgument word.toList
    if ended.isSome then (text, true)
    else if rest.isEmpty then (text, false)
    else
      let (more, stopped) := echoed rest
      (text ++ ' ' :: more, stopped)

def echo (args : List String) : Act Nat := do
  let (quiet, words) := match args with
    | "-n" :: rest => (true, rest)
    | _ => (false, args)
  let (text, stopped) := echoed words
  put (String.ofList (if quiet || stopped then text else text ++ ['\n'])) 0

def printf (args : List String) : Act Nat := do
  match ← noOptions args with
  | [] => fail "usage: printf format [arg ...]"
  | format :: values =>
    let (halt, printing) := ShellPrinting.run format values
    (Said.complaints printing.said).forM complain
    let text := Said.texts printing.said
    match halt with
    | some (.failed reason) => failAfter text reason
    | _ => put text (if printing.numeric then 0 else 1)

def test (name : String) (args : List String) : Act Nat := do
  match Condition.command (← fileTest) name args with
  | .ok holds => pure (if holds then 0 else 1)
  | .error reason => fail reason

end HostTools.Shell.Builtin
