import HostTools.Arguments.Option
import HostTools.Environment
import HostTools.Text.Pieces

set_option autoImplicit false

namespace HostTools

def OptionKey.explained (environment : Environment) (key : OptionKey) : String :=
  let fromVariable := match key.fromEnvironment with
    | some name => " [env: " ++ name ++ "=" ++ (environment.get? name).getD "" ++ "]"
    | none => ""
  let standard := match key.default? with
    | some value => " [default: " ++ value ++ "]"
    | none => ""
  let values := match key.choices with
    | [] => ""
    | choices => " [possible values: " ++ ", ".intercalate choices ++ "]"
  key.about ++ fromVariable ++ standard ++ values

namespace Topic

def columns (entries : List (Styled × String)) : Styled :=
  let width := (entries.map (·.1.width)).foldl max 0
  let blanks (count : Nat) : String := String.ofList (List.replicate count ' ')
  let placed (text : String) : String :=
    String.ofList (List.intercalate ('\n' :: List.replicate (width + 2) ' ')
      (Pieces.split '\n' text.toList))
  entries.flatMap fun (entry, text) =>
    entry ++ Styled.plain (blanks (width - entry.width + 2) ++ placed text ++ "\n")

def options (environment : Environment) (topic : Topic) : List (Styled × String) :=
  topic.keys.map (fun key => (.plain "      " ++ key.written, key.explained environment)) ++
    [(.plain "  " ++ .literal "-h" ++ .plain ", " ++ .literal "--help", "Print help")] ++
    (if topic = .program then
      [(.plain "  " ++ .literal "-V" ++ .plain ", " ++ .literal "--version", "Print version")]
    else [])

def chapter (heading : String) (entries : List (Styled × String)) : Styled :=
  if entries.isEmpty then []
  else .plain "\n" ++ .of .heading heading ++ .plain "\n" ++ columns entries

def manual (environment : Environment) (topic : Topic) : Styled :=
  let commands := if topic = .program then
      commands.map fun (name, topic) => (.plain "  " ++ .literal name, topic.about)
    else []
  let positional := topic.positional?.toList.map fun (name, text) => (.plain ("  " ++ name), text)
  let options := if topic = .help then [] else topic.options environment
  .plain (topic.about ++ "\n\n") ++ .of .heading "Usage:" ++ .plain " " ++ topic.usage ++
    .plain "\n" ++ chapter "Commands:" commands ++ chapter "Arguments:" positional ++
    chapter "Options:" options

end Topic

end HostTools
