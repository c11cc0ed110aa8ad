import HostTools.Arguments.Refusal
import HostTools.Environment
import HostTools.Fetch.Order
import HostTools.Exec

set_option autoImplicit false

namespace HostTools

inductive OutputFormat where
  | text
  | json
deriving DecidableEq, Repr

inductive Action where
  | exec (order : ExecOrder)
  | fetch (order : FetchOrder)
  | addresses (texts : List String)
deriving DecidableEq, Repr

structure Invocation where
  action : Action
  format : OutputFormat
  logFormat : String
deriving DecidableEq, Repr

inductive Stop where
  | help (topic : Topic)
  | version
  | nothing
  | refused (refusal : Refusal)
deriving DecidableEq, Repr

namespace Arguments

inductive Shape where
  | dashes
  | long (name : String) (value : Option String)
  | short (letter : Char)
  | word
deriving DecidableEq, Repr

def Shape.of (arg : String) : Shape :=
  match arg.toList with
  | ['-', '-'] => .dashes
  | '-' :: '-' :: rest =>
    match Pieces.cut '=' rest with
    | some (name, value) => .long (String.ofList name) (some (String.ofList value))
    | none => .long (String.ofList rest) none
  | '-' :: letter :: _ => .short letter
  | _ => .word

structure Taken where
  -- A flag's value is empty.
  given : List (OptionKey × String) := []
  -- An option waits for its value until something else comes or nothing follows.
  pending : Option (OptionKey × Option String) := none
  words : List String := []
  -- Two dashes have come.
  trailing : Bool := false
deriving DecidableEq, Repr

namespace Taken

def has (taken : Taken) (key : OptionKey) : Bool := taken.given.any (·.1 = key)

def value? (taken : Taken) (key : OptionKey) : Option String := taken.given.lookup key

def values (taken : Taken) (key : OptionKey) : List String :=
  (taken.given.filter (·.1 = key)).map (·.2)

def accept (taken : Taken) (key : OptionKey) (value : String) : Except Refusal Taken :=
  if taken.has key && !key.repeatable then .error (.repeated key)
  else
    match key.refuses value with
    | some refusal => .error refusal
    | none => .ok { taken with given := taken.given ++ [(key, value)] }

def settle (taken : Taken) : Except Refusal Taken :=
  match taken.pending with
  | none => .ok taken
  | some (key, none) => .error (.missingValue key)
  | some (key, some value) => { taken with pending := none }.accept key value

def awaits (taken : Taken) : Bool :=
  match taken.pending with
  | some (_, none) => true
  | _ => false

def addWord (taken : Taken) (word : String) : Except Refusal Taken := do
  let settled ← taken.settle
  .ok { settled with words := settled.words ++ [word] }

def addOption (taken : Taken) (key : OptionKey) (value : Option String) : Except Refusal Taken := do
  if key.takesValue then
    let settled ← taken.settle
    match value with
    | some value => settled.accept key value
    | none => .ok { settled with pending := some (key, none) }
  else
    match value with
    | some value => .error (.valueOfFlag key.shown value)
    | none =>
      let settled ← taken.settle
      settled.accept key ""

end Taken

def key? (topic : Topic) (name : String) : Option OptionKey := topic.keys.find? (·.name = name)

def refuse {α : Type} : Except Refusal α → Except Stop α
  | .ok value => .ok value
  | .error refusal => .error (.refused refusal)

def tell (taken : Taken) (stop : Stop) : Except Stop Taken := do
  let _ ← refuse taken.settle
  .error stop

def takeLong (topic : Topic) (taken : Taken) (name : String) (value : Option String) :
    Except Stop Taken :=
  match key? topic name with
  | some key => refuse (taken.addOption key value)
  | none =>
    if name = "help" || (name = "version" && topic = .program) then
      match value with
      | some value => .error (.refused (.valueOfFlag ("--" ++ name) value))
      | none => tell taken (if name = "help" then .help topic else .version)
    else .error (.refused (.unexpected ("--" ++ name)))

def takeShort (topic : Topic) (taken : Taken) (letter : Char) : Except Stop Taken :=
  if letter = 'h' then tell taken (.help topic)
  else if letter = 'V' && topic = .program then tell taken .version
  else .error (.refused (.unexpected ("-" ++ String.singleton letter)))

def takeWord (topic : Topic) (taken : Taken) (word : String) : Except Stop Taken :=
  match if taken.trailing then none else taken.pending with
  | some (key, none) => .ok { taken with pending := some (key, some word) }
  | _ =>
    match topic with
    | .program =>
      if taken.trailing && (Topic.ofName? word).isSome then .error (.refused (.unexpected word))
      else .error (.refused (.unknownCommand word))
    | .exec =>
      if taken.trailing then refuse (taken.addWord word)
      else .error (.refused (.unexpected word))
    | .addresses => refuse (taken.addWord word)
    | _ => .error (.refused (.unexpected word))

def take (topic : Topic) (taken : Taken) (arg : String) : Except Stop Taken :=
  if taken.trailing then takeWord topic taken arg
  else
    match Shape.of arg with
    | .dashes => .ok { taken with trailing := true }
    | .long name value => takeLong topic taken name value
    | .short letter => takeShort topic taken letter
    | .word => takeWord topic taken arg

def takeAll (topic : Topic) : Taken → List String → Except Stop Taken
  | taken, [] => refuse taken.settle
  | taken, arg :: rest =>
    match take topic taken arg with
    | .ok taken => takeAll topic taken rest
    | .error stop => .error stop

def takeProgram : Taken → List String → Except Stop (Taken × Option (Topic × List String))
  | taken, [] => .ok (taken, none)
  | taken, arg :: rest =>
    match if taken.trailing || taken.awaits then none else Topic.ofName? arg with
    | some topic => .ok (taken, some (topic, rest))
    | none =>
      match take .program taken arg with
      | .ok taken => takeProgram taken rest
      | .error stop => .error stop

def helpTopic : Topic → List String → Stop
  | topic, [] => .help topic
  | topic, name :: rest =>
    match if topic = .program then Topic.ofName? name else none with
    | some found => helpTopic found rest
    | none => .refused (.unknownCommand name)

def resolve (environment : Environment) (outer inner : Taken) (key : OptionKey) : Option String :=
  (inner.value? key).or <| (outer.value? key).or <|
    (key.fromEnvironment.bind environment.get?).or key.default?

def complete (topic : Topic) (taken : Taken) : Bool :=
  topic.required.all taken.has && (topic.positional?.isNone || !taken.words.isEmpty)

def action? (value : OptionKey → Option String) (topic : Topic) (taken : Taken) : Option Action :=
  match topic with
  | .exec =>
    some (.exec
      { argv := taken.words
        cwd := value .cwd
        environment := ⟨taken.has .clearEnv, taken.values .env⟩ })
  | .fetch => do
    let host ← value .host
    let port ← (readPort (← value .port)).toOption
    let method ← value .method
    let path ← value .path
    let seconds ← (readSeconds (← value .timeout)).toOption
    some (.fetch
      { host, port, method, path, keyFile := value .keyFile, certFile := value .certFile
        timeout := Duration.ofSecs seconds })
  | .addresses => some (.addresses taken.words)
  | _ => none

def parse (environment : Environment) (args : List String) : Except Stop Invocation := do
  let (outer, command) ← takeProgram {} args
  match command with
  | some (.help, rest) => .error (helpTopic .program rest)
  | some (topic, rest) =>
    let inner ← takeAll topic {} rest
    if !complete topic inner then .error (.refused .missingRequired)
    else
      let outer ← refuse outer.settle
      let value := resolve environment outer inner
      match action? value topic inner with
      | none => .error .nothing
      | some action =>
        .ok
          { action
            format := if value .format = some "json" then .json else .text
            logFormat := (value .logFormat).getD "" }
  | none =>
    let outer ← refuse outer.settle
    let fromVariables := Topic.program.keys.any fun key =>
      ((key.fromEnvironment.bind environment.get?)).isSome
    if outer.given.isEmpty && !fromVariables then .error .nothing
    else .error (.refused .missingCommand)

end Arguments

end HostTools
