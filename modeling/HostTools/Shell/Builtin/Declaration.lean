import HostTools.Shell.Builtin.Basic
import HostTools.Shell.Field
import HostTools.Shell.Variable

set_option autoImplicit false

namespace HostTools.Shell.Builtin

def declare (name : String) (isExport : Bool) (args : List String) : Act Nat := do
  let mark (held : Variable) : Variable :=
    if isExport then { held with exported := true } else { held with fixed := true }
  let found := optionsFrom ['p'] [] args
  let names : List String ← (match found.given, found.rest with
    | [], .error reason => fail reason
    | [], .ok names => pure names
    | _, _ => pure [])
  if names.isEmpty then
    put (listing name (if isExport then Variable.exported else Variable.fixed) (← process)) 0
  else
    names.forM fun word => do
      let (name, value) := divideAssignment word
      match value, (← process).bindings.lookup name with
      | none, some held =>
        change fun process => { process with bindings := assoc name (mark held) process.bindings }
      | _, held =>
        if !Name.isName name then fail (name ++ ": bad variable name")
        match value with
        | some text => assign name text false
        | none => pure ()
        let held := ((← process).bindings.lookup name).orElse fun _ => held
        change fun process =>
          { process with
            bindings := assoc name (mark (held.getD ⟨none, false, false⟩)) process.bindings }
    pure 0

def unset (args : List String) : Act Nat := do
  let (given, names) ← options "vf" args
  let functions := (given.getLast?.map (·.1)) = some 'f'
  names.forM fun name =>
    if functions then
      change fun process => { process with functions := process.functions.filter (·.1 ≠ name) }
    else unsetVariable name
  pure 0

def local_ (args : List String) : Act Nat := do
  if (← process).frames.isEmpty then fail "not in a function"
  args.forM fun word => do
    let (name, value) := divideAssignment word
    match value with
    | some text => assignInFrame name text false
    | none =>
      if word ≠ "-" && !Name.isName word then fail (word ++ ": bad variable name")
      keepInFrame word
  pure 0

structure Changes where
  settings : List Setting
  args : Option (List String) := none
  text : String := ""

-- A letter `o` takes the next word as a name.
def letters (on : Bool) : List Char → List String → Changes → Except String (Changes × List String)
  | [], words, changes => .ok (changes, words)
  | 'o' :: rest, [], changes =>
    let text := if on then Setting.listing changes.settings else Setting.commands changes.settings
    letters on rest [] { changes with text := changes.text ++ text }
  | 'o' :: rest, name :: words, changes =>
    match Setting.ofName? name with
    | some setting =>
      letters on rest words { changes with settings := Setting.turn changes.settings setting on }
    | none => .error ("Illegal option -o " ++ name)
  | letter :: rest, words, changes =>
    match Setting.ofLetter? letter with
    | some setting =>
      letters on rest words { changes with settings := Setting.turnLetter changes.settings setting on }
    | none => .error ("Illegal option -" ++ String.singleton letter)

def changes : Nat → List String → Changes → Except String Changes
  | 0, _, found => .ok found
  | _ + 1, [], found => .ok found
  | fuel + 1, word :: words, found =>
    match word.toList with
    | ['-'] =>
      let settings := Setting.turn (Setting.turn found.settings .trace false) .verbose false
      .ok { found with settings, args := if words.isEmpty then none else some words }
    | ['-', '-'] => .ok { found with args := some words }
    | sign :: rest =>
      if sign = '-' || sign = '+' then
        match letters (sign = '-') rest words found with
        | .ok (found, words) => changes fuel words found
        | .error reason => .error reason
      else .ok { found with args := some (word :: words) }
    | [] => .ok { found with args := some (word :: words) }

-- There is no terminal to control jobs from.
def adopt (settings : List Setting) : Act Unit := do
  if settings.contains .jobControl then
    complain "can't access tty; job control turned off"
  change ({ · with settings := settings.filter (· ≠ .jobControl) })

def set (args : List String) : Act Nat := do
  let current ← process
  if args.isEmpty then put (listing "" (·.value.isSome) current) 0
  else
    match changes (args.length + 1) args { settings := current.settings } with
    | .error reason => fail reason
    | .ok found =>
      adopt found.settings
      match found.args with
      | some args => change ({ · with args, optionIndex := 1, optionOffset := none })
      | none => pure ()
      put found.text 0

def shift (args : List String) : Act Nat := do
  let count ← (match args with
    | [] => pure 1
    | word :: _ => numberOf word : Act Nat)
  if (← process).args.length < count then fail "can't shift that many"
  change fun process =>
    { process with args := process.args.drop count, optionIndex := 1, optionOffset := none }
  pure 0

def afterLetter (letter : Char) : List Char → Option (List Char)
  | [] => none
  | found :: ':' :: rest => if found = letter then some (':' :: rest) else afterLetter letter rest
  | found :: rest => if found = letter then some rest else afterLetter letter rest

def getopts (args : List String) : Act Nat := do
  match ← noOptions args with
  | known :: name :: words => do
    let current ← process
    let given := if words.isEmpty then current.args else words
    let restarts := given.length + 1 < current.optionIndex
    let index := if restarts then 1 else current.optionIndex
    let offset := if restarts then none else current.optionOffset
    change ({ · with optionIndex := Nat.pow 2 32 })
    let silent := known.startsWith ":"
    let word (index : Nat) : Option (List Char) :=
      if index = 0 then none else (given[index - 1]?).map String.toList
    let left : List Char := match offset with
      | some offset =>
        if index ≤ 1 then [] else ((word (index - 1)).getD []).drop offset
      | none => []
    -- The letters that are left, and the index after the word that holds them.
    let letters : Option (List Char) × Nat :=
      if !left.isEmpty then (some left, index)
      else
        match word index with
        | some ['-', '-'] => (none, index + 1)
        | some ('-' :: letter :: more) => (some (letter :: more), index + 1)
        | _ => (none, index)
    let finish (letter : Char) (rest : Option (List Char)) (index : Nat) (status : Nat) : Act Nat := do
      let held := ((← process).bindings.lookup "OPTIND").getD ⟨none, false, false⟩
      if held.fixed then fail "OPTIND: is read only"
      let shown := { held with value := some (Digits.decimalText index) }
      change fun process => { process with bindings := assoc "OPTIND" shown process.bindings }
      assignNamed name (String.singleton letter)
      let offset := rest.map fun rest => ((word (index - 1)).getD []).length - rest.length
      change ({ · with optionIndex := index, optionOffset := offset })
      pure status
    match letters with
    | (some (letter :: rest), index) =>
      match afterLetter letter known.toList with
      | none => do
        if silent then assign "OPTARG" (String.singleton letter) false
        else
          writeError ("Illegal option -" ++ String.singleton letter ++ "\n")
          unsetVariable "OPTARG"
        finish '?' (some rest) index 0
      | some (':' :: _) =>
        if !rest.isEmpty then do
          assign "OPTARG" (String.ofList rest) false
          finish letter none index 0
        else
          match word index with
          | some value => do
            assign "OPTARG" (String.ofList value) false
            finish letter none (index + 1) 0
          | none => do
            if silent then
              assign "OPTARG" (String.singleton letter) false
              finish ':' none index 0
            else
              writeError ("No arg for -" ++ String.singleton letter ++ " option\n")
              unsetVariable "OPTARG"
              finish '?' none index 0
      | some _ => do
        assign "OPTARG" "" false
        finish letter (some rest) index 0
    | (_, index) => finish '?' none index 1
  | _ => fail "Usage: getopts optstring var [arg...]"

-- What stands after a backslash is not divided, and a backslash joins lines.
def lineMarks (raw : Bool) : Bool → List Char → List Mark × List Char × Bool
  | _, [] => ([], [], false)
  | escaped, char :: rest =>
    let following (mark : List Mark) (escaped : Bool) : List Mark × List Char × Bool :=
      let (marks, left, ended) := lineMarks raw escaped rest
      (mark ++ marks, left, ended)
    if char.toNat = 0 then following [] escaped
    else if escaped then
      if char = '\n' then following [] false
      else following [.leave, .letter char true, .enter false] false
    else if !raw && char = '\\' then following [] true
    else if char = '\n' then ([], rest, true)
    else following [.letter char false] false

def read (args : List String) : Act Nat := do
  let (given, names) ← options "p:r" args
  if names.isEmpty then fail "arg count"
  let raw := given.any fun (letter, _) => letter = 'r'
  let (marks, rest, ended) := lineMarks raw false (← available 0)
  leaveUnread 0 rest
  let fields := Division.fieldsOf (← separators) (some names.length) (.enter false :: marks ++ [.leave])
  let values := fields.map Field.text
  (names.zip (values ++ List.replicate names.length "")).forM fun (name, value) =>
    assignNamed name value
  pure (if ended then 0 else 1)

end HostTools.Shell.Builtin
