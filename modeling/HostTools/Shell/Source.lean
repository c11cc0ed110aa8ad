import HostTools.Shell.Script

set_option autoImplicit false

namespace HostTools.Shell

inductive Token where
  | word
  | redirect
  | finish
  | mark (text : String)
  | keyword (text : String)
deriving DecidableEq, Repr

namespace Token

def describe : Token → String
  | .word => "word"
  | .redirect => "redirection"
  | .finish => "end of file"
  | .mark text => if text = "\n" then "newline" else "\"" ++ text ++ "\""
  | .keyword text => "\"" ++ text ++ "\""

end Token

structure Insertion where
  name : String
  -- How much is left to read after the alias.
  left : Nat
  -- Whether the text ends in a blank, so that the word after it may be an alias, too.
  opens : Bool
  passed : Bool
deriving DecidableEq, Repr

structure Pending where
  number : Nat
  ending : List Char
  stripTabs : Bool
  literal : Bool
deriving DecidableEq, Repr

structure Expecting where
  keyword : Bool := false
  mayAlias : Bool := false
  newline : Bool := false
  -- The word tells where a document ends.
  ending : Bool := false
deriving DecidableEq, Repr

inductive Arrow where
  | file (opening : Opening)
  | copy
  | document (stripTabs : Bool)
deriving DecidableEq, Repr

structure Source where
  rest : List Char
  line : Nat := 1
  aliases : List (String × String) := []
  insertions : List Insertion := []
  expecting : Expecting := {}
  token : Token := .finish
  -- Whether the last token is to be read again.
  again : Bool := false
  word : Word := []
  quoted : Bool := false
  arrow : Nat × Arrow := (0, .copy)
  pending : List Pending := []
  count : Nat := 0
  -- The documents that are known from an earlier reading of the same text.
  known : List (Nat × Word) := []
  documents : List (Nat × Word) := []

abbrev Reader := StateT Source (Except Fault)

namespace Reader

def stop {α : Type} (text : String) : Reader α := do throw ⟨(← get).line, text⟩

def unexpected {α : Type} (wanted : Option Token) : Reader α := do
  let hint := match wanted with
    | some token => " (expecting " ++ token.describe ++ ")"
    | none => ""
  stop ((← get).token.describe ++ " unexpected" ++ hint)

def nextLine : Reader Unit := modify fun source => { source with line := source.line + 1 }

def ends (left : Nat) (insertion : Insertion) : Bool := !insertion.passed && left = insertion.left

-- An alias is kept as long as a later one is.
def pass (left : Nat) : List Insertion → List Insertion × Bool
  | [] => ([], false)
  | latest :: older =>
    if latest.passed && left ≤ latest.left then pass left older
    else
      let active := latest :: older
      (active.map fun insertion =>
          { insertion with passed := insertion.passed || ends left insertion },
        active.any fun insertion => insertion.opens && ends left insertion)

def next : Reader (Option Char) := do
  let source ← get
  if source.insertions.isEmpty then set { source with rest := source.rest.drop 1 }
  else
    let (insertions, opened) := pass source.rest.length source.insertions
    let mayAlias := source.expecting.mayAlias || opened
    set { source with
      rest := source.rest.drop 1
      insertions
      expecting := { source.expecting with mayAlias } }
  pure source.rest.head?

def unread (char : Option Char) : Reader Unit :=
  match char with
  | some char => modify fun source => { source with rest := char :: source.rest }
  | none => pure ()

def joints : List Char → Nat × List Char
  | '\\' :: '\n' :: rest =>
    let (count, rest) := joints rest
    (count + 1, rest)
  | text => (0, text)

def nextJoined : Reader (Option Char) := do
  let (count, rest) := joints (← get).rest
  if count ≠ 0 then modify fun source => { source with rest, line := source.line + count }
  next

def expecting (expected : Expecting) : Reader Unit := modify ({ · with expecting := expected })

def pushBack : Reader Unit := modify ({ · with again := true })

def found (token : Token) : Reader Token := do
  modify ({ · with token })
  pure token

def insert (name text : String) : Reader Unit :=
  modify fun source =>
    let last := text.toList.getLast?
    let opens := last = some ' ' || last = some '\t'
    { source with
      rest := text.toList ++ source.rest
      insertions := ⟨name, source.rest.length, opens, false⟩ :: source.insertions }

def alias? (name : String) : Reader (Option String) := do
  let source ← get
  let busy := source.insertions.any fun insertion =>
    insertion.name = name && insertion.left ≤ source.rest.length
  pure (if busy then none else source.aliases.lookup name)

end Reader

end HostTools.Shell
