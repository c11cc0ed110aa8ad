import HostTools.Shell.Lexeme

set_option autoImplicit false

namespace HostTools.Shell.Parser

open Reader

def nameFrom (isInside : Char → Bool) : Nat → List Char → Reader (String × Option Char)
  | 0, reversed => pure (String.ofList reversed.reverse, none)
  | fuel + 1, reversed => do
    let char ← nextJoined
    match char with
    | some found =>
      if isInside found then nameFrom isInside fuel (found :: reversed)
      else pure (String.ofList reversed.reverse, char)
    | none => pure (String.ofList reversed.reverse, none)

def longestName : Nat := Nat.pow 2 40

def fallback? : Char → Option Fallback
  | '-' => some .other
  | '=' => some .assign
  | '?' => some .complain
  | '+' => some .present
  | _ => none

def operator (name : String) (char : Option Char) : Reader (Substitution × String) := do
  let trimmed (fromEnd : Bool) : Reader (Substitution × String) := do
    let second ← nextJoined
    if second = char then pure (.trim fromEnd true, name)
    else
      unread second
      pure (.trim fromEnd false, name)
  match char with
  | some '%' => trimmed true
  | some '#' => trimmed false
  | some '\x7d' => pure (.value, name)
  | some ':' =>
    match (← nextJoined).bind fallback? with
    | some kind => pure (.fallback kind true, name)
    | none => pure (.unreadable, name)
  | _ =>
    match char.bind fallback? with
    | some kind => pure (.fallback kind false, name)
    | none => pure (.unreadable, name)

def named? (char : Option Char) : Reader (Option (String × Option Char)) := do
  match char with
  | some first =>
    if Name.isStart first then some <$> nameFrom Name.isInside longestName [first]
    else if first.isDigit then some <$> nameFrom Char.isDigit longestName [first]
    else pure none
  | none => pure none

def lengthOf (name : String) (after : Option Char) : Reader (Substitution × String) := do
  unread after
  pure (if after = some '\x7d' then .length else .unreadable, name)

def braced : Reader (Substitution × String) := do
  let char ← nextJoined
  match ← named? char with
  | some (name, after) => operator name after
  | none =>
    let special (char after : Option Char) : Reader (Substitution × String) := do
      match char with
      | some found =>
        if Name.isSpecial found then operator (String.singleton found) after
        else
          unread after
          pure (.unreadable, "")
      | none =>
        unread after
        pure (.unreadable, "")
    match char with
    | some '\x7d' =>
      unread char
      pure (.unreadable, "")
    | some '#' =>
      let second ← nextJoined
      match ← named? second with
      | some (name, after) => lengthOf name after
      | none =>
        let third ← nextJoined
        if second = some '\x7d' || third ≠ some '\x7d' then
          unread third
          special char second
        else
          match second with
          | some found =>
            if Name.isSpecial found then lengthOf (String.singleton found) third
            else
              unread third
              pure (.unreadable, "")
          | none =>
            unread third
            pure (.unreadable, "")
    | _ => do
      let after ← nextJoined
      special char after

-- A backslash protects a back quote, a backslash and a dollar.
def backQuoted (inDouble : Bool) : Nat → List Char → Reader (List Char)
  | 0, reversed => pure reversed.reverse
  | fuel + 1, reversed => do
    match ← nextJoined with
    | none => stop "EOF in backquote substitution"
    | some '\\' =>
      match ← next with
      | none => backQuoted inDouble fuel ('\\' :: reversed)
      | some char =>
        let protects := char = '\\' || char = backQuote || char = '$' || (inDouble && char = '"')
        backQuoted inDouble fuel (if protects then char :: reversed else char :: '\\' :: reversed)
    | some char =>
      if char = backQuote then pure reversed.reverse
      else
        if char = '\n' then nextLine
        backQuoted inDouble fuel (char :: reversed)

-- The last line may stand after tabs.
def isEnding (document : Pending) (text : List Char) : Bool :=
  document.ending.isPrefixOf text &&
    (let after := text.drop document.ending.length
    after.isEmpty || after.head? = some '\n')

def lineStart (document : Option Pending) (char : Option Char) : Reader (Option Char) := do
  match document, char with
  | some document, some first =>
    let whole := first :: (← get).rest
    let text := if document.stripTabs then whole.dropWhile (· = '\t') else whole
    if isEnding document text then
      modify ({ · with rest := (text.drop document.ending.length).drop 1 })
      nextLine
      pure none
    else
      modify ({ · with rest := text.drop 1 })
      pure text.head?
  | _, _ => pure char

def advance (building : Building) : Reader (Option Char) :=
  if building.nest.mode = .single then next else nextJoined

def descriptor? (building : Building) : Option (Option Char) :=
  match building.codes with
  | [] => some none
  | [.letter char] => if char.isDigit then some (some char) else none
  | _ => none

def arrow (char : Char) (digit : Option Char) : Reader Unit := do
  let second ← nextJoined
  let file (opening : Opening) : Arrow := .file opening
  let found ← (if char = '>' then
      match second with
      | some '>' => pure (1, file .append)
      | some '|' => pure (1, file .clobber)
      | some '&' => pure (1, .copy)
      | _ => do
        unread second
        pure (1, file .write)
    else
      match second with
      | some '<' => do
        let third ← nextJoined
        if third = some '-' then pure (0, .document true)
        else
          unread third
          pure (0, .document false)
      | some '&' => pure (0, .copy)
      | some '>' => pure (0, file .both)
      | _ => do
        unread second
        pure (0, file .read) : Reader (Nat × Arrow))
  let descriptor := match digit with
    | some char => char.toNat - 48
    | none => found.1
  modify ({ · with arrow := (descriptor, found.2) })

def finishWord (building : Building) (char : Option Char) : Reader Token := do
  if building.nest.mode = .arithmetic then stop "Missing '))'"
  else if building.nest.mode ≠ .base && building.document.isNone then
    stop "Unterminated quoted string"
  else if building.nest.braces ≠ 0 then stop ("Missing '" ++ "\x7d'")
  else
    let isArrow := building.document.isNone && !building.quoted && (char = some '<' || char = some '>')
    match char, if isArrow then descriptor? building else none with
    | some first, some digit =>
      arrow first digit
      found .redirect
    | _, _ =>
      if building.document.isNone then unread char
      modify ({ · with word := Code.toWord building.codes.reverse, quoted := building.quoted })
      found .word

def assignment? (word : Word) : Option (String × Word) :=
  let name := word.takeWhile fun piece =>
    match piece with
    | .plain char => Name.isInside char
    | _ => false
  match bareText name, word.drop name.length with
  | some text, .plain '=' :: value => if Name.isName text then some (text, value) else none
  | _, _ => none

def isEnder : Token → Bool
  | .finish => true
  | .mark text => text = ")" || text = ";;"
  | .keyword text => ["do", "done", "elif", "else", "esac", "fi", "then", "\x7d"].contains text
  | _ => false

structure Simple where
  assignments : List (String × Word) := []
  words : List Word := []
  redirections : List Redirection := []
  -- Whether the next word may be an assignment or an alias.
  atStart : Bool := true

def commandStart : Expecting := { keyword := true, mayAlias := true }

def commandBelow : Expecting := { keyword := true, mayAlias := true, newline := true }

mutual

def letters : Nat → Building → Option Char → Reader Token
  | 0, building, char => finishWord building char
  | fuel + 1, building, char => do
    match char with
    | none => finishWord building none
    | some found =>
      let nest := building.nest
      let onward (building : Building) : Reader Token := do
        let char ← advance building
        letters fuel building char
      match Role.of nest.mode found with
      | .newline =>
        if nest.mode = .base && nest.braces = 0 then finishWord building char
        else
          nextLine
          let building := building.push (.letter found)
          let char ← advance building
          let char ← lineStart building.document char
          letters fuel building char
      | .letter => onward (building.push (.letter found))
      | .guarded =>
        let escapes := building.document.isNone || nest.double || nest.braces ≠ 0
        onward (building.push (if escapes then .escaped found else .letter found))
      | .backslash =>
        match ← next with
        | none => onward (building.push (.escaped '\\'))
        | some char => onward (building.escape char)
      | .openSingle => onward { building with nest := { nest with mode := .single } }.mark
      | .openDouble =>
        onward { building with nest := { nest with mode := .double, double := true } }.toggle
      | .closeQuote => onward (building.closeQuote found)
      | .dollar => do
        let building ← dollar fuel building
        onward building
      | .closeBrace => onward building.closeBrace
      | .openParenthesis =>
        let building := building.push (.letter found)
        onward { building with nest := { nest with parentheses := nest.parentheses + 1 } }
      | .closeParenthesis =>
        if nest.parentheses ≠ 0 then
          let building := building.push (.letter found)
          onward { building with nest := { nest with parentheses := nest.parentheses - 1 } }
        else
          let second ← nextJoined
          if second = some ')' then onward (building.push .closeArithmetic).leave
          else
            unread second
            onward (building.push (.letter found))
      | .backQuote =>
        if (← get).expecting.ending then
          onward { building.push (.letter found) with quoted := true }
        else
          let body ← quotedScript fuel nest.double
          onward (building.push (.output body))
      | .separator =>
        if nest.braces = 0 then finishWord building char
        else onward (building.push (.letter found))

def dollar : Nat → Building → Reader Building
  | 0, building => pure building
  | fuel + 1, building => do
    let char ← nextJoined
    let bare : Reader Building := do
      unread char
      pure (building.push (.letter '$'))
    if (← get).expecting.ending then bare
    else
      match char with
      | none => bare
      | some '(' =>
        let second ← nextJoined
        if second = some '(' then
          pure ((building.enter { mode := .arithmetic, double := true }).push .arithmetic)
        else
          unread second
          let body ← enclosedScript fuel
          pure (building.push (.output body))
      | some '\x7b' =>
        let (substitution, name) ← braced
        pure (building.parameter substitution name)
      | some found =>
        if Name.isStart found then
          let (name, after) ← nameFrom Name.isInside longestName [found]
          unread after
          pure (building.parameter .value name)
        else if found.isDigit || Name.isSpecial found then
          pure (building.parameter .value (String.singleton found))
        else bare

def enclosedScript : Nat → Reader Script
  | 0 => pure .nothing
  | fuel + 1 => do
    let pending := (← get).pending
    modify ({ · with pending := [] })
    let body ← list fuel false true .nothing
    if (← token fuel) ≠ .mark ")" then unexpected (some (.mark ")"))
    documents fuel
    modify ({ · with pending })
    pure body

def quotedScript : Nat → Bool → Reader Script
  | 0, _ => pure .nothing
  | fuel + 1, inDouble => do
    let text ← backQuoted inDouble longestName []
    let saved ← get
    set { saved with rest := text, line := 1, insertions := [], pending := [], again := false }
    let body ← list fuel false true .nothing
    documents fuel
    modify fun source => { source with
      rest := saved.rest
      line := saved.line
      insertions := saved.insertions
      pending := saved.pending
      again := false }
    pure body

def documents : Nat → Reader Unit
  | 0 => pure ()
  | fuel + 1 => do
    match (← get).pending with
    | [] => pure ()
    | document :: more => do
      modify ({ · with pending := more })
      let mode : Mode := if document.literal then .single else .double
      let building : Building :=
        { nest := { mode, double := !document.literal }, document := some document }
      let char ← advance building
      let char ← lineStart (some document) char
      let _ ← letters fuel building char
      modify fun source =>
        { source with documents := (document.number, source.word) :: source.documents }
      documents fuel

def lex : Nat → Reader Token
  | 0 => found .finish
  | fuel + 1 => do
    if (← get).again then
      modify ({ · with again := false })
      pure (← get).token
    else
      let char ← nextJoined
      let double (first second : String) : Reader Token := do
        let next ← nextJoined
        if next = char then found (.mark second)
        else
          unread next
          found (.mark first)
      match char with
      | none => found .finish
      | some ' ' => lex fuel
      | some '\t' => lex fuel
      | some '#' => do
        modify fun source => { source with rest := source.rest.dropWhile (· ≠ '\n') }
        lex fuel
      | some '\n' => do
        nextLine
        found (.mark "\n")
      | some '&' => double "&" "&&"
      | some '|' => double "|" "||"
      | some ';' => double ";" ";;"
      | some '(' => found (.mark "(")
      | some ')' => found (.mark ")")
      | some _ => letters fuel { nest := { mode := .base } } char

def belowLines : Nat → Token → Reader Token
  | 0, token => pure token
  | fuel + 1, token => do
    if token = .mark "\n" then
      documents fuel
      expecting {}
      let next ← lex fuel
      belowLines fuel next
    else pure token

def tokenOf : Nat → Expecting → Reader Token
  | 0, _ => found .finish
  | fuel + 1, asked => do
    let token ← lex fuel
    let token ← (if asked.newline then belowLines fuel token else pure token)
    let source ← get
    let keyword := asked.keyword || source.expecting.keyword
    let mayAlias := asked.mayAlias || source.expecting.mayAlias
    set { source with expecting := {} }
    match if token = .word && !source.quoted then bareText source.word else none with
    | none => pure token
    | some text =>
      if keyword && Name.reserved.contains text then found (.keyword text)
      else
        let meaning? ← (if mayAlias then alias? text else pure none)
        match meaning? with
        | some meaning =>
          insert text meaning
          tokenOf fuel { asked with keyword, mayAlias }
        | none => pure token

def token : Nat → Reader Token
  | 0 => found .finish
  | fuel + 1 => do tokenOf fuel (← get).expecting

-- At the top a list ends with its line; inside of a command it runs over lines, and may have no
-- command only if it may end at once.
def list : Nat → Bool → Bool → Script → Reader Script
  | 0, _, _, before => pure before
  | fuel + 1, top, mayEnd, before => do
    expecting (if top then commandStart else commandBelow)
    let first ← token fuel
    match first with
    | .mark "\n" => do
      documents fuel
      pure before
    | .finish => do
      documents fuel
      pushBack
      let _ ← found .finish
      pure before
    | _ =>
      pushBack
      if !top && mayEnd && isEnder first then pure before
      else
        let second ← andOr fuel
        let after ← token fuel
        let second := if after = .mark "&" then .background second else second
        let joined := if before.isNothing then second else .sequence before second
        match after with
        | .finish => do
          documents fuel
          pushBack
          let _ ← found .finish
          pure joined
        | .mark "\n" => do
          pushBack
          list fuel top true joined
        | .mark "&" => list fuel top true joined
        | .mark ";" => list fuel top true joined
        | _ =>
          if top then unexpected none
          else
            pushBack
            pure joined

def andOr : Nat → Reader Script
  | 0 => pure .nothing
  | fuel + 1 => do
    let first ← pipeline fuel
    andOrAfter fuel first

def andOrAfter : Nat → Script → Reader Script
  | 0, first => pure first
  | fuel + 1, first => do
    match ← token fuel with
    | .mark "&&" => do
      expecting commandBelow
      let second ← pipeline fuel
      andOrAfter fuel (.both first second)
    | .mark "||" => do
      expecting commandBelow
      let second ← pipeline fuel
      andOrAfter fuel (.either first second)
    | _ =>
      pushBack
      pure first

def pipeline : Nat → Reader Script
  | 0 => pure .nothing
  | fuel + 1 => do
    let negated := (← token fuel) = .keyword "!"
    if negated then expecting commandStart else pushBack
    let first ← command fuel
    let more ← stages fuel
    let whole := if more.isEmpty then first else .pipeline (first :: more)
    pure (if negated then .negated whole else whole)

def stages : Nat → Reader (List Script)
  | 0 => pure []
  | fuel + 1 => do
    match ← token fuel with
    | .mark "|" => do
      expecting commandBelow
      let first ← command fuel
      let more ← stages fuel
      pure (first :: more)
    | _ =>
      pushBack
      pure []

def command : Nat → Reader Script
  | 0 => pure .nothing
  | fuel + 1 => do
    let line := (← get).line
    let redirected (body : Script) : Reader Script := do
      expecting commandStart
      let after ← redirections fuel
      pure (if after.isEmpty then body
        else match body with
          | .apart line body _ => .apart line body after
          | _ => .redirected line body after)
    match ← token fuel with
    | .keyword "if" => do
      let body ← branch fuel
      redirected body
    | .keyword "while" => do
      let body ← loop fuel false
      redirected body
    | .keyword "until" => do
      let body ← loop fuel true
      redirected body
    | .keyword "for" => do
      let body ← each fuel line
      redirected body
    | .keyword "case" => do
      let body ← select fuel line
      redirected body
    | .keyword "\x7b" => do
      let body ← list fuel false false .nothing
      require fuel (.keyword "\x7d")
      redirected body
    | .mark "(" => do
      let body ← list fuel false false .nothing
      require fuel (.mark ")")
      redirected (.apart line body [])
    | .word => do
      pushBack
      simpleFrom fuel
    | .redirect => do
      pushBack
      simpleFrom fuel
    | _ => unexpected none

def require : Nat → Token → Reader Unit
  | 0, _ => pure ()
  | fuel + 1, wanted => do
    if (← token fuel) ≠ wanted then unexpected (some wanted)

def branch : Nat → Reader Script
  | 0 => pure .nothing
  | fuel + 1 => do
    let condition ← list fuel false false .nothing
    require fuel (.keyword "then")
    let body ← list fuel false false .nothing
    match ← token fuel with
    | .keyword "elif" => do
      let otherwise ← branch fuel
      pure (.choice condition body otherwise)
    | .keyword "else" => do
      let otherwise ← list fuel false false .nothing
      require fuel (.keyword "fi")
      pure (.choice condition body otherwise)
    | _ => do
      pushBack
      require fuel (.keyword "fi")
      pure (.choice condition body .nothing)

def loop : Nat → Bool → Reader Script
  | 0, _ => pure .nothing
  | fuel + 1, untilTrue => do
    let condition ← list fuel false false .nothing
    require fuel (.keyword "do")
    let body ← list fuel false false .nothing
    require fuel (.keyword "done")
    pure (.loop untilTrue condition body)

def each : Nat → Nat → Reader Script
  | 0, _ => pure .nothing
  | fuel + 1, line => do
    let first ← token fuel
    let source ← get
    let name := ((if first = .word && !source.quoted then bareText source.word else none)).getD ""
    if !Name.isName name then stop "Bad for loop variable"
    expecting commandBelow
    let items ← (do
      if (← token fuel) = .keyword "in" then
        let (items, last) ← words fuel
        if last ≠ .mark "\n" && last ≠ .mark ";" then unexpected none
        pure items
      else
        if (← get).token ≠ .mark ";" then pushBack
        pure [[.value true "@"]] : Reader (List Word))
    expecting commandBelow
    require fuel (.keyword "do")
    let body ← list fuel false false .nothing
    require fuel (.keyword "done")
    pure (.each line name items body)

def words : Nat → Reader (List Word × Token)
  | 0 => pure ([], .finish)
  | fuel + 1 => do
    match ← token fuel with
    | .word => do
      let first := (← get).word
      let (more, last) ← words fuel
      pure (first :: more, last)
    | last => pure ([], last)

def select : Nat → Nat → Reader Script
  | 0, _ => pure .nothing
  | fuel + 1, line => do
    require fuel .word
    let subject := (← get).word
    expecting commandBelow
    require fuel (.keyword "in")
    let branches ← branches fuel
    pure (.select line subject branches)

def branches : Nat → Reader (List (List Word × Script))
  | 0 => pure []
  | fuel + 1 => do
    expecting { keyword := true, newline := true }
    match ← token fuel with
    | .keyword "esac" => pure []
    | first => do
      if first = .mark "(" then
        let _ ← token fuel
      let alternatives ← patterns fuel
      if (← get).token ≠ .mark ")" then unexpected (some (.mark ")"))
      let body ← list fuel false true .nothing
      expecting { keyword := true, newline := true }
      match ← token fuel with
      | .keyword "esac" => pure [(alternatives, body)]
      | .mark ";;" => do
        let more ← branches fuel
        pure ((alternatives, body) :: more)
      | _ => unexpected (some (.mark ";;"))

-- Each pattern is the last word that has been read.
def patterns : Nat → Reader (List Word)
  | 0 => pure []
  | fuel + 1 => do
    let first := (← get).word
    match ← token fuel with
    | .mark "|" => do
      let _ ← token fuel
      let more ← patterns fuel
      pure (first :: more)
    | _ => pure [first]

def redirections : Nat → Reader (List Redirection)
  | 0 => pure []
  | fuel + 1 => do
    match ← token fuel with
    | .redirect => do
      let first ← redirection fuel
      let more ← redirections fuel
      pure (first :: more)
    | _ =>
      pushBack
      pure []

def redirection : Nat → Reader Redirection
  | 0 => pure (.copy 0 [])
  | fuel + 1 => do
    let (descriptor, arrow) := (← get).arrow
    let isDocument := match arrow with
      | .document _ => true
      | _ => false
    if isDocument then expecting { ending := true }
    if (← token fuel) ≠ .word then unexpected none
    let source ← get
    match arrow with
    | .file opening => pure (.file descriptor opening source.word)
    | .copy => pure (.copy descriptor source.word)
    | .document stripTabs =>
      let number := source.count
      let ending := (literalText source.word).toList
      let document : Pending := { number, ending, stripTabs, literal := source.quoted }
      set { source with count := number + 1, pending := source.pending ++ [document] }
      pure (.document descriptor source.quoted ((source.known.lookup number).getD []))

def simpleFrom : Nat → Reader Script
  | 0 => pure .nothing
  | fuel + 1 => do
    let line := (← get).line
    simple fuel line {}

def simple : Nat → Nat → Simple → Reader Script
  | 0, line, read => pure (.simple line read.assignments read.words read.redirections)
  | fuel + 1, line, read => do
    expecting { mayAlias := read.atStart }
    let ended : Reader Script := do
      pushBack
      pure (.simple line read.assignments read.words read.redirections)
    match ← token fuel with
    | .word => do
      let word := (← get).word
      match if read.atStart then assignment? word else none with
      | some assignment =>
        simple fuel line { read with assignments := read.assignments ++ [assignment] }
      | none => simple fuel line { read with words := read.words ++ [word], atStart := false }
    | .redirect => do
      let found ← redirection fuel
      simple fuel line { read with redirections := read.redirections ++ [found] }
    | .mark "(" =>
      match read.words, read.assignments, read.redirections with
      | [word], [], [] => do
        require fuel (.mark ")")
        let name := (bareText word).getD ""
        if !Name.isName name || Name.specialBuiltins.contains name then stop "Bad function name"
        expecting commandBelow
        let body ← command fuel
        pure (.function name body)
      | _, _, _ => ended
    | _ => ended

end

structure Line where
  script : Script
  last : Bool

-- How deeply the parts of a script may nest, and how long they may be.
def depth : Nat := Nat.pow 2 60

def document (text : String) : Word :=
  let pending : Pending := { number := 0, ending := [Char.ofNat 0], stripTabs := false, literal := false }
  let building : Building := { nest := { mode := .double, double := true }, document := some pending }
  let read : Reader Word := do
    let char ← advance building
    let _ ← letters depth building char
    pure (← get).word
  match read.run { rest := text.toList } with
  | .ok (word, _) => word
  | .error _ => text.toList.map .quoted

-- The commands of a line are run before the next line is read.
def line (source : Source) : Except Fault (Option Line × Source) :=
  let start : Source := { rest := source.rest, line := source.line, aliases := source.aliases }
  let read (start : Source) : Except Fault (Script × Source) :=
    (list depth true false .nothing).run start
  let result : Except Fault (Script × Source) := match read start with
    | .ok (script, after) =>
      if after.documents.isEmpty then .ok (script, after)
      else read { start with known := after.documents }
    | .error fault => .error fault
  match result with
  | .error fault => .error fault
  | .ok (script, after) =>
    let last := after.again && after.token = .finish
    .ok (if last && script.isNothing then none else some ⟨script, last⟩, after)

end HostTools.Shell.Parser
