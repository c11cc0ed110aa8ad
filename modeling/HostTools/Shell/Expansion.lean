import HostTools.Shell.Field
import HostTools.Shell.Glob
import HostTools.Shell.Pattern
import HostTools.Shell.Variable

set_option autoImplicit false

namespace HostTools.Shell

structure Manner where
  -- Whether the word is divided into fields.
  full : Bool := false
  quoted : Bool := false
  -- Whether the word is a value, where a tilde may also stand after a colon.
  isValue : Bool := false

namespace Expansion

def homes : List (String × String) :=
  [("root", "/root"), ("daemon", "/usr/sbin"), ("bin", "/bin"), ("sys", "/dev"), ("sync", "/bin"),
    ("games", "/usr/games"), ("man", "/var/cache/man"), ("lp", "/var/spool/lpd"),
    ("mail", "/var/mail"), ("news", "/var/spool/news"), ("uucp", "/var/spool/uucp"), ("proxy", "/bin"),
    ("www-data", "/var/www"), ("backup", "/var/backups"), ("list", "/var/list"), ("irc", "/run/ircd"),
    ("_apt", "/nonexistent"), ("nobody", "/nonexistent")]

def tildeName (isValue : Bool) : Word → List Char
  | .plain char :: rest =>
    if char = '/' || (isValue && char = ':') then [] else char :: tildeName isValue rest
  | _ => []

def endsName : Word → Bool
  | [] => true
  | .plain _ :: _ => true
  | _ => false

def tildes (home : String → Option String) (isValue : Bool) : Bool → Word → Word
  | _, [] => []
  | true, .plain '~' :: rest =>
    let name := tildeName isValue rest
    match if endsName (rest.drop name.length) then home (String.ofList name) else none with
    | some text =>
      text.toList.map .quoted ++ tildes home isValue false (rest.drop name.length)
    | none => .plain '~' :: tildes home isValue false rest
  | _, .plain ':' :: rest => .plain ':' :: tildes home isValue isValue rest
  | _, piece :: rest => piece :: tildes home isValue false rest
termination_by _ word => word.length
decreasing_by
  all_goals simp only [List.length_cons, List.length_drop]
  all_goals omega

-- Where the word is not a value but gives one to a name, tildes count after the first equals sign.
def withHomes (manner : Manner) (word : Word) : Act Word := do
  if manner.quoted then pure word
  else
    let own ← valueOf "HOME"
    let home (name : String) : Option String := if name.isEmpty then own else homes.lookup name
    pure (tildes home manner.isValue true word)

def isPlain : Piece → Bool
  | .plain _ => true
  | _ => false

def valueMarks (quoted : Bool) (text : String) : List Mark :=
  if quoted then Mark.ofText true text else Mark.divided (Mark.ofText false text)

def argumentMarks (quoted : Bool) (gap : Mark) (args : List String) : List Mark :=
  if args.isEmpty then []
  else
    let marks := (args.map (Mark.ofText quoted)).intersperse [gap]
    .enter quoted :: marks.flatten ++ [.leave]

def allArguments (manner : Manner) (name : String) : Act (List Mark) := do
  let args := (← process).args
  if manner.full && !manner.quoted then
    let gap : Mark := if (← valueOf "IFS").isSome then .between else .letter ' ' false
    pure (argumentMarks false gap args)
  else if manner.full && name = "@" then pure (argumentMarks true .between args)
  else pure (Mark.ofText manner.quoted ((← joint).intercalate args))

def isAll (name : String) : Bool := name = "@" || name = "*"

def textOf (name : String) : Act (Option String) := do
  if isAll name then pure (some ((← joint).intercalate (← process).args)) else parameter? name

def parameterMarks (manner : Manner) (name : String) : Act (Option (List Mark)) := do
  if isAll name then some <$> allArguments manner name
  else pure ((← parameter? name).map (valueMarks manner.quoted))

def needSet (name : String) : Act Unit := do
  if (← process).has .needSet then fail (name ++ ": parameter not set")

-- The ends of arguments count as characters here.
def trimMarks (trim : List Char → List Char) (marks : List Mark) : List Mark :=
  let inner := marks.filter fun mark =>
    match mark with
    | .letter _ _ => true
    | .between => true
    | _ => false
  let quoted := inner.any fun mark =>
    match mark with
    | .letter _ quoted => quoted
    | _ => false
  let zero := Char.ofNat 0
  let kept := trim (inner.map fun mark =>
    match mark with
    | .letter char _ => char
    | _ => zero)
  let shown : List Mark := kept.map fun char => if char = zero then .between else .letter char quoted
  let isEdge (mark : Mark) : Bool :=
    match mark with
    | .enter _ => true
    | _ => false
  match marks.find? isEdge with
  | some edge => edge :: shown ++ [.leave]
  | none => shown

mutual

def piece (capture : Script → Act String) : Nat → Manner → Piece → Act (List Mark)
  | 0, _, _ => throw .exhausted
  | fuel + 1, manner, found => do
    match found with
    | .plain char => pure [.letter char manner.quoted]
    | .quoted char => pure [.letter char true]
    | .present => pure [.present]
    | .unreadable _ => fail "Bad substitution"
    | .value quoted name =>
      let manner := { manner with quoted := manner.quoted || quoted }
      match ← parameterMarks manner name with
      | some marks => pure marks
      | none =>
        needSet name
        pure []
    | .length quoted name =>
      match ← textOf name with
      | some text => pure (valueMarks (manner.quoted || quoted) (Digits.decimalText text.length))
      | none =>
        needSet name
        pure (valueMarks (manner.quoted || quoted) "0")
    | .fallback quoted name kind orEmpty other =>
      let manner := { manner with quoted := manner.quoted || quoted }
      let held := (← textOf name).any fun text => !(orEmpty && text.isEmpty)
      let value : Act (List Mark) := do pure ((← parameterMarks manner name).getD [])
      match kind with
      | .present => if held then inner capture fuel manner other else pure []
      | .other => if held then value else inner capture fuel manner other
      | .assign =>
        if held then value
        else
          let marks ← word capture fuel { quoted := manner.quoted } other
          assignNamed name (Mark.text marks)
          value
      | .complain =>
        if held then value
        else
          let marks ← word capture fuel { quoted := manner.quoted } other
          let text := if !other.isEmpty then Mark.text marks
            else if orEmpty then "parameter not set or null" else "parameter not set"
          fail (name ++ ": " ++ text)
    | .trim quoted name fromEnd longest pattern =>
      let manner := { manner with quoted := manner.quoted || quoted }
      match ← parameterMarks manner name with
      | some marks =>
        let found ← word capture fuel {} pattern
        let compiled := Pattern.ofText (Pattern.guarded (Mark.characters found))
        pure (trimMarks (Pattern.trim fromEnd longest compiled) marks)
      | none =>
        needSet name
        pure []
    | .arithmetic quoted expression =>
      let marks ← word capture fuel { quoted := true } expression
      let text := Mark.text marks
      let bindings := (← process).bindings
      let texts (name : String) : String := ((bindings.lookup name).bind (·.value)).getD ""
      match Arithmetic.evaluate texts text.toList with
      | .error (.form reason) =>
        fail ("arithmetic expression: " ++ reason ++ ": \"" ++ text ++ "\"")
      | .error (.notNumber value) => fail ("Illegal number: " ++ value)
      | .error .overflow => throw (.signal 8)
      | .ok (value, assigned) =>
        assigned.forM fun (name, value) => assign name (Digits.signedText value) false
        pure (valueMarks (manner.quoted || quoted) (Digits.signedText value))
    | .output quoted body =>
      let text ← capture body
      let trimmed := (text.toList.reverse.dropWhile (· = '\n')).reverse
      pure (valueMarks (manner.quoted || quoted) (String.ofList trimmed))

-- `capture` gives the output of a command. Where the word is not quoted, its own characters are
-- divided, too.
def inner (capture : Script → Act String) : Nat → Manner → Word → Act (List Mark)
  | 0, _, _ => throw .exhausted
  | fuel + 1, manner, other => do
    let runs := (← withHomes manner other).splitBy fun a b => isPlain a && isPlain b
    let marks ← runs.mapM fun run => do
      let marks ← run.mapM (piece capture fuel manner)
      let plain := !manner.quoted && run.head?.any isPlain
      pure (if plain then Mark.divided marks.flatten else marks.flatten)
    pure marks.flatten

def word (capture : Script → Act String) : Nat → Manner → Word → Act (List Mark)
  | 0, _, _ => throw .exhausted
  | fuel + 1, manner, given => do
    let marks ← (← withHomes manner given).mapM (piece capture fuel manner)
    pure marks.flatten

end

def text (capture : Script → Act String) (fuel : Nat) (manner : Manner) (given : Word) : Act String := do
  pure (Mark.text (← word capture fuel manner given))

def fields (capture : Script → Act String) (fuel : Nat) (given : Word) : Act (List String) := do
  let marks ← word capture fuel { full := true } given
  let found := Division.fieldsOf (← separators) none marks
  let current ← process
  if current.has .plainNames then pure (found.map Field.text)
  else
    let disk := (← world).disk
    pure (found.flatMap (Glob.words disk current.directory))

def divideWord : Word → Option (Word × Word)
  | [] => none
  | .plain '=' :: rest => some ([], rest)
  | .plain char :: rest =>
    if Name.isInside char then (divideWord rest).map fun (front, back) => (.plain char :: front, back)
    else none
  | _ => none

-- A word that assigns is not divided.
def argument (capture : Script → Act String) (fuel : Nat) (given : Word) : Act (List String) := do
  match divideWord given with
  | some (.plain first :: front, back) =>
    if Name.isStart first then
      let value ← text capture fuel { isValue := true } back
      pure [literalText (.plain first :: front) ++ "=" ++ value]
    else fields capture fuel given
  | _ => fields capture fuel given

def fits (capture : Script → Act String) (fuel : Nat) (pattern : Word) (subject : String) : Act Bool := do
  let marks ← word capture fuel {} pattern
  pure (Pattern.matchesText (Pattern.ofText (Pattern.guarded (Mark.characters marks))) subject.toList)

end Expansion

end HostTools.Shell
