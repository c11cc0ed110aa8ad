import HostTools.Text.Digits

set_option autoImplicit false

namespace HostTools.ValuePattern

def afterFraction (text : List Char) : List Char :=
  let rest := match text with
    | '.' :: rest => rest.dropWhile Char.isDigit
    | rest => rest
  match rest with
  | mark :: '+' :: digit :: rest =>
    if (mark = 'e' || mark = 'E') && digit.isDigit then rest.dropWhile Char.isDigit
    else mark :: '+' :: digit :: rest
  | mark :: '-' :: digit :: rest =>
    if (mark = 'e' || mark = 'E') && digit.isDigit then rest.dropWhile Char.isDigit
    else mark :: '-' :: digit :: rest
  | mark :: digit :: rest =>
    if (mark = 'e' || mark = 'E') && digit.isDigit then rest.dropWhile Char.isDigit
    else mark :: digit :: rest
  | rest => rest

def isNumber (text : List Char) : Bool :=
  let size := match text with
    | '+' :: rest => rest
    | '-' :: rest => rest
    | rest => rest
  let word := String.ofList (size.map Char.toLower)
  word = "inf" || word = "infinity" || word = "nan" ||
    ((size.any Char.isDigit) && (match size with
      | '.' :: digit :: _ => digit.isDigit
      | digit :: _ => digit.isDigit
      | [] => false) && (afterFraction (size.dropWhile Char.isDigit)).isEmpty)

def hexadecimal? (count : Nat) (text : List Char) : Option (Char × List Char) :=
  let digits := text.take count
  if digits.length = count then
    match Digits.readOnto 16 0 digits with
    | some number =>
      if number < 0x110000 && !(0xd800 ≤ number && number < 0xe000) then
        some (Char.ofNat number, text.drop count)
      else none
    | none => none
  else none

inductive Escape where
  | char (c : Char)
  | kinds
  | position
deriving DecidableEq, Repr

-- Places between words are not for automata.
def escape? : List Char → Option (Escape × List Char)
  | [] => none
  | c :: rest =>
    if c = 'x' then (hexadecimal? 2 rest).map fun (c, rest) => (.char c, rest)
    else if c = 'u' then (hexadecimal? 4 rest).map fun (c, rest) => (.char c, rest)
    else if c = 'U' then (hexadecimal? 8 rest).map fun (c, rest) => (.char c, rest)
    else if c = 'p' || c = 'P' then
      match rest with
      | name :: rest =>
        if "CLMNPSZclmnpsz".toList.contains name then some (.kinds, rest) else none
      | [] => none
    else if "dswDSW".toList.contains c then some (.kinds, rest)
    else if c = 'A' || c = 'z' then some (.position, rest)
    else if "aftnrv".toList.contains c then
      some (.char (if c = 't' then '\t' else if c = 'n' then '\n' else if c = 'r' then '\r'
        else Char.ofNat (if c = 'a' then 7 else if c = 'f' then 12 else 11)), rest)
    else if c.toNat < 0x80 && !c.isAlphanum && c ≠ '<' && c ≠ '>' then some (.char c, rest)
    else none

def classItem? : List Char → Option (Option Char × List Char)
  | [] => none
  | '\\' :: rest =>
    match escape? rest with
    | some (.char c, rest) => some (some c, rest)
    | some (.kinds, rest) => some (none, rest)
    | _ => none
  | c :: rest => some (some c, rest)

def afterNamed? (text : List Char) : Option (List Char) :=
  let inner := match text with
    | '^' :: rest => rest
    | rest => rest
  let name := String.ofList (inner.takeWhile Char.isAlpha)
  match inner.dropWhile Char.isAlpha with
  | ':' :: ']' :: rest =>
    if ["alnum", "alpha", "ascii", "blank", "cntrl", "digit", "graph", "lower", "print", "punct",
      "space", "upper", "word", "xdigit"].contains name then some rest else none
  | _ => none

-- A caret, hyphens, and a closing bracket in front all belong to the class.
def classStart (text : List Char) : List Char :=
  let rest := match text with
    | '^' :: rest => rest
    | rest => rest
  let inner := rest.dropWhile (· = '-')
  if inner.length < rest.length then inner
  else
    match inner with
    | ']' :: inner => inner
    | inner => inner

def afterClass? : Nat → Nat → List Char → Option (List Char)
  | 0, _, _ => none
  | _, 0, rest => some rest
  | _, _, [] => none
  | fuel + 1, depth + 1, text =>
    match text with
    | ']' :: rest => afterClass? fuel depth rest
    | '[' :: rest =>
      match (match rest with
        | ':' :: named => afterNamed? named
        | _ => none) with
      | some rest => afterClass? fuel (depth + 1) rest
      | none => afterClass? fuel (depth + 2) (classStart rest)
    | '&' :: '&' :: rest => afterClass? fuel (depth + 1) rest
    | '-' :: '-' :: rest => afterClass? fuel (depth + 1) rest
    | '~' :: '~' :: rest => afterClass? fuel (depth + 1) rest
    | text =>
      match classItem? text with
      | none => none
      | some (first, '-' :: next :: rest) =>
        if next = ']' || next = '-' then afterClass? fuel (depth + 1) ('-' :: next :: rest)
        else
          match first, classItem? (next :: rest) with
          | some first, some (some last, rest) =>
            if first ≤ last then afterClass? fuel (depth + 1) rest else none
          | _, _ => none
      | some (_, rest) => afterClass? fuel (depth + 1) rest

-- Each flag comes once, and a hyphen is followed by a flag.
def afterFlags? : List Char → Bool → List Char → Option (Char × List Char)
  | _, _, [] => none
  | seen, dangling, c :: rest =>
    if c = ':' || c = ')' then
      if dangling || (c = ')' && seen.isEmpty) then none else some (c, rest)
    else if c = '-' then
      if seen.contains '-' then none else afterFlags? ('-' :: seen) true rest
    else if "imsURux".toList.contains c && !seen.contains c then afterFlags? (c :: seen) false rest
    else none

def groupName? (text : List Char) : Option (String × List Char) :=
  let isFirst (c : Char) : Bool := c.isAlpha || c = '_'
  let isNext (c : Char) : Bool := isFirst c || c.isDigit || c = '.' || c = '[' || c = ']'
  match text with
  | first :: rest =>
    match rest.dropWhile isNext with
    | '>' :: after =>
      if isFirst first then some (String.ofList (first :: rest.takeWhile isNext), after) else none
    | _ => none
  | [] => none

-- `names` are the groups named so far, `depth` counts the open groups, and `atom` says whether
-- something stands before that can be repeated.
def isExpression : Nat → List String → Nat → Bool → List Char → Bool
  | 0, _, _, _, _ => false
  | _, _, depth, _, [] => depth = 0
  | fuel + 1, names, depth, atom, c :: rest =>
    match c with
    | '(' =>
      if 250 ≤ depth then false
      else
        let named (text : List Char) : Bool :=
          match groupName? text with
          | some (name, rest) =>
            !names.contains name && isExpression fuel (name :: names) (depth + 1) false rest
          | none => false
        match rest with
        | '?' :: 'P' :: '<' :: rest => named rest
        | '?' :: '<' :: rest => named rest
        | '?' :: rest =>
          match afterFlags? [] false rest with
          | some (':', rest) => isExpression fuel names (depth + 1) false rest
          | some (_, rest) => isExpression fuel names depth false rest
          | none => false
        | rest => isExpression fuel names (depth + 1) false rest
    | ')' => depth ≠ 0 && isExpression fuel names (depth - 1) true rest
    | '|' => isExpression fuel names depth false rest
    | '[' =>
      match afterClass? (rest.length + 1) 1 (classStart rest) with
      | some rest => isExpression fuel names depth true rest
      | none => false
    | '\\' =>
      match escape? rest with
      | some (_, rest) => isExpression fuel names depth true rest
      | none => false
    | '\x7b' => false
    | _ =>
      if c = '?' || c = '*' || c = '+' then
        atom && isExpression fuel names depth true
          (match rest with
            | '?' :: rest => rest
            | rest => rest)
      else isExpression fuel names depth true rest

-- A truth value, a number, or a regular expression that an automaton without look-around can match.
def isValid (text : List Char) : Bool :=
  isNumber text || isExpression (text.length + 1) [] 0 false text

end HostTools.ValuePattern
