import HostTools.Shell.Lexeme

set_option autoImplicit false

namespace HostTools.Shell.Quoting

def isShown (char : Char) : Bool := ' ' ≤ char && char ≤ '~'

def escapedChar (char : Char) : List Char :=
  match char with
  | '\x07' => ['\\', 'a']
  | '\x08' => ['\\', 'b']
  | '\t' => ['\\', 't']
  | '\n' => ['\\', 'n']
  | '\x0b' => ['\\', 'v']
  | '\x0c' => ['\\', 'f']
  | '\r' => ['\\', 'r']
  | _ =>
    let digits := Nat.toDigits 8 char.toNat
    '\\' :: List.replicate (3 - digits.length) '0' ++ digits

def inMessage (text : String) : String :=
  let shown := text.toList.flatMap fun char =>
    if char = singleQuote || char = '\\' then ['\\', char]
    else if isShown char then [char]
    else escapedChar char
  String.ofList (singleQuote :: shown ++ [singleQuote])

def isSpecial (text : List Char) (place : Nat) (char : Char) : Bool :=
  !isShown char || char = singleQuote || char = backQuote ||
    " !\"$&()*;<=>?[\\^|".toList.contains char ||
    (place = 0 && (char = '~' || char = '#')) ||
    (text.length = 1 && (char = '\x7b' || char = '\x7d'))

def isPlain (text : List Char) (place : Nat) (char : Char) : Bool :=
  char.isAlphanum || char = singleQuote || " %+,-./:]_@".toList.contains char ||
    (place = 0 && (char = '~' || char = '#')) ||
    (text.length = 1 && (char = '\x7b' || char = '\x7d'))

def single (escaping : Bool) : List Char → List Char
  | [] => [singleQuote]
  | char :: rest =>
    if char = singleQuote then [singleQuote, '\\', singleQuote, singleQuote] ++ single false rest
    else if isShown char then
      (if escaping then [singleQuote, singleQuote, char] else [char]) ++ single false rest
    else
      (if escaping then [] else [singleQuote, '$', singleQuote]) ++ escapedChar char ++ single true rest

-- A message needs quotes around some characters more.
def forShell (more : List Char) (text : String) : String :=
  let chars := text.toList
  let places := (List.range chars.length).zip chars
  let special := places.any fun (place, char) => isSpecial chars place char || more.contains char
  if !chars.isEmpty && !special then text
  else if chars.contains singleQuote && places.all fun (place, char) => isPlain chars place char then
    "\"" ++ text ++ "\""
  else String.ofList (singleQuote :: single false chars)

def file (name : String) : String := forShell [':'] name

end HostTools.Shell.Quoting
