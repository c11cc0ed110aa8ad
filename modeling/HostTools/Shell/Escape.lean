import HostTools.Text.Digits

set_option autoImplicit false

namespace HostTools.Shell

inductive Escaped where
  | text (text rest : List Char)
  | stop
  | refused (reason : String)
deriving DecidableEq, Repr

namespace Escape

def digits (base : Nat) : Nat → Nat → List Char → Nat × List Char
  | 0, value, text => (value, text)
  | _ + 1, value, [] => (value, [])
  | count + 1, value, char :: rest =>
    match Digits.inBase? base char with
    | some digit => digits base count (value * base + digit) rest
    | none => (value, char :: rest)

def isOctal (char : Char) : Bool := '0' ≤ char && char ≤ '7'

def letter? : Char → Option Char
  | 'a' => some '\x07'
  | 'b' => some '\x08'
  | 'e' => some '\x1b'
  | 'f' => some '\x0c'
  | 'n' => some '\n'
  | 'r' => some '\r'
  | 't' => some '\t'
  | 'v' => some '\x0b'
  | '\\' => some '\\'
  | _ => none

def octet (value : Nat) : Char := Char.ofNat (value % 256)

def inFormat (text : List Char) : Escaped :=
  match text with
  | [] => .text ['\\'] []
  | char :: rest =>
    match letter? char with
    | some found => .text [found] rest
    | none =>
      if isOctal char then
        let (value, rest) := digits 8 3 0 text
        .text [octet value] rest
      else .text ['\\'] text

-- As in a format, but octal digits may come after a zero, and a `c` ends the output.
def inArgument (text : List Char) : Escaped :=
  match text with
  | 'c' :: _ => .stop
  | '0' :: char :: rest => inFormat (if isOctal char then char :: rest else text)
  | _ => inFormat text

def inEcho (text : List Char) : Escaped :=
  match text with
  | 'c' :: _ => .stop
  | 'x' :: rest =>
    let (value, after) := digits 16 2 0 rest
    if after.length = rest.length then .text ['\\'] text else .text [octet value] after
  | '0' :: rest =>
    let (value, rest) := digits 8 3 0 rest
    .text [octet value] rest
  | _ => inFormat text

def upperHex (width value : Nat) : List Char :=
  let digits := (Nat.toDigits 16 value).map Char.toUpper
  List.replicate (width - digits.length) '0' ++ digits

-- Written with its letter and number again unless it is ASCII.
def universal (mark : Char) (width : Nat) (text : List Char) : Escaped :=
  let hexadecimal := text.take width
  match if hexadecimal.length = width then Digits.read? 16 hexadecimal else none with
  | none => .refused "missing hexadecimal number in escape"
  | some value =>
    let rest := text.drop width
    if 0xd800 ≤ value && value ≤ 0xdfff then
      .refused (String.ofList ("invalid universal character name \\".toList ++ mark ::
        List.replicate (width - (Nat.toDigits 16 value).length) '0' ++ Nat.toDigits 16 value))
    else if value < 0x80 then .text [Char.ofNat value] rest
    else if value < 0x10000 then .text ('\\' :: 'u' :: upperHex 4 value) rest
    else .text ('\\' :: 'U' :: upperHex 8 value) rest

def inTool (argument : Bool) (text : List Char) : Escaped :=
  match text with
  | 'c' :: _ => .stop
  | '"' :: rest => .text ['"'] rest
  | 'x' :: rest =>
    let (value, after) := digits 16 2 0 rest
    if after.length = rest.length then .refused "missing hexadecimal number in escape"
    else .text [octet value] after
  | 'u' :: rest => universal 'u' 4 rest
  | 'U' :: rest => universal 'U' 8 rest
  | '0' :: rest =>
    let (value, rest) := digits 8 3 0 (if argument then rest else text)
    .text [octet value] rest
  | char :: rest =>
    match inFormat text with
    | .text ['\\'] after => if after.length = text.length then .text ['\\', char] rest else .text ['\\'] after
    | other => other
  | [] => .text ['\\'] []

def replace (escape : List Char → Escaped) : Nat → List Char → List Char × Option Escaped
  | 0, text => (text, none)
  | _ + 1, [] => ([], none)
  | fuel + 1, '\\' :: rest =>
    match escape rest with
    | .text found rest =>
      let (more, ended) := replace escape fuel rest
      (found ++ more, ended)
    | ended => ([], some ended)
  | fuel + 1, char :: rest =>
    let (more, ended) := replace escape fuel rest
    (char :: more, ended)

def all (escape : List Char → Escaped) (text : List Char) : List Char × Option Escaped :=
  replace escape (text.length + 1) text

end Escape

end HostTools.Shell
