import HostTools.Domain.Direction
import HostTools.Domain.Joining
import HostTools.Domain.Permitted
import HostTools.Text.Composition
import HostTools.Url.Punycode

set_option autoImplicit false

namespace HostTools.Label

def mark : List Char := ['x', 'n', '-', '-']

def isAscii (text : List Char) : Bool := text.all Punycode.isBasic

-- The class of the marks that join two consonants.
def viramaClass : Nat := 9

def nonJoiner : Char := Char.ofNat 0x200c

def joiner : Char := Char.ofNat 0x200d

def reaches (condition : Char → Bool) (text : List Char) : Bool :=
  match text.dropWhile Joining.isTransparent with
  | [] => false
  | c :: _ => condition c

-- What stands before is given backwards. After a virama both joiners may stand. Elsewhere only the
-- one that keeps letters apart may, between letters that would join.
def joinersFit : List Char → List Char → Bool
  | _, [] => true
  | before, c :: rest =>
    let afterVirama := (before.head?.map Composition.classOf) = some viramaClass
    let fits :=
      if c = nonJoiner then
        afterVirama || (reaches Joining.joinsNext before && reaches Joining.joinsPrevious rest)
      else c ≠ joiner || afterVirama
    fits && joinersFit (c :: before) rest

def isSound (text : List Char) : Bool :=
  (text.all fun c => Punycode.isBasic c || Permitted.isPermitted c) &&
    !(text.head?.map Mark.isMark).getD true && joinersFit [] text

def longestCode : Nat := 2000

def longestText : Nat := 1000

-- Punycode has to stand for a sound text above ASCII in composed form.
def text? (label : List Char) : Option (List Char) :=
  if mark.isPrefixOf label then
    let code := label.drop mark.length
    if longestCode < code.length || !isAscii label then none
    else
      match Punycode.decode? code with
      | some text =>
        if !isAscii text && isSound text && Composition.compose text = text then some text else none
      | none => none
  else if isAscii label || isSound label then some label
  else none

def ascii? (label : List Char) : Option (List Char) :=
  if isAscii label then some label
  else if longestText < label.length then none
  else some (mark ++ Punycode.encode label)

def turns (direction : Direction) : Bool := direction = .right || direction = .rightNumber

-- From right to left without letters of the other kind and with digits of one kind, or from left to
-- right without anything of the other kind, and with a letter or a digit at the end.
def keepsDirection (directions : List Direction) : Bool :=
  let last := (directions.reverse.dropWhile (· = .mark)).head?
  match directions.head? with
  | none => true
  | some .right =>
    !directions.contains .left && !(directions.contains .number && directions.contains .rightNumber) &&
      (last = some .right || last = some .number || last = some .rightNumber)
  | some .left => !directions.any turns && (last = some .left || last = some .number)
  | some _ => false

end HostTools.Label
