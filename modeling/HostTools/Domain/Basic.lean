import HostTools.Domain.Expansion
import HostTools.Domain.Folding
import HostTools.Domain.Label
import HostTools.Text.Pieces

set_option autoImplicit false

namespace HostTools.Domain

def isForbidden (c : Char) : Bool :=
  c.toNat ≤ 0x20 || c.toNat = 0x7f || c = '%' || c = '#' || c = '/' || c = ':' || c = '<' ||
    c = '>' || c = '?' || c = '@' || c = '[' || c = '\\' || c = ']' || c = '^' || c = '|'

def reading? (c : Char) : Option (List Char) :=
  if Punycode.isBasic c then some [c.toLower]
  else if Permitted.isPermitted c then some [c]
  else
    match Folding.fold? c.toNat, Expansion.expand? c.toNat with
    | some number, _ => some [Char.ofNat number]
    | none, some numbers => some (numbers.map Char.ofNat)
    | none, none => if Folding.ignored.holds c.toNat then some [] else none

def settled? (text : List Char) : Option (List Char) :=
  match text.mapM reading? with
  | some readings =>
    let settled := Composition.compose readings.flatten
    if settled.any isForbidden then none else some settled
  | none => none

def directionsFit (texts : List (List Char)) : Bool :=
  let directions := texts.map (·.map Direction.of)
  !directions.any (·.any Label.turns) || directions.all Label.keepsDirection

def ascii? (text : List Char) : Option (List Char) :=
  match settled? text with
  | none => none
  | some settled =>
    let labels := Pieces.split '.' settled
    match labels.mapM Label.text?, labels.mapM Label.ascii? with
    | some texts, some written =>
      if directionsFit texts then some (List.intercalate ['.'] written) else none
    | _, _ => none

end HostTools.Domain
