import HostTools.Text.Digits
import HostTools.Text.Glyphless

set_option autoImplicit false

namespace HostTools.Quoted

def char (byNumber : Char → Bool) (c : Char) : List Char :=
  if c = '"' then ['\\', '"']
  else if c = '\\' then ['\\', '\\']
  else if c = Char.ofNat 0 then ['\\', '0']
  else if c = '\t' then ['\\', 't']
  else if c = '\n' then ['\\', 'n']
  else if c = '\r' then ['\\', 'r']
  else if byNumber c then ['\\', 'u', '\x7b'] ++ Digits.hex c.toNat ++ ['\x7d']
  else [c]

def chars (byNumber : Char → Bool) (text : List Char) : List Char :=
  '"' :: text.flatMap (char byNumber) ++ ['"']

def items (byNumber : Char → Bool) (texts : List String) : List Char :=
  '[' :: List.intercalate [',', ' '] (texts.map fun text => chars byNumber text.toList) ++ [']']

def text (text : String) : String := String.ofList (chars Glyphless.isGlyphless text.toList)

def list (texts : List String) : String := String.ofList (items Glyphless.isGlyphless texts)

end HostTools.Quoted
