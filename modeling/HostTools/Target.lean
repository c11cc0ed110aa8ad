import HostTools.Text.Quoted
import HostTools.Url.Parser

set_option autoImplicit false

namespace HostTools

structure Target where
  method : String
  url : Url
deriving DecidableEq, Repr

inductive TargetError where
  | method (given : String)
  | absolutePath (given : String)
  | url (raw : String) (error : UrlError)
deriving DecidableEq, Repr

def TargetError.message : TargetError → String
  | .method given => "method " ++ Quoted.text given
  | .absolutePath given => "path " ++ Quoted.text given ++ " is an absolute URL"
  | .url raw error => "url " ++ raw ++ ": " ++ error.message

namespace Target

def isTokenChar (c : Char) : Bool :=
  c.isAlphanum || c = '!' || c = '#' || c = '$' || c = '%' || c = '&' || c.toNat = 0x27 ||
    c = '*' || c = '+' || c = '-' || c = '.' || c = '^' || c = '_' || c.toNat = 0x60 || c = '|' ||
    c = '~'

def isToken (text : List Char) : Bool := text ≠ [] && text.all isTokenChar

def ofRequest (request : Request) : Except TargetError Target :=
  if !isToken request.method.toList then .error (.method request.method)
  else if !request.hasOriginForm then .error (.absolutePath request.path)
  else
    match Url.parse request.url.toList with
    | .ok url => .ok ⟨request.method, url⟩
    | .error error => .error (.url request.url error)

end Target

end HostTools
