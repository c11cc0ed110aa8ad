import HostTools.Text.Base64

set_option autoImplicit false

namespace HostTools.Pem

inductive Kind where
  | certificate
  | generalKey
  | rsaKey
  | ecKey
  | other
deriving DecidableEq, Repr

def Kind.ofLabel? (label : Bytes) : Option Kind :=
  if label = Bytes.ofText "CERTIFICATE" then some .certificate
  else if label = Bytes.ofText "PRIVATE KEY" then some .generalKey
  else if label = Bytes.ofText "RSA PRIVATE KEY" then some .rsaKey
  else if label = Bytes.ofText "EC PRIVATE KEY" then some .ecKey
  else if label = Bytes.ofText "PUBLIC KEY" ∨ label = Bytes.ofText "X509 CRL" ∨
    label = Bytes.ofText "CERTIFICATE REQUEST" ∨ label = Bytes.ofText "ECHCONFIG" then some .other
  else none

structure Section where
  kind : Kind
  content : Bytes
deriving DecidableEq, Repr

inductive Error where
  | malformed
  | unexpected
deriving DecidableEq, Repr

def lines : Bytes → List Bytes
  | [] => [[]]
  | byte :: rest =>
    if byte = 0x0a ∨ byte = 0x0d then [] :: lines rest
    else
      match lines rest with
      | [] => [[byte]]
      | line :: more => (byte :: line) :: more

def beginMark : Bytes := Bytes.ofText "-----BEGIN "

-- The line is given backwards, and blanks among the hyphens do not count.
def trailingHyphens : Bytes → Nat × Bytes
  | [] => (0, [])
  | byte :: rest =>
    if byte = 0x2d then
      let (count, front) := trailingHyphens rest
      (count + 1, front)
    else if byte = 0x20 then
      match trailingHyphens rest with
      | (0, _) => (0, byte :: rest)
      | found => found
    else (0, byte :: rest)

def label? (line : Bytes) : Option Bytes :=
  match trailingHyphens line.reverse with
  | (5, front) => some (front.reverse.drop beginMark.length)
  | _ => none

def endMark (label : Bytes) : Bytes :=
  Bytes.ofText "-----END " ++ label ++ Bytes.ofText "-----"

-- Text outside sections and sections with unknown labels do not count; a line that begins a section
-- inside another one gives that section a new label.
def sectionsFrom : Option (Bytes × Bytes) → List Bytes → Except Error (List Section)
  | none, [] => .ok []
  | some _, [] => .error .malformed
  | state, line :: rest =>
    if beginMark.isPrefixOf line then
      match label? line with
      | some label => sectionsFrom (some (label, (state.map Prod.snd).getD [])) rest
      | none => .error .malformed
    else
      match state with
      | none => sectionsFrom none rest
      | some (label, content) =>
        if (endMark label).isPrefixOf line then
          match Kind.ofLabel? label, Base64.decode? content with
          | none, _ => sectionsFrom none rest
          | some _, none => .error .malformed
          | some .other, some _ => .error .unexpected
          | some kind, some octets =>
            (sectionsFrom none rest).map fun more => ⟨kind, octets⟩ :: more
        else sectionsFrom (some (label, content ++ line)) rest

def sections (text : Bytes) : Except Error (List Section) := sectionsFrom none (lines text)

end HostTools.Pem
