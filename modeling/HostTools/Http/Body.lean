import HostTools.Http.Head
import HostTools.Text.Digits

set_option autoImplicit false

namespace HostTools.Http

inductive Framing where
  | empty
  | chunks
  | length (octets : Nat)
  | untilClose
deriving DecidableEq, Repr

def isVisible (value : Bytes) : Bool := value.all fun byte => isValueByte byte && byte < 0x80

def digits? (text : Bytes) : Option Nat :=
  match Digits.read? 10 (text.map Bytes.toChar) with
  | some n => if n < Nat.pow 2 64 then some n else none
  | none => none

def lengths? (value : Bytes) : Option (List Nat) :=
  if isVisible value then
    (Bytes.pieces 0x2c value).mapM fun piece => digits? (Bytes.trim isBlankByte piece)
  else none

-- Two numbers at the top of the range mean something else than a length.
def agreedLength? (values : List Bytes) : Option Nat :=
  match values.mapM lengths? with
  | some lists =>
    match lists.flatten with
    | [] => none
    | first :: more => if more.all (· = first) ∧ first < Nat.pow 2 64 - 2 then some first else none
  | none => none

def endsChunked (values : List Bytes) : Bool :=
  match values.getLast? with
  | none => false
  | some value =>
    isVisible value &&
      match (Bytes.pieces 0x2c value).getLast? with
      | some coding => Bytes.sameLetters (Bytes.trim isBlankByte coding) (Bytes.ofText "chunked")
      | none => false

def framing? (method : String) (head : Head) : Option Framing :=
  if head.status = 101 ∨ head.status = 204 ∨ head.status = 304 ∨ method = "HEAD" then some .empty
  else if method = "CONNECT" ∧ 200 ≤ head.status ∧ head.status < 300 then some .empty
  else
    match head.values "transfer-encoding", head.values "content-length" with
    | [], [] => some .untilClose
    | [], lengths => (agreedLength? lengths).map Framing.length
    | codings, _ =>
      if head.old then none
      else if endsChunked codings then some .chunks
      else some .untilClose

inductive ChunkState where
  | start
  | size (octets : Nat)
  | afterSize (octets : Nat)
  | extension (octets : Nat)
  | sizeLineFeed (octets : Nat)
  | data (left : Nat)
  | dataReturn
  | dataLineFeed
  | trailerStart
  | trailer
  | trailerLineFeed
  | final
deriving DecidableEq, Repr

-- The data and the trailer so far, latest octet first, and the number of trailer lines and of
-- octets in extensions.
structure Chunks where
  state : ChunkState
  data : Bytes
  trailer : Bytes
  lines : Nat
  extensions : Nat
deriving DecidableEq, Repr

namespace Chunks

def begin : Chunks := ⟨.start, [], [], 0, 0⟩

def grow (octets : Nat) (byte : UInt8) : Option Nat :=
  match Bytes.hexDigit? byte with
  | some digit => if octets * 16 + digit < Nat.pow 2 64 then some (octets * 16 + digit) else none
  | none => none

def afterDigits (chunks : Chunks) (octets : Nat) (byte : UInt8) : Option Chunks :=
  if isBlankByte byte then some { chunks with state := .afterSize octets }
  else if byte = 0x3b then some { chunks with state := .extension octets }
  else if byte = Scan.carriageReturn then some { chunks with state := .sizeLineFeed octets }
  else none

def maxExtensions : Nat := 16384

def maxTrailers : Nat := 100

def take (chunks : Chunks) (byte : UInt8) : Option Chunks :=
  match chunks.state with
  | .start => (grow 0 byte).map fun octets => { chunks with state := .size octets }
  | .size octets =>
    match Bytes.hexDigit? byte with
    | some _ => (grow octets byte).map fun octets => { chunks with state := .size octets }
    | none => afterDigits chunks octets byte
  | .afterSize octets => afterDigits chunks octets byte
  | .extension octets =>
    if byte = Scan.carriageReturn then some { chunks with state := .sizeLineFeed octets }
    else if byte = Scan.lineFeed ∨ maxExtensions ≤ chunks.extensions + 1 then none
    else some { chunks with extensions := chunks.extensions + 1 }
  | .sizeLineFeed octets =>
    if byte = Scan.lineFeed then
      some { chunks with state := if octets = 0 then .trailerStart else .data octets }
    else none
  | .data left =>
    some
      { chunks with
        state := if left ≤ 1 then .dataReturn else .data (left - 1)
        data := byte :: chunks.data }
  | .dataReturn =>
    if byte = Scan.carriageReturn then some { chunks with state := .dataLineFeed } else none
  | .dataLineFeed => if byte = Scan.lineFeed then some { chunks with state := .start } else none
  | .trailerStart =>
    some
      { chunks with
        state := if byte = Scan.carriageReturn then .final else .trailer
        trailer := byte :: chunks.trailer }
  | .trailer =>
    some
      { chunks with
        state := if byte = Scan.carriageReturn then .trailerLineFeed else .trailer
        trailer := byte :: chunks.trailer }
  | .trailerLineFeed =>
    if byte = Scan.lineFeed ∧ chunks.lines + 1 < maxTrailers then
      some
        { chunks with
          state := .trailerStart
          trailer := byte :: chunks.trailer
          lines := chunks.lines + 1 }
    else none
  | .final => none

def trailerIsSound (chunks : Chunks) : Bool :=
  chunks.lines = 0 ||
    match headers chunks.lines (Scan.lineFeed :: chunks.trailer).reverse with
    | .done _ _ => true
    | _ => false

def read : Chunks → Bytes → Scan Bytes
  | _, [] => .short
  | chunks, byte :: rest =>
    if chunks.state = .final then
      if byte = Scan.lineFeed ∧ chunks.trailerIsSound then .done chunks.data.reverse rest else .bad
    else
      match chunks.take byte with
      | some next => read next rest
      | none => .bad

end Chunks

def body (framing : Framing) (closed : Bool) (input : Bytes) : Scan Bytes :=
  match framing with
  | .empty => .done [] input
  | .chunks => Chunks.begin.read input
  | .length octets =>
    if octets ≤ input.length then .done (input.take octets) (input.drop octets) else .short
  | .untilClose => if closed then .done input [] else .short

end HostTools.Http
