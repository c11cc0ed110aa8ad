import HostTools.Http.Scan

set_option autoImplicit false

namespace HostTools.Http

structure Header where
  name : Bytes
  value : Bytes
deriving DecidableEq, Repr

structure Head where
  -- Whether the version is 1.0, and not 1.1.
  old : Bool
  status : Nat
  headers : List Header
deriving DecidableEq, Repr

def isTokenByte (byte : UInt8) : Bool :=
  Bytes.isDigit byte || (0x41 ≤ byte && byte ≤ 0x5a) || (0x61 ≤ byte && byte ≤ 0x7a) ||
    (Bytes.ofText "!#$%&'*+-.^_`|~").contains byte

def isBlankByte (byte : UInt8) : Bool := byte = 0x20 || byte = 0x09

def isValueByte (byte : UInt8) : Bool :=
  byte = 0x09 || (0x20 ≤ byte && byte ≤ 0x7e) || 0x80 ≤ byte

def skipEmptyLines : Bytes → Scan Unit
  | [] => .short
  | [a] => if a = Scan.lineFeed ∨ a = Scan.carriageReturn then .short else .done () [a]
  | a :: b :: rest =>
    if a = Scan.lineFeed then skipEmptyLines (b :: rest)
    else if a = Scan.carriageReturn then
      if b = Scan.lineFeed then skipEmptyLines rest else .bad
    else .done () (a :: b :: rest)

def version (input : Bytes) : Scan Bool :=
  if 8 ≤ input.length then
    if input.take 8 = Bytes.ofText "HTTP/1.1" then .done false (input.drop 8)
    else if input.take 8 = Bytes.ofText "HTTP/1.0" then .done true (input.drop 8)
    else .bad
  else if input.isPrefixOf (Bytes.ofText "HTTP/1.") then .short
  else .bad

def statusCode (input : Bytes) : Scan Nat :=
  (Scan.one Bytes.isDigit input).andThen fun a rest =>
    (Scan.one Bytes.isDigit rest).andThen fun b rest =>
      (Scan.one Bytes.isDigit rest).andThen fun c rest =>
        .done ((a.toNat - 0x30) * 100 + (b.toNat - 0x30) * 10 + (c.toNat - 0x30)) rest

def lineText (input : Bytes) : Scan Bytes :=
  (Scan.lineEnd (input.dropWhile isValueByte)).andThen fun _ rest =>
    .done (input.takeWhile isValueByte) rest

def reason (input : Bytes) : Scan Unit :=
  match input with
  | [] => .short
  | byte :: rest =>
    if byte = 0x20 then (lineText rest).andThen fun _ rest => .done () rest
    else Scan.lineEnd (byte :: rest)

def header (input : Bytes) : Scan Header :=
  let name := input.takeWhile isTokenByte
  (Scan.one (· = 0x3a) (input.drop name.length)).andThen fun _ rest =>
    (lineText rest).andThen fun value rest =>
      .done ⟨name, Bytes.trim isBlankByte value⟩ rest

-- One header too many is seen when its line is over.
def headers : Nat → Bytes → Scan (List Header)
  | _, [] => .short
  | room, byte :: rest =>
    if byte = Scan.lineFeed ∨ byte = Scan.carriageReturn then
      (Scan.lineEnd (byte :: rest)).andThen fun _ rest => .done [] rest
    else if !isTokenByte byte then .bad
    else
      (header (byte :: rest)).andThen fun first rest =>
        match room with
        | 0 => .bad
        | room + 1 => (headers room rest).andThen fun more rest => .done (first :: more) rest

def maxHeaders : Nat := 100

-- Empty lines in front are skipped and lines may end in a bare line feed.
def head (input : Bytes) : Scan Head :=
  (skipEmptyLines input).andThen fun _ rest =>
    (version rest).andThen fun old rest =>
      (Scan.one (· = 0x20) rest).andThen fun _ rest =>
        (statusCode rest).andThen fun status rest =>
          (reason rest).andThen fun _ rest =>
            (headers maxHeaders rest).andThen fun headers rest =>
              if 100 ≤ status then .done ⟨old, status, headers⟩ rest else .bad

def Head.isInterim (head : Head) : Bool := head.status < 200 && head.status ≠ 101

def firstArrival : Nat := 8192

def maxHead : Nat := 417792

-- The empty line ends in the same way as the one before it.
def hasEmptyLine : Bytes → Bool
  | [] => false
  | byte :: rest =>
    (byte = Scan.lineFeed && rest.head? = some Scan.lineFeed) ||
      (byte = Scan.carriageReturn &&
        rest.take 3 = [Scan.lineFeed, Scan.carriageReturn, Scan.lineFeed]) ||
      hasEmptyLine rest

-- A head that is not over in the octets that have arrived is read again as soon as an empty line
-- has arrived with the others.
def arrivingHead (arrived : Nat) (input : Bytes) : Scan Head :=
  let known := input.take arrived
  match head known with
  | .short =>
    if input.length ≤ known.length then .short
    else if hasEmptyLine (input.drop (known.length - 3)) then head input
    else if maxHead ≤ input.length then .bad
    else .short
  | .done first rest => .done first (rest ++ input.drop arrived)
  | .bad => .bad

def finalHeadWithin : Nat → Nat → Bytes → Scan Head
  | 0, _, _ => .short
  | fuel + 1, arrived, input =>
    (arrivingHead arrived input).andThen fun first rest =>
      if first.isInterim then
        let read := input.length - rest.length
        finalHeadWithin fuel (if read < arrived then arrived - read else rest.length) rest
      else .done first rest

-- Each head takes an octet at least, so the length bounds their number.
def finalHead (input : Bytes) : Scan Head := finalHeadWithin (input.length + 1) firstArrival input

def Head.values (head : Head) (name : String) : List Bytes :=
  (head.headers.filter fun header => Bytes.sameLetters header.name (Bytes.ofText name)).map
    Header.value

end HostTools.Http
