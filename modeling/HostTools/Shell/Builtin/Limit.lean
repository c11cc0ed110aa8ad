import HostTools.Shell.Builtin.Basic

set_option autoImplicit false

namespace HostTools.Shell.Builtin

def triplet (permissions group : Nat) : Nat := (permissions >>> (3 * (2 - group))) % 8

def rights (bits : Nat) : String :=
  (if bits &&& 4 ≠ 0 then "r" else "") ++ (if bits &&& 2 ≠ 0 then "w" else "") ++
    (if bits &&& 1 ≠ 0 then "x" else "")

def symbolic (permissions : Nat) : String :=
  "u=" ++ rights (triplet permissions 0) ++ ",g=" ++ rights (triplet permissions 1) ++ ",o=" ++
    rights (triplet permissions 2)

def spread (groups : List Nat) (bits : Nat) : Nat :=
  groups.foldl (fun value group => value ||| (bits <<< (3 * (2 - group)))) 0

def allowed (permissions : Nat) : Char → Option Nat
  | 'r' => some 4
  | 'w' => some 2
  | 'x' => some 1
  | 'X' => some (if permissions &&& 0o111 ≠ 0 then 1 else 0)
  | 's' => some 0
  | 't' => some 0
  | 'u' => some (triplet permissions 0)
  | 'g' => some (triplet permissions 1)
  | 'o' => some (triplet permissions 2)
  | _ => none

def operators (groups : List Nat) : Nat → Nat → List Char → Option Nat
  | 0, permissions, _ => some permissions
  | _ + 1, permissions, [] => some permissions
  | fuel + 1, permissions, operator :: rest =>
    let isOperator (char : Char) : Bool := char = '+' || char = '-' || char = '='
    if !isOperator operator then none
    else
      match (rest.takeWhile (!isOperator ·)).mapM (allowed permissions) with
      | none => none
      | some values =>
        let bits := spread groups (values.foldl (· ||| ·) 0)
        let all := spread groups 7
        let changed := match operator with
          | '+' => permissions ||| bits
          | '-' => permissions - (permissions &&& bits)
          | _ => permissions - (permissions &&& all) ||| bits
        operators groups fuel changed (rest.dropWhile (!isOperator ·))

def clause (permissions : Nat) (text : List Char) : Option Nat :=
  let isGroup (char : Char) : Bool := ['u', 'g', 'o', 'a'].contains char
  let named := text.takeWhile isGroup
  let groups := if named.isEmpty || named.contains 'a' then [0, 1, 2]
    else named.map fun char => if char = 'u' then 0 else if char = 'g' then 1 else 2
  operators groups (text.length + 1) permissions (text.dropWhile isGroup)

-- Only the last clause may be empty.
def mode? (permissions : Nat) (text : List Char) : Option Nat :=
  let clauses := (Pieces.split ',' text).reverse
  let clauses := (match clauses with
    | [] :: rest => rest
    | _ => clauses).reverse
  clauses.foldlM (fun permissions part =>
    if part.isEmpty then none else clause permissions part) permissions

def octal (value : Nat) : String :=
  let digits := Nat.toDigits 8 value
  String.ofList (List.replicate (4 - digits.length) '0' ++ digits)

def umask (args : List String) : Act Nat := do
  let (given, rest) ← options "S" args
  let mask := (← process).mask
  let permissions := 0o777 - mask
  match rest with
  | [] => put ((if given.isEmpty then octal mask else symbolic permissions) ++ "\n") 0
  | word :: _ =>
    if word.toList.head?.any Char.isDigit then
      match Digits.read? 8 word.toList with
      | some value =>
        change ({ · with mask := value % 0o1000 })
        pure 0
      | none => fail ("Illegal number: " ++ word)
    else
      match mode? permissions word.toList with
      | some value =>
        change ({ · with mask := 0o777 - value })
        pure 0
      | none => fail ("Illegal mode: " ++ word)

def unbounded : List Char := ['t', 'f', 'd', 'm', 'v', 'w']

def ulimit (args : List String) : Act Nat := do
  let (given, rest) ← options "HSatfdsmcnplvwr" args
  let letters := (given.map (·.1)).filter fun letter => letter ≠ 'H' && letter ≠ 'S'
  match rest with
  | [] =>
    let letter := letters.getLastD 'f'
    put (if unbounded.contains letter then "unlimited\n" else if letter = 's' then "8192\n" else "0\n") 0
  | [word] =>
    if word = "unlimited" || (Digits.read? 10 word.toList).isSome then pure 0 else fail "bad number"
  | _ => fail "too many arguments"

def times : Act Nat := put "0m0.000000s 0m0.000000s\n0m0.000000s 0m0.000000s\n" 0

end HostTools.Shell.Builtin
