import HostTools.Json.Fault

set_option autoImplicit false

namespace HostTools.Json

def isBlank (byte : UInt8) : Bool :=
  byte = 0x20 || byte = 0x09 || byte = 0x0a || byte = 0x0d

def skipBlanks (input : Bytes) : Bytes := input.dropWhile isBlank

def restOfWord : Bytes → Bytes → Except Fault Bytes
  | [], input => .ok input
  | _ :: _, [] => .error (.after .endInValue [])
  | letter :: letters, byte :: rest =>
    if byte = letter then restOfWord letters rest else .error (.after .expectedWord rest)

def fourDigits : Bytes → Except Fault (Nat × Bytes)
  | a :: b :: c :: d :: rest =>
    match Bytes.hexDigit? a, Bytes.hexDigit? b, Bytes.hexDigit? c, Bytes.hexDigit? d with
    | some a, some b, some c, some d => .ok (((a * 16 + b) * 16 + c) * 16 + d, rest)
    | _, _, _, _ => .error (.after .invalidEscape rest)
  | _ => .error (.after .endInString [])

def nextInEscape (wanted : UInt8) : Bytes → Except Fault Bytes
  | [] => .error (.after .endInString [])
  | byte :: rest => if byte = wanted then .ok rest else .error (.after .unfinishedEscape rest)

def secondSurrogate (input : Bytes) : Except Fault (Nat × Bytes) := do
  let input ← nextInEscape 0x5c input
  let input ← nextInEscape 0x75 input
  let (second, rest) ← fourDigits input
  if 0xdc00 ≤ second ∧ second ≤ 0xdfff then .ok (second, rest)
  else .error (.after .loneSurrogate rest)

def numbered (input : Bytes) : Except Fault (Char × Bytes) := do
  let (first, rest) ← fourDigits input
  if 0xdc00 ≤ first ∧ first ≤ 0xdfff then .error (.after .loneSurrogate rest)
  else if first < 0xd800 ∨ 0xdbff < first then .ok (Char.ofNat first, rest)
  else
    let (second, rest) ← secondSurrogate rest
    .ok (Char.ofNat ((first - 0xd800) * 1024 + (second - 0xdc00) + 0x10000), rest)

def ofLetter? (letter : UInt8) : Option Char :=
  if letter = 0x22 then some '"'
  else if letter = 0x5c then some '\\'
  else if letter = 0x2f then some '/'
  else if letter = 0x62 then some '\x08'
  else if letter = 0x66 then some '\x0c'
  else if letter = 0x6e then some '\n'
  else if letter = 0x72 then some '\r'
  else if letter = 0x74 then some '\t'
  else none

def escape : Bytes → Except Fault (Char × Bytes)
  | [] => .error (.after .endInString [])
  | letter :: rest =>
    if letter = 0x75 then numbered rest
    else
      match ofLetter? letter with
      | some char => .ok (char, rest)
      | none => .error (.after .invalidEscape rest)

theorem four_digits_shorter {input rest : Bytes} {value : Nat}
    (read : fourDigits input = .ok (value, rest)) : rest.length < input.length := by
  unfold fourDigits at read
  split at read
  · split at read
    · cases read
      simp only [List.length_cons]
      omega
    · cases read
  · cases read

theorem next_in_escape_shorter {wanted : UInt8} {input rest : Bytes}
    (read : nextInEscape wanted input = .ok rest) : rest.length < input.length := by
  unfold nextInEscape at read
  split at read
  · cases read
  · split at read
    · cases read
      simp
    · cases read

theorem second_surrogate_shorter {input rest : Bytes} {value : Nat}
    (read : secondSurrogate input = .ok (value, rest)) : rest.length < input.length := by
  simp only [secondSurrogate, bind, Except.bind] at read
  split at read
  · cases read
  · rename_i first firstRead
    split at read
    · cases read
    · rename_i second secondRead
      split at read
      · cases read
      · rename_i pair pairRead
        have a := next_in_escape_shorter firstRead
        have b := next_in_escape_shorter secondRead
        have c := four_digits_shorter pairRead
        split at read
        · cases read
          omega
        · cases read

theorem numbered_shorter {input rest : Bytes} {char : Char}
    (read : numbered input = .ok (char, rest)) : rest.length < input.length := by
  simp only [numbered, bind, Except.bind] at read
  split at read
  · cases read
  · rename_i pair pairRead
    have a := four_digits_shorter pairRead
    split at read
    · cases read
    · split at read
      · injection read with pairs
        injection pairs with _ same
        exact same ▸ a
      · split at read
        · cases read
        · rename_i other otherRead
          have b := second_surrogate_shorter otherRead
          injection read with pairs
          injection pairs with _ same
          rw [← same]
          omega

theorem escape_shorter {input rest : Bytes} {char : Char}
    (read : escape input = .ok (char, rest)) : rest.length < input.length := by
  unfold escape at read
  split at read
  · cases read
  · simp only [List.length_cons]
    split at read
    · have := numbered_shorter read
      omega
    · split at read
      · cases read
        omega
      · cases read

def literal (input : Bytes) : Except Fault (Bytes × Bytes) :=
  match input with
  | [] => .error (.after .endInString [])
  | byte :: rest =>
    if byte = 0x22 then .ok ([], rest)
    else if byte = 0x5c then
      match read : escape rest with
      | .error fault => .error fault
      | .ok (char, after) =>
        have := escape_shorter read
        match literal after with
        | .error fault => .error fault
        | .ok (value, final) => .ok (String.utf8EncodeChar char ++ value, final)
    else if byte < 0x20 then .error (.after .controlCharacter rest)
    else
      match literal rest with
      | .error fault => .error fault
      | .ok (value, final) => .ok (byte :: value, final)
termination_by input.length

end HostTools.Json
