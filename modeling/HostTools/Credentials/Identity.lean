import HostTools.Credentials.Certificate
import HostTools.Credentials.Curve
import HostTools.Credentials.Edwards
import HostTools.Credentials.Modulus
import HostTools.Credentials.Pem

set_option autoImplicit false

namespace HostTools

inductive IdentityError where
  | malformed
  | unexpected
  | missing
deriving DecidableEq, Repr

def IdentityError.message : IdentityError → String
  | .malformed => "builder error: unexpected error: Invalid identity PEM file"
  | .unexpected => "builder error: unexpected error: No valid certificate was found"
  | .missing => "builder error: unexpected error: private key or certificate not found"

structure Identity where
  key : Pem.Section
  certificate : Bytes
  chain : List Bytes
deriving DecidableEq, Repr

namespace Identity

def read (text : Bytes) : Except IdentityError Identity :=
  match Pem.sections text with
  | .error .malformed => .error .malformed
  | .error .unexpected => .error .unexpected
  | .ok sections =>
    let certificates := sections.filter fun part => part.kind = .certificate
    match (sections.filter fun part => part.kind ≠ .certificate).getLast?, certificates with
    | some key, first :: more => .ok ⟨key, first.content, more.map Pem.Section.content⟩
    | _, _ => .error .missing

def curveKeys : Bytes := [0x2a, 0x86, 0x48, 0xce, 0x3d, 0x02, 0x01]

def curves : List (Bytes × Curve) :=
  [([0x2a, 0x86, 0x48, 0xce, 0x3d, 0x03, 0x01, 0x07], .p256), ([0x2b, 0x81, 0x04, 0x00, 0x22], .p384)]

def curveAlgorithm (name : Bytes) : Bytes :=
  Der.write Der.objectId curveKeys ++ Der.write Der.objectId name

def modulusAlgorithm : Bytes :=
  Der.write Der.objectId [0x2a, 0x86, 0x48, 0x86, 0xf7, 0x0d, 0x01, 0x01, 0x01] ++ [0x05, 0x00]

def seedAlgorithm : Bytes := Der.write Der.objectId [0x2b, 0x65, 0x70]

def publicKey (algorithm key : Bytes) : Bytes :=
  Der.write Der.sequence algorithm ++ Der.write Der.bitString (0x00 :: key)

def ofCurveKey? (name : Bytes) (curve : Curve) (key : Bytes) : Option Bytes := do
  let inner ← Der.whole? Der.sequence key
  let (version, inner) ← Der.value? Der.integer inner
  let (secret, inner) ← Der.value? Der.octetString inner
  let (parameters, inner) ← Der.optional? (Der.context 0) inner
  let holder ← Der.whole? (Der.context 1) inner
  let bits ← Der.whole? Der.bitString holder
  let point ← Der.wholeOctets? bits
  let number := Der.number secret
  if version = [1] ∧ parameters.all (· = Der.write Der.objectId name) ∧
    secret.length = curve.size ∧ 0 < number ∧ number < curve.order ∧
    point = curve.publicPoint number then
    some (publicKey (curveAlgorithm name) point)
  else none

def ofModulusKey? (key : Bytes) : Option Bytes :=
  match ModulusKey.read? key with
  | some key => if key.isSound then some (publicKey modulusAlgorithm key.publicHalf) else none
  | none => none

def ofSeedKey? (key : Bytes) (known : Option Bytes) : Option Bytes := do
  let seed ← Der.whole? Der.octetString key
  let derived := Edwards.publicKey seed
  if seed.length = 32 ∧ known.all (· = derived) then some (publicKey seedAlgorithm derived) else none

def known? (input : Bytes) : Option Bytes :=
  if input.head? = some (Der.context 1) then do
    let holder ← Der.whole? (Der.context 1) input
    let bits ← Der.whole? Der.bitString holder
    Der.wholeOctets? bits
  else do
    let bits ← Der.whole? (Der.plainContext 1) input
    Der.wholeOctets? bits

-- Only a key from a seed may have its public half beside it, and has it in the second version.
def ofGeneralKey? (key : Bytes) : Option Bytes := do
  let inner ← Der.whole? Der.sequence key
  let (version, inner) ← Der.value? Der.integer inner
  let (algorithm, inner) ← Der.value? Der.sequence inner
  let (secret, inner) ← Der.value? Der.octetString inner
  let (_, inner) ← Der.optional? (Der.context 0) inner
  if version = [0] ∧ inner = [] then
    if algorithm = modulusAlgorithm then ofModulusKey? secret
    else if algorithm = seedAlgorithm then ofSeedKey? secret none
    else
      match curves.find? fun (name, _) => algorithm = curveAlgorithm name with
      | some (name, curve) => ofCurveKey? name curve secret
      | none => none
  else if version = [1] ∧ algorithm = seedAlgorithm then do
    let known ← known? inner
    ofSeedKey? secret (some known)
  else none

def publicHalf? (key : Pem.Section) : Option Bytes :=
  match key.kind with
  | .generalKey => ofGeneralKey? key.content
  | .rsaKey => ofModulusKey? key.content
  | .ecKey => curves.findSome? fun (name, curve) => ofCurveKey? name curve key.content
  | _ => none

def isUsable (identity : Identity) : Bool :=
  match publicHalf? identity.key, Certificate.publicKey? identity.certificate with
  | some own, some certified => own = certified
  | _, _ => false

end Identity

end HostTools
