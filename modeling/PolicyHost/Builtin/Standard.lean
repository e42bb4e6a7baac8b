import PolicyHost.Builtin.Encodings
import PolicyHost.Builtin.Registry
import PolicyHost.Builtin.Semver
import PolicyHost.Builtin.Union
import PolicyHost.Digest.Md5
import PolicyHost.Digest.Sha1

/-!
# The standard builtins

* `standard`: the builtins by name.
* `Registry.standard`: the registry that holds them.
-/

namespace PolicyHost.Builtin

def text (function : Text) (operand : Json) : Action Text :=
  match operand with
  | .string t => return t
  | other => fail (.notString function other.kindName)

/-- What may fail for surrogates that cannot be written. -/
def writable {α : Type} (result : Except Utf8.Unwritable α) : Action α :=
  match result with
  | .ok value => return value
  | .error fault => throw (.fault (.unwritable fault))

def octets (function : Text) (operand : Json) : Action Bytes := do
  writable (Utf8.encode (← text function operand))

def onOctets (function : Text) (f : Bytes → Text) : Function :=
  unary fun operand => do return .text (f (← octets function operand))

def now : Function := nullary do return .int (← get).now

/-- The text that hexadecimal digits spell. -/
def hexDecode : Function := unary fun operand => do
  match Hex.decode (← text "hex.decode" operand) with
  | .ok t => return .text t
  | .error fault => fail (.notHex fault)

def globQuote : Function := unary fun operand => do
  return .text (Glob.quote (← text "glob.quote_meta" operand))

def queryEncode : Function := unary fun operand => do
  return .text (← writable (Query.encode (← text "urlquery.encode" operand)))

def queryDecode : Function := unary fun operand => do
  return .text (Query.decode (← text "urlquery.decode" operand))

def queryEncodeObject : Function := unary fun operand => do
  match operand with
  | .object members => return .text (← writable (Query.encodePairs (Query.pairsOf members)))
  | _ => fail .notObject

/-- The groups of hexadecimal digits of an identifier, by their numbers of digits. -/
def identifierText (n : Nat) : Text :=
  let digits := Text.hexDigits 32 n
  let group := fun (start count : Nat) => (digits.drop start).take count
  Text.joinWith "-" [group 0 8, group 8 4, group 12 4, group 16 4, group 20 12]

/-- A random identifier: of 128 bits, four say that it is random and two name the layout. -/
def randomIdentifier : Action Value := do
  let n ← draw (2 ^ 122)
  let low := n % 2 ^ 62
  let middle := n / 2 ^ 62 % 2 ^ 12
  let high := n / 2 ^ 74
  return .text (identifierText (high * 2 ^ 80 + (0x4000 + middle) * 2 ^ 64 + 2 ^ 63 + low))

def identifier : Function := unary fun operand => do
  let name ← text "uuid.rfc4122" operand
  memo ("uuid.rfc4122:" ++ name) randomIdentifier

/-- A random number below a bound, which stays the same for a name and a bound. -/
def randomBelow : Function := binary fun operand bound => do
  let name ← text "rand.intn" operand
  match bound with
  | .int n =>
    let most := n.natAbs
    if most = 0 then return .int 0
    else if 10 ^ Json.maxDigits ≤ most then throw (.fault .unwritableInteger)
    else
      memo ("rand.intn:" ++ name ++ ":" ++ Text.ofNat most) do return .int (← draw most)
  | _ => fail .notBound

def union : Function := unary fun operand => do
  match operand with
  | .array items =>
    match items.mapM Json.members? with
    | some objects => return .ofJson (.object (Json.uniteAll objects))
    | none => fail .notObjects
  | _ => fail .notObjects

/-- What is known of the program that evaluates: nothing. -/
def runtime : Function := nullary do return .dict []

def isVersion : Function := unary fun operand =>
  match operand with
  | .string t => return .bool (Semver.isValid t)
  | _ => return .bool false

/-- What may fail for numerals that are too long to be read. -/
def readable {α : Type} (result : Except Numeral.Fault α) : Action α :=
  match result with
  | .ok value => return value
  | .error fault => throw (.fault (.numeral fault))

/-- The version that an operand is, and its numbers. -/
def version (operand : Json) : Action (Semver × List Int) := do
  let t ← text "semver.compare" operand
  match Semver.parse? t with
  | some v => return (v, ← readable v.core)
  | none => fail (.notVersion t)

def compareVersions : Function := binary fun left right => do
  let (a, coreA) ← version left
  let (b, coreB) ← version right
  return .int (Semver.sign (← readable (Semver.compareFrom a b coreA coreB)))

def standard : List (Text × Function) :=
  [("time.now_ns", now),
   ("base64url.encode_no_pad", onOctets "base64url.encode_no_pad" Base64Url.encode),
   ("crypto.md5", onOctets "crypto.md5" fun bytes => Text.hex (Digest.md5 bytes)),
   ("crypto.sha1", onOctets "crypto.sha1" fun bytes => Text.hex (Digest.sha1 bytes)),
   ("crypto.sha256", onOctets "crypto.sha256" fun bytes => Text.hex (Digest.sha256 bytes)),
   ("hex.encode", onOctets "hex.encode" Text.hex),
   ("hex.decode", hexDecode),
   ("glob.quote_meta", globQuote),
   ("urlquery.encode", queryEncode),
   ("urlquery.decode", queryDecode),
   ("urlquery.encode_object", queryEncodeObject),
   ("uuid.rfc4122", identifier),
   ("rand.intn", randomBelow),
   ("object.union_n", union),
   ("opa.runtime", runtime),
   ("semver.is_valid", isVersion),
   ("semver.compare", compareVersions)]

end PolicyHost.Builtin

namespace PolicyHost

def Registry.standard : Registry := .ofList Builtin.standard

end PolicyHost
