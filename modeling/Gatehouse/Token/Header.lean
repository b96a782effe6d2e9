import Gatehouse.Token.Claims

/-! The header of a signed token. The algorithm is HS256 and nothing else; the other registered
members only have to be well formed. -/
namespace Gatehouse.Token.Header

def issued : Json := .record [("typ", .str "JWT"), ("alg", .str "HS256")]

def isAbsentOr (check : Json → Bool) : Option Json → Bool
  | none | some .null => true
  | some value => check value

def isString (j : Json) : Bool := j.string?.isSome

def isStrings (j : Json) : Bool :=
  match j with
  | .array items => items.all isString
  | _ => false

def isOneOf (names : List String) (j : Json) : Bool := j.variant?.any names.contains

/-- Whether a value names one of the algorithms of a key. There an empty object after the name does
as well as null. -/
def isKeyAlgorithm (j : Json) : Bool :=
  let names := ["HS256", "HS384", "HS512", "ES256", "ES384", "RS256", "RS384", "RS512", "PS256",
    "PS384", "PS512", "EdDSA", "RSA1_5", "RSA-OAEP", "RSA-OAEP-256"]
  match j with
  | .object [(name, .object [])] => name.text?.any names.contains
  | j => isOneOf names j

def keyMembers : List (String × (Json → Bool)) := [
  ("use", isString), ("key_ops", isStrings), ("alg", isKeyAlgorithm), ("kid", isString),
  ("x5u", isString), ("x5c", isStrings), ("x5t", isString), ("x5t#S256", isString)]

def isCurve : Json → Bool := isOneOf ["P-256", "P-384", "P-521", "Ed25519"]

def keyTypes : List (List (String × (Json → Bool))) := [
  [("kty", isOneOf ["EC"]), ("crv", isCurve), ("x", isString), ("y", isString)],
  [("kty", isOneOf ["RSA"]), ("n", isString), ("e", isString)],
  [("kty", isOneOf ["oct"]), ("k", isString)],
  [("kty", isOneOf ["OKP"]), ("crv", isCurve), ("x", isString)]]

def hasMembers (members : List (Spelling × Json)) (checks : List (String × (Json → Bool))) :
    Bool :=
  checks.all fun (name, check) =>
    match Json.field? members name with
    | some (some value) => check value
    | _ => false

/-- Whether a value is a public or symmetric key; it nests no deeper than `depth` inside. -/
def isKey (depth : Nat) (j : Json) : Bool :=
  match j with
  | .object members =>
    (members.all fun (key, value) => key.text?.isSome && value.fits depth) &&
    (keyMembers.all fun (name, check) =>
      match Json.field? members name with
      | none => false
      | some value => isAbsentOr check value) &&
    keyTypes.any (hasMembers members)
  | _ => false

def isValid (j : Json) : Bool :=
  match j.fields? ["typ", "alg", "cty", "jku", "jwk", "kid", "x5u", "x5c", "x5t", "x5t#S256"] with
  | some [typ, alg, cty, jku, jwk, kid, x5u, x5c, x5t, x5tS256] =>
    (alg.any (isOneOf ["HS256"])) &&
    ([typ, cty, jku, kid, x5u, x5t, x5tS256].all (isAbsentOr isString)) &&
    isAbsentOr isStrings x5c && isAbsentOr (isKey 125) jwk
  | _ => false

end Gatehouse.Token.Header
