import Issuance.Address
import Issuance.Hash.Sha2
import Issuance.Text.Base64
import Issuance.Json.Parse
import Issuance.Json.Fields
/-! # Bearer tokens

Three unpadded URL-base64 segments. Accepted only when HMAC-signed with the
service's secret, unexpired, already valid, of the required issuer and
audience, with an account subject, times widened by the skew. -/
namespace Issuance.Service

open Text.Base64 Hash.Sha2

inductive Refusal where
  | malformed
  | unexpectedMethod
  | badSignature
  | expired
  | notYetValid
  | wrongIssuer
  | wrongAudience
  | badSubject
  deriving DecidableEq, Repr

/-- The token of an `Authorization` header: the text after a first word
that is `Bearer` in any case, trimmed; empty when there is none. -/
def bearerOf (header : String) : String :=
  match (Text.trim header).splitOn " " with
  | scheme :: rest@(_ :: _) =>
    if Text.equalFold scheme "Bearer" then Text.trim (" ".intercalate rest) else ""
  | _ => ""

def hmacDigest? : String → Option Digest
  | "HS256" => some .sha256
  | "HS384" => some .sha384
  | "HS512" => some .sha512
  | _ => none

/-- The object members of a JSON text, `null` giving none; a number too
large for a binary64 spoils the text. -/
def membersOf? (b : Bytes) : Option (List (String × Json)) :=
  match Json.parse (Bytes.toTextLossy b) with
  | .ok (.obj fs) => if (Json.firstOverflowFields fs).isSome then none else some fs
  | .ok .null => some []
  | _ => none

def claim? (fs : List (String × Json)) (k : String) : Option Json :=
  (fs.reverse.find? (·.1 == k)).map (·.2)

/-- A whole second in a signed machine word; out of range it is the least word. -/
def toWord (x : Int) : Int := if -(Int.pow 2 63) ≤ x && x < Int.pow 2 63 then x else -(Int.pow 2 63)

/-- A claim time: absent, zero, or a number cut to whole seconds; anything
else is malformed. -/
def timeClaim (v : Option Json) : Except Refusal (Option Int) :=
  match v with
  | none => .ok none
  | some (.number t) =>
    match Decimal.Binary64.ofText? t with
    | some x =>
      if x.isZero then .ok none else
      match x.truncate with
      | some n => .ok (some (toWord n))
      | none => .error .malformed
    | none => .error .malformed
  | some _ => .error .malformed

/-- A text claim: absent is empty, anything but text is malformed. -/
def textClaim (v : Option Json) : Except Refusal String :=
  match v with
  | none => .ok ""
  | some (.str s) => .ok s
  | some _ => .error .malformed

def audienceClaim (v : Option Json) : Except Refusal (List String) :=
  match v with
  | none => .ok []
  | some (.str s) => .ok [s]
  | some (.arr xs) => xs.mapM fun x => match x with
    | .str s => .ok s
    | _ => .error .malformed
  | some _ => .error .malformed

/-- What a token is checked against: the secret, the issuer and audience
required when not empty, and the clock skew allowed, in seconds. -/
structure Verifier where
  secret : String
  issuer : String := ""
  audience : String := ""
  leeway : Int := 120
  deriving DecidableEq, Repr

def require (ok : Bool) (r : Refusal) : Except Refusal Unit := if ok then .ok () else .error r

def Verifier.signedClaims (v : Verifier) (token : String) : Except Refusal (List (String × Json)) := do
  let (h, c, s) ← match token.splitOn "." with
    | [h, c, s] => pure (h, c, s)
    | _ => throw .malformed
  let header ← match urlRaw.decode h with
    | .ok b => match membersOf? b with
      | some fs => pure fs
      | none => throw .malformed
    | .error _ => throw .malformed
  let claims ← match urlRaw.decode c with
    | .ok b => match membersOf? b with
      | some fs => pure fs
      | none => throw .malformed
    | .error _ => throw .malformed
  let digest ← match claim? header "alg" with
    | some (.str alg) => match hmacDigest? alg with
      | some d => pure d
      | none => throw .unexpectedMethod
    | _ => throw .malformed
  let sig ← match urlRaw.decode s with
    | .ok b => pure b
    | .error _ => throw .malformed
  require (hmac digest (Bytes.ofString v.secret) (Bytes.ofString (h ++ "." ++ c)) == sig) .badSignature
  pure claims

/-- The caller a token names, at second `now`, or why it is refused. -/
def Verifier.verify (v : Verifier) (now : Int) (token : String) : Except Refusal Address := do
  let claims ← v.signedClaims token
  match ← timeClaim (claim? claims "exp") with
  | some exp => require (now < exp + v.leeway) .expired
  | none => throw .expired
  match ← timeClaim (claim? claims "nbf") with
  | some nbf => require (nbf - v.leeway ≤ now) .notYetValid
  | none => pure ()
  if !v.audience.isEmpty then
    let aud ← audienceClaim (claim? claims "aud")
    require (aud.contains v.audience) .wrongAudience
  if !v.issuer.isEmpty then
    let iss ← textClaim (claim? claims "iss")
    require (iss == v.issuer) .wrongIssuer
  let sub ← textClaim (claim? claims "sub")
  require (!Text.isBlankText sub) .badSubject
  match Address.parse sub with
  | .ok a => pure a
  | .error _ => throw .badSubject

/-- What a minted token claims: its subject, expiry and start, and the
issuer and audience (left out when empty). -/
structure Claims where
  subject : Json
  expires : Option Int := none
  notBefore : Option Int := none
  issuer : String := ""
  audience : String := ""

def Claims.toJson (c : Claims) : Json :=
  .obj ((if c.audience.isEmpty then [] else [("aud", .str c.audience)]) ++
    (c.expires.map fun e => [("exp", .int e)]).getD [] ++
    (if c.issuer.isEmpty then [] else [("iss", .str c.issuer)]) ++
    (c.notBefore.map fun n => [("nbf", .int n)]).getD [] ++
    [("sub", c.subject)])

def segment (j : Json) : String := urlRaw.encode (Bytes.ofString j.compact)

/-- A token signed under `alg`: HMAC names sign, `none` does not, other
names give a signature that checks against nothing. -/
def mint (alg secret : String) (c : Claims) : String :=
  let head := segment (.obj [("alg", .str alg), ("typ", .str "JWT")]) ++ "." ++ segment c.toJson
  let sig := match hmacDigest? alg with
    | some d => urlRaw.encode (hmac d (Bytes.ofString secret) (Bytes.ofString head))
    | none => if alg == "none" then "" else urlRaw.encode (Bytes.ofString "unsigned")
  head ++ "." ++ sig

end Issuance.Service
