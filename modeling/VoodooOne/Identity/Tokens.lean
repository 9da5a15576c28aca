import VoodooOne.Authority.Permission
import VoodooOne.Foundation.Interpreter

/-!
# Session tokens

A token holds the claims of a session under a signature.  Verification decodes it and checks its
signature, its context, its times and its subject; whatever fails, it raises one error.
-/

namespace VoodooOne

/-- `base64` with the alphabet of addresses. -/
def base64Alphabet : List Char :=
  "ABCDEFGHIJKLMNOPQRSTUVWXYZabcdefghijklmnopqrstuvwxyz0123456789-_".toList

def base64Character (bits : Nat) : Char := base64Alphabet.getD bits 'A'

def b64urlEncode : List UInt8 → List Char
  | [] => []
  | [first] => [base64Character (first.toNat / 4), base64Character (first.toNat % 4 * 16)]
  | [first, second] => [base64Character (first.toNat / 4),
      base64Character (first.toNat % 4 * 16 + second.toNat / 16),
      base64Character (second.toNat % 16 * 4)]
  | first :: second :: third :: rest => base64Character (first.toNat / 4) ::
      base64Character (first.toNat % 4 * 16 + second.toNat / 16) ::
      base64Character (second.toNat % 16 * 4 + third.toNat / 64) ::
      base64Character (third.toNat % 64) :: b64urlEncode rest

/-- The six bits of a character; `altchars` leaves the standard alphabet in place. -/
def base64Bits (character : Char) : Option Nat :=
  if character = '+' then some 62
  else if character = '/' then some 63
  else base64Alphabet.findIdx? (· = character)

/-- `binascii.a2b_base64` in strict mode. -/
def a2bBase64 : List Char → Option (List UInt8)
  | [] => some []
  | [first, second, '=', '='] => do
      let first ← base64Bits first
      let second ← base64Bits second
      return [UInt8.ofNat (first * 4 + second / 16)]
  | [first, second, third, '='] => do
      let first ← base64Bits first
      let second ← base64Bits second
      let third ← base64Bits third
      return [UInt8.ofNat (first * 4 + second / 16), UInt8.ofNat (second * 16 + third / 4)]
  | first :: second :: third :: fourth :: rest => do
      let first ← base64Bits first
      let second ← base64Bits second
      let third ← base64Bits third
      let fourth ← base64Bits fourth
      let later ← a2bBase64 rest
      return UInt8.ofNat (first * 4 + second / 16) :: UInt8.ofNat (second * 16 + third / 4) ::
        UInt8.ofNat (third * 64 + fourth) :: later
  | _ => none

def b64urlDecode (value : List Char) : Except Raised (List UInt8) := do
  raiseIf (value = []) (valueError "empty base64url value")
  orRaise (valueError "invalid base64url value")
    (a2bBase64 (value ++ List.replicate ((4 - value.length % 4) % 4) '='))

/-- `bytes.hex`. -/
def hexText (bytes : List UInt8) : String :=
  String.ofList (bytes.flatMap fun byte => [hexDigit (byte.toNat / 16), hexDigit (byte.toNat % 16)])

/-- `str.encode("utf-8")`. -/
def utf8 (text : String) : List UInt8 := text.toUTF8.toList

/-- What tokens rest on: HMAC with SHA-256, the texts of floating-point numbers, and the
configuration of sessions. -/
structure TokenAuthority where
  /-- The digest of a message under a key. -/
  hmac : List UInt8 → List UInt8 → List UInt8
  floats : FloatRepr
  sessionSigningSecret : String
  tokenTtlSeconds : Int

def sessionFormatVersion : String := "v2"

def sessionIssuer : String := "voodoo-one"

def sessionAudience : String := "voodoo-one-control-plane"

def sessionSigningPurpose : String := "session-token/v2"

def sessionReferencePurpose : String := "session-reference/v1"

def keyDerivationDomain : List UInt8 := utf8 "voodoo-one" ++ [0] ++ utf8 "key-derivation" ++ [0]

def minTokenTtlSeconds : Int := 300

def maxTokenTtlSeconds : Int := 86400

def maxTokenLength : Nat := 4096

def clockSkewSeconds : Int := 60

namespace TokenAuthority

variable (authority : TokenAuthority)

def deriveKey (purpose : String) : Except Raised (List UInt8) := do
  let secretBytes := utf8 authority.sessionSigningSecret
  raiseIf (secretBytes.length < 32) (valueError "secret must contain at least 32 bytes")
  return authority.hmac secretBytes (keyDerivationDomain ++ utf8 purpose)

def signature (encodedPayload : List Char) : Except Raised (List UInt8) := do
  let key ← authority.deriveKey sessionSigningPurpose
  return authority.hmac key (utf8 (String.ofList encodedPayload))

def sessionReference (sessionId : String) : Except Raised String := do
  raiseIf (¬(16 ≤ sessionId.length ∧ sessionId.length ≤ 128)) (valueError "session ID is invalid")
  let key ← authority.deriveKey sessionReferencePurpose
  return hexText (authority.hmac key (utf8 sessionId))

end TokenAuthority

structure Principal where
  (userId username role : String)
deriving DecidableEq, Repr

structure VerifiedSessionToken where
  principal : Principal
  sessionId : String
  (issuedAt expiresAt : Int)
deriving DecidableEq, Repr

/-- `\uXXXX` of a 16-bit unit. -/
def unitEscape (code : Nat) : List Char :=
  ['\\', 'u', hexDigit (code / 4096), hexDigit (code / 256 % 16), hexDigit (code / 16 % 16),
    hexDigit (code % 16)]

/-- A character in a string that `json.dumps` keeps in ASCII. -/
def asciiEscape (character : Char) : List Char :=
  let code := character.toNat
  if code < 127 then escapeCharacter character
  else if code < 0x10000 then unitEscape code
  else unitEscape (0xd800 + (code - 0x10000) / 0x400) ++
    unitEscape (0xdc00 + (code - 0x10000) % 0x400)

/-- A string that `json.dumps` keeps in ASCII. -/
def asciiQuote (text : String) : List Char := '"' :: (text.toList.flatMap asciiEscape ++ ['"'])

def tokenPayload (nonce userId username role : String) (issuedAt expiresAt : Int) : List Char :=
  let fields : List (String × List Char) :=
    [("aud", asciiQuote sessionAudience), ("exp", (toString expiresAt).toList),
      ("iat", (toString issuedAt).toList), ("iss", asciiQuote sessionIssuer),
      ("nonce", asciiQuote nonce), ("role", asciiQuote role), ("sub", asciiQuote userId),
      ("username", asciiQuote username)]
  '\x7b' :: (List.intercalate [','] (fields.map fun field =>
    asciiQuote field.1 ++ ':' :: field.2) ++ ['\x7d'])

def issueToken (authority : TokenAuthority) (userId username role : String) (ttlSeconds now : Int)
    (nonce : String) : Except Raised String := do
  raiseIf (¬(1 ≤ userId.length ∧ userId.length ≤ 128)) (valueError "user ID is invalid")
  raiseIf (¬(1 ≤ username.length ∧ username.length ≤ 80)) (valueError "username is invalid")
  raiseIf (rolePermissions.lookup role = none) (valueError "unknown role")
  raiseIf (¬(minTokenTtlSeconds ≤ ttlSeconds ∧ ttlSeconds ≤ maxTokenTtlSeconds))
    (valueError "token TTL is invalid")
  let payload := tokenPayload nonce userId username role now (now + ttlSeconds)
  let encodedPayload := b64urlEncode (utf8 (String.ofList payload))
  let signature ← authority.signature encodedPayload
  return String.ofList (sessionFormatVersion.toList ++ '.' :: encodedPayload ++
    '.' :: b64urlEncode signature)

/-- `str.split` with at most two splits: the three parts, if there are three. -/
def threeParts (token : List Char) : Option (List Char × List Char × List Char) :=
  match token.dropWhile (· ≠ '.') with
  | [] => none
  | _ :: later => match later.dropWhile (· ≠ '.') with
    | [] => none
    | _ :: last => some (token.takeWhile (· ≠ '.'), later.takeWhile (· ≠ '.'), last)

def tokenText (payload : Json) (name : String) (minimum maximum : Nat) (message : String) :
    Except Raised String := do
  let text ← orRaise (valueError message) (payload.get name).text?
  raiseIf (¬(minimum ≤ text.length ∧ text.length ≤ maximum)) (valueError message)
  return text

/-- The body of `verify_session_token`. -/
def readSessionToken (authority : TokenAuthority) (now : Int) (token : String) :
    Except Raised VerifiedSessionToken := do
  raiseIf (token = "" ∨ maxTokenLength < token.length) (valueError "invalid token length")
  let (version, encodedPayload, encodedSignature) ←
    orRaise (valueError "not enough values to unpack") (threeParts token.toList)
  raiseIf (version ≠ sessionFormatVersion.toList) (valueError "unsupported token version")
  raiseIf (encodedPayload.any (127 < ·.toNat)) (valueError "ordinal not in range(128)")
  let expectedSignature ← authority.signature encodedPayload
  let suppliedSignature ← b64urlDecode encodedSignature
  raiseIf (suppliedSignature.length ≠ 32 ∨ expectedSignature ≠ suppliedSignature)
    (valueError "invalid token signature")
  let decodedPayload ← b64urlDecode encodedPayload
  let text ← orRaise (valueError "invalid UTF-8") (String.fromUTF8? ⟨decodedPayload.toArray⟩)
  let payload ← orRaise (valueError "invalid JSON document") (loads authority.floats text)
  raiseIf (payload.keys = none) (valueError "invalid token payload")
  raiseIf (payload.get "iss" ≠ .str sessionIssuer ∨ payload.get "aud" ≠ .str sessionAudience)
    (valueError "invalid token context")
  let issuedAt ← orRaise (valueError "invalid token timestamps") (payload.get "iat").int?
  let expiresAt ← orRaise (valueError "invalid token timestamps") (payload.get "exp").int?
  raiseIf (now + clockSkewSeconds < issuedAt) (valueError "token issued in the future")
  raiseIf (expiresAt ≤ now ∨ expiresAt ≤ issuedAt) (valueError "token expired")
  raiseIf (maxTokenTtlSeconds < expiresAt - issuedAt) (valueError "token lifetime is invalid")
  let userId ← tokenText payload "sub" 1 128 "invalid subject"
  let username ← tokenText payload "username" 1 80 "invalid username"
  let nonce ← tokenText payload "nonce" 16 128 "invalid nonce"
  let role ← orRaise (valueError "unknown role") (payload.get "role").text?
  raiseIf (rolePermissions.lookup role = none) (valueError "unknown role")
  return ⟨⟨userId, username, role⟩, nonce, issuedAt, expiresAt⟩

def verifySessionToken (authority : TokenAuthority) (now : Int) (token : String) :
    Except Raised VerifiedSessionToken :=
  catching [.keyError, .valueError, .typeError] (valueError "invalid authentication token")
    (readSessionToken authority now token)

end VoodooOne
