import VoodooOne.Identity.TokenPayload

/-!
# Round trips of session tokens

Every token that is issued is short enough to be verified, and until it expires it yields the
principal, the session and the times it was issued for.
-/

namespace VoodooOne

/-- Three texts between dots are taken apart when the first two hold no dot. -/
theorem threeParts_joined {first second : List Char} (noDot : ∀ character ∈ first, character ≠ '.')
    (noOther : ∀ character ∈ second, character ≠ '.') (last : List Char) :
    threeParts (first ++ '.' :: second ++ '.' :: last) = some (first, second, last) := by
  have split {part : List Char} (plain : ∀ character ∈ part, character ≠ '.') (rest : List Char) :
      (part ++ '.' :: rest).takeWhile (· ≠ '.') = part ∧
        (part ++ '.' :: rest).dropWhile (· ≠ '.') = '.' :: rest := by
    have each : ∀ character ∈ part, decide (character ≠ '.') = true := fun character member =>
      decide_eq_true (plain character member)
    rw [List.takeWhile_append_of_pos each, List.dropWhile_append_of_pos each]
    simp
  obtain ⟨takes, drops⟩ := split noDot (second ++ '.' :: last)
  obtain ⟨takesSecond, dropsSecond⟩ := split noOther last
  rw [threeParts, List.append_assoc, List.cons_append, drops, takes]
  simp only [takesSecond, dropsSecond]

/-- A configuration of tokens: HMAC yields the digests of SHA-256. -/
structure SessionAuthority extends TokenAuthority where
  digestSize : ∀ key message, (hmac key message).length = 32

/-- What the clock of a system can show: a signed 64-bit number of seconds. -/
abbrev ClockTime := {seconds : Int // -2 ^ 63 ≤ seconds ∧ seconds < 2 ^ 63}

/-- `secrets.token_urlsafe(12)`: the text of twelve random bytes. -/
def tokenUrlsafe (bytes : {bytes : List UInt8 // bytes.length = 12}) : String :=
  String.ofList (b64urlEncode bytes.1)

theorem length_tokenUrlsafe (bytes : {bytes : List UInt8 // bytes.length = 12}) :
    (tokenUrlsafe bytes).length = 16 := by
  rw [tokenUrlsafe, String.length_ofList, length_b64urlEncode, bytes.2]

theorem ClockTime.small (issuedAt : ClockTime) {ttlSeconds : Int}
    (range : 0 ≤ ttlSeconds ∧ ttlSeconds ≤ maxTokenTtlSeconds) :
    (issuedAt.1 + ttlSeconds).natAbs < 10 ^ 19 := by
  obtain ⟨seconds, early, late⟩ := issuedAt
  rw [maxTokenTtlSeconds] at range
  dsimp only
  omega

theorem length_digits {value : Int} (small : value.natAbs < 10 ^ 19) :
    (Nat.toDigits 10 value.natAbs).length ≤ maxDigits := by
  have short := (Nat.length_toDigits_le_iff (by decide) (by decide)).mpr small
  have limit : 19 ≤ maxDigits := by decide
  exact short.trans limit

theorem length_role {role : String} (known : rolePermissions.lookup role ≠ none) :
    (asciiQuote role).length ≤ 19 := by
  have each : ∀ name ∈ rolePermissions.map Prod.fst, (asciiQuote name).length ≤ 19 := by decide
  apply each
  by_contra missing
  apply known
  rw [List.lookup_eq_none_iff]
  intro entry member
  rw [bne_iff_ne]
  rintro rfl
  exact missing (List.mem_map_of_mem member)

namespace TokenAuthority

variable (authority : TokenAuthority)

def Accepts (userId username role : String) (ttlSeconds : Int) : Prop :=
  (1 ≤ userId.length ∧ userId.length ≤ 128) ∧ (1 ≤ username.length ∧ username.length ≤ 80) ∧
    rolePermissions.lookup role ≠ none ∧
    (minTokenTtlSeconds ≤ ttlSeconds ∧ ttlSeconds ≤ maxTokenTtlSeconds) ∧
    32 ≤ (utf8 authority.sessionSigningSecret).length

/-- The signature of a payload under the key that the secret yields. -/
def signatureOf (encodedPayload : List Char) : List UInt8 :=
  authority.hmac (authority.hmac (utf8 authority.sessionSigningSecret)
    (keyDerivationDomain ++ utf8 sessionSigningPurpose)) (utf8 (String.ofList encodedPayload))

def signedToken (payload : List Char) : String :=
  let encodedPayload := b64urlEncode (utf8 (String.ofList payload))
  String.ofList (sessionFormatVersion.toList ++ '.' :: encodedPayload ++
    '.' :: b64urlEncode (authority.signatureOf encodedPayload))

variable {authority}

theorem signature_eq (long : 32 ≤ (utf8 authority.sessionSigningSecret).length)
    (encodedPayload : List Char) :
    authority.signature encodedPayload = .ok (authority.signatureOf encodedPayload) := by
  have passes : authority.deriveKey sessionSigningPurpose =
      .ok (authority.hmac (utf8 authority.sessionSigningSecret)
        (keyDerivationDomain ++ utf8 sessionSigningPurpose)) := by
    rw [deriveKey, raiseIf_of_not (not_lt.mpr long)]
    rfl
  rw [signature, passes]
  rfl

theorem issueToken_eq_ok {userId username role nonce token : String} {ttlSeconds now : Int} :
    issueToken authority userId username role ttlSeconds now nonce = .ok token ↔
      authority.Accepts userId username role ttlSeconds ∧ token = authority.signedToken
          (tokenPayload nonce userId username role now (now + ttlSeconds)) := by
  constructor
  · intro issued
    simp only [issueToken, bind_eq_ok, raiseIf_eq_ok, not_not, exists_const] at issued
    obtain ⟨user, name, known, range, digest, signed, same⟩ := issued
    have long : 32 ≤ (utf8 authority.sessionSigningSecret).length := by
      simp only [signature, deriveKey, bind_eq_ok, raiseIf_eq_ok] at signed
      obtain ⟨_, ⟨_, long, -⟩, -⟩ := signed
      exact not_lt.mp long
    rw [signature_eq long, Except.ok.injEq] at signed
    subst signed
    exact ⟨⟨user, name, known, range, long⟩, (Except.ok.inj same).symm⟩
  · rintro ⟨⟨user, name, known, range, long⟩, rfl⟩
    rw [issueToken, raiseIf_of_not (not_not.mpr user), raiseIf_of_not (not_not.mpr name),
      raiseIf_of_not known, raiseIf_of_not (not_not.mpr range)]
    simp only [ok_bind, signature_eq long]
    rfl

section Verification

variable {userId username role nonce : String} {ttlSeconds issuedAt : Int}

theorem Accepts.payload (accepted : authority.Accepts userId username role ttlSeconds)
    (session : nonce.length = 16) (clock : issuedAt.natAbs < 10 ^ 19)
    (later : (issuedAt + ttlSeconds).natAbs < 10 ^ 19) :
    Ascii (tokenPayload nonce userId username role issuedAt (issuedAt + ttlSeconds)) ∧
      (tokenPayload nonce userId username role issuedAt (issuedAt + ttlSeconds)).length ≤ 3000 := by
  obtain ⟨user, name, known, -, -⟩ := accepted
  refine ⟨tokenPayload_ascii (tokenFields_held (length_digits clock) (length_digits later)), ?_⟩
  rw [length_tokenPayload]
  have times := And.intro (length_int (by decide) clock) (length_int (by decide) later)
  have texts := And.intro (asciiQuote_ascii nonce).2 (length_role known)
  have names := And.intro (asciiQuote_ascii userId).2 (asciiQuote_ascii username).2
  omega

theorem length_signedToken (digestSize : ∀ key message, (authority.hmac key message).length = 32)
    {payload : List Char} (ascii : Ascii payload) (short : payload.length ≤ 3000) :
    (authority.signedToken payload).length ≤ maxTokenLength := by
  have signature : (authority.signatureOf (b64urlEncode (utf8 (String.ofList payload)))).length =
      32 := digestSize _ _
  have version : sessionFormatVersion.toList.length = 2 := rfl
  rw [signedToken, String.length_ofList, List.length_append, List.length_append, List.length_cons,
    List.length_cons, length_b64urlEncode, length_b64urlEncode, signature, length_utf8 ascii,
    version, maxTokenLength]
  omega

theorem tokenText_str {payload : Json} {name text message : String} {minimum maximum : Nat}
    (range : minimum ≤ text.length ∧ text.length ≤ maximum) (held : payload.get name = .str text) :
    tokenText payload name minimum maximum message = .ok text := by
  rw [tokenText, held]
  change (raiseIf _ _ >>= fun _ => _) = _
  rw [raiseIf_of_not (not_not.mpr range)]
  rfl

/-- A token whose payload holds a session within its limits is verified until it expires. -/
theorem Accepts.verify (accepted : authority.Accepts userId username role ttlSeconds)
    (digestSize : ∀ key message, (authority.hmac key message).length = 32)
    (session : nonce.length = 16) (clock : issuedAt.natAbs < 10 ^ 19)
    (later : (issuedAt + ttlSeconds).natAbs < 10 ^ 19) {now : Int}
    (early : issuedAt - clockSkewSeconds ≤ now) (late : now < issuedAt + ttlSeconds) :
    readSessionToken authority now (authority.signedToken
      (tokenPayload nonce userId username role issuedAt (issuedAt + ttlSeconds))) =
      .ok ⟨⟨userId, username, role⟩, nonce, issuedAt, issuedAt + ttlSeconds⟩ := by
  obtain ⟨ascii, short⟩ := accepted.payload session clock later
  obtain ⟨user, name, known, ⟨minimum, maximum⟩, long⟩ := accepted
  have read : loads authority.floats (String.ofList
      (tokenPayload nonce userId username role issuedAt (issuedAt + ttlSeconds))) = _ :=
    loads_tokenPayload (length_digits clock) (length_digits later)
  have fits := length_signedToken digestSize ascii short
  set payload := tokenPayload nonce userId username role issuedAt (issuedAt + ttlSeconds) with shown
  set encoded := b64urlEncode (utf8 (String.ofList payload)) with encodes
  have parts : threeParts (authority.signedToken payload).toList = some
      (sessionFormatVersion.toList, encoded, b64urlEncode (authority.signatureOf encoded)) := by
    rw [signedToken, String.toList_ofList]
    exact threeParts_joined (by simp [sessionFormatVersion]) (fun character member =>
      (b64urlEncode_plain _ character member).2.2) _
  have plain : ¬encoded.any (127 < ·.toNat) := by
    rw [List.any_eq_true]
    rintro ⟨character, member, large⟩
    have small := (b64urlEncode_plain _ character member).1
    rw [decide_eq_true_eq] at large
    omega
  have signature : (authority.signatureOf encoded).length = 32 := digestSize _ _
  have signed : b64urlDecode (b64urlEncode (authority.signatureOf encoded)) =
      .ok (authority.signatureOf encoded) :=
    b64urlDecode_encode (List.ne_nil_of_length_pos (by omega))
  have written : b64urlDecode encoded = .ok (utf8 (String.ofList payload)) := by
    apply b64urlDecode_encode
    apply List.ne_nil_of_length_pos
    rw [length_utf8 ascii, shown, length_tokenPayload]
    omega
  simp only [readSessionToken, bind_eq_ok, raiseIf_eq_ok, orRaise_eq_ok]
  refine ⟨(), ?_, _, parts, (), not_not.mpr rfl, (), plain, _, signature_eq long _, _, signed, (),
    ?_, _,
    written, _, fromUTF8?_utf8 _, _, read, (), ?_, (), ?_, issuedAt, rfl, issuedAt + ttlSeconds,
    rfl, (), ?_, (), ?_, (), ?_, userId, tokenText_str user rfl, username, tokenText_str name rfl,
    nonce, tokenText_str (by omega) rfl, role, rfl, (), known, rfl⟩
  · rintro (empty | long)
    · rw [empty] at parts
      cases parts
    · omega
  · rintro (size | differs)
    · exact size signature
    · exact differs rfl
  · intro missing
    cases missing
  · rintro (issuer | audience)
    · exact issuer rfl
    · exact audience rfl
  · omega
  · rw [minTokenTtlSeconds] at minimum
    omega
  · omega

end Verification

end TokenAuthority

/-- The issuer accepts exactly the sessions within its limits.  Each token it issues is short enough
for the verifier, which returns its principal, its session and its times from a minute before the
time of issue until it expires. -/
theorem session_token_round_trip (authority : SessionAuthority) (userId username role : String)
    (ttlSeconds : Int) (issuedAt : ClockTime) (bytes : {bytes : List UInt8 // bytes.length = 12}) :
    ((∃ token, issueToken authority.toTokenAuthority userId username role ttlSeconds issuedAt.1
        (tokenUrlsafe bytes) = .ok token) ↔
      authority.toTokenAuthority.Accepts userId username role ttlSeconds) ∧
    ∀ token, issueToken authority.toTokenAuthority userId username role ttlSeconds issuedAt.1
        (tokenUrlsafe bytes) = .ok token →
      token.length ≤ maxTokenLength ∧
      ∀ now, issuedAt.1 - clockSkewSeconds ≤ now → now < issuedAt.1 + ttlSeconds →
        verifySessionToken authority.toTokenAuthority now token =
          .ok ⟨⟨userId, username, role⟩, tokenUrlsafe bytes, issuedAt.1,
            issuedAt.1 + ttlSeconds⟩ := by
  refine ⟨?_, ?_⟩
  · constructor
    · rintro ⟨token, issued⟩
      exact (TokenAuthority.issueToken_eq_ok.mp issued).1
    · intro accepted
      exact ⟨_, TokenAuthority.issueToken_eq_ok.mpr ⟨accepted, rfl⟩⟩
  · intro token issued
    obtain ⟨accepted, rfl⟩ := TokenAuthority.issueToken_eq_ok.mp issued
    have session := length_tokenUrlsafe bytes
    have range := accepted.2.2.2.1
    have clock : issuedAt.1.natAbs < 10 ^ 19 := by
      have small : (issuedAt.1 + 0).natAbs < 10 ^ 19 := issuedAt.small (by decide)
      rwa [Int.add_zero] at small
    have later : (issuedAt.1 + ttlSeconds).natAbs < 10 ^ 19 :=
      issuedAt.small ⟨(by decide : (0 : Int) ≤ minTokenTtlSeconds).trans range.1, range.2⟩
    obtain ⟨ascii, short⟩ := accepted.payload session clock later
    refine ⟨TokenAuthority.length_signedToken authority.digestSize ascii short, ?_⟩
    intro now early late
    exact catching_eq_ok.mpr (accepted.verify authority.digestSize session clock later early late)

end VoodooOne
