import VoodooOne.Foundation.Interpreter

/-!
# Issuers

An issuer is an HTTPS address.  It is stored without the white space around it and without the
slashes at its end, and otherwise as it was written; so the case of its scheme and of its host
stays.
-/

namespace VoodooOne

/-- What stays a parameter of `urlsplit`: the checks of hosts in brackets and of hosts with
characters outside ASCII. -/
structure UrlRules where
  (bracketed normalized : List Char → Except Raised Unit)

structure SplitResult where
  (scheme netloc path query fragment : List Char)
deriving DecidableEq

namespace SplitResult

/-- The part of `netloc` before the last `@`. -/
def userinfo (parsed : SplitResult) : Option (List Char) :=
  if '@' ∈ parsed.netloc then
    some ((parsed.netloc.reverse.dropWhile (· ≠ '@')).drop 1).reverse
  else none

def username (parsed : SplitResult) : Option (List Char) :=
  parsed.userinfo.map (·.takeWhile (· ≠ ':'))

def password (parsed : SplitResult) : Option (List Char) :=
  (parsed.userinfo.filter (':' ∈ ·)).map fun info => (info.dropWhile (· ≠ ':')).drop 1

end SplitResult

/-- `scheme_chars`. -/
def isSchemeCharacter (character : Char) : Bool :=
  character.isAlphanum || character == '+' || character == '-' || character == '.'

/-- The scheme in lower case, and what follows its colon. -/
def splitScheme (url : List Char) : List Char × List Char :=
  let name := url.takeWhile (· ≠ ':')
  if ':' ∈ url ∧ name.head?.any Char.isAlpha ∧ name.all isSchemeCharacter then
    (name.map Char.toLower, url.drop (name.length + 1))
  else ([], url)

/-- `_splitnetloc` after the two slashes, or no network location without them. -/
def splitNetloc (url : List Char) : List Char × List Char :=
  match url with
  | '/' :: '/' :: rest => rest.span (· ∉ ['/', '?', '#'])
  | url => ([], url)

/-- `str.split` at the first separator: what is before it and what is after it. -/
def splitFirst (separator : Char) (text : List Char) : List Char × List Char :=
  (text.takeWhile (· ≠ separator), (text.dropWhile (· ≠ separator)).drop 1)

def urlsplit (rules : UrlRules) (url : List Char) : Except Raised SplitResult := do
  let url := (url.dropWhile (·.toNat ≤ 32)).filter (· ∉ ['\t', '\r', '\n'])
  let (scheme, url) := splitScheme url
  let (netloc, url) := splitNetloc url
  raiseIf (¬('[' ∈ netloc ↔ ']' ∈ netloc)) (valueError "Invalid IPv6 URL")
  if '[' ∈ netloc then rules.bracketed netloc
  let (url, fragment) := splitFirst '#' url
  let (path, query) := splitFirst '?' url
  if netloc.any (127 < ·.toNat) then rules.normalized netloc
  return ⟨scheme, netloc, path, query, fragment⟩

def maxIssuerLength : Nat := 2048

def maxSubjectLength : Nat := 512

/-- `str.rstrip` of slashes. -/
def rstripSlashes (text : String) : String := String.ofList (text.toList.rdropWhile (· = '/'))

def validateIssuer (rules : UrlRules) (value : String) : Except Raised String := do
  let issuer := strip value
  raiseIf (issuer = "" ∨ maxIssuerLength < issuer.length)
    (valueError "external identity issuer length is invalid")
  let parsed ← urlsplit rules issuer.toList
  raiseIf (parsed.scheme ≠ "https".toList ∨ parsed.netloc = [] ∨ parsed.username ≠ none ∨
      parsed.password ≠ none ∨ parsed.query ≠ [] ∨ parsed.fragment ≠ [])
    (valueError "external identity issuer must be an absolute HTTPS URL")
  return rstripSlashes issuer

def validateSubject (value : String) : Except Raised String := do
  let subject := strip value
  raiseIf (subject = "" ∨ maxSubjectLength < subject.length)
    (valueError "external identity subject length is invalid")
  raiseIf (subject.toList.any fun character => character.toNat < 32 || character.toNat == 127)
    (valueError "external identity subject contains control characters")
  return subject

structure ExternalIdentityKey where
  (provider issuer subject : String)
deriving DecidableEq, Repr

/-- `ExternalIdentityKey.__post_init__`. -/
def ExternalIdentityKey.create (rules : UrlRules) (provider issuer subject : String) :
    Except Raised ExternalIdentityKey := do
  let provider := (strip provider).toLower
  raiseIf (provider ≠ "oidc")
    (valueError "only the unreleased OIDC identity provider contract is recognized")
  let issuer ← validateIssuer rules issuer
  let subject ← validateSubject subject
  return ⟨provider, issuer, subject⟩

/-- One way to write the address of an issuer. -/
structure IssuerSpelling where
  /-- White space around the address. -/
  (before after : List Char)
  /-- Scheme and host, in any case. -/
  (scheme host : List Char)
  /-- Path without the slashes at its end. -/
  path : List Char
  /-- Number of slashes at the end. -/
  slashes : Nat
  blank : ∀ character ∈ before ++ after, isSpace character = true
  https : scheme.map Char.toLower = "https".toList
  named : host ≠ []
  plain : ∀ character ∈ host, character ∉ ['/', '?', '#']
  rooted : ∀ character ∈ path.head?, character = '/'
  trimmed : ∀ character ∈ path.getLast?, character ≠ '/'
  /-- White space at the end is all in `after`. -/
  closed : slashes = 0 → ∀ character ∈ (host ++ path).getLast?, isSpace character = false

namespace IssuerSpelling

/-- Scheme, host and path. -/
def address (spelling : IssuerSpelling) : List Char :=
  spelling.scheme ++ "://".toList ++ (spelling.host ++ spelling.path)

def text (spelling : IssuerSpelling) : String :=
  String.ofList (spelling.before ++ (spelling.address ++ List.replicate spelling.slashes '/') ++
    spelling.after)

/-- Two spellings denote one origin and path. -/
def Same (spelling other : IssuerSpelling) : Prop :=
  spelling.host.map Char.toLower = other.host.map Char.toLower ∧ spelling.path = other.path

/-- Two spellings have scheme and host in the same case. -/
def SameCase (spelling other : IssuerSpelling) : Prop :=
  spelling.scheme = other.scheme ∧ spelling.host = other.host

end IssuerSpelling

/-- White space around a text that has none at its ends is stripped. -/
theorem strip_surrounded {before core after : List Char} (nonempty : core ≠ [])
    (blank : ∀ character ∈ before ++ after, isSpace character = true)
    (first : ∀ character ∈ core.head?, isSpace character = false)
    (last : ∀ character ∈ core.getLast?, isSpace character = false) :
    strip (String.ofList (before ++ core ++ after)) = String.ofList core := by
  have blankBefore : ∀ character ∈ before, isSpace character = true := fun character member =>
    blank character (List.mem_append_left _ member)
  have blankAfter : ∀ character ∈ after.reverse, isSpace character = true :=
    fun character member => blank character (List.mem_append_right _ (List.mem_reverse.mp member))
  have front : (core ++ after).dropWhile isSpace = core ++ after := by
    obtain ⟨head, rest, rfl⟩ := List.exists_cons_of_ne_nil nonempty
    rw [List.cons_append, List.dropWhile_cons, first head rfl]
    rfl
  have back : core.reverse.dropWhile isSpace = core.reverse := by
    have ends := last _ (List.getLast?_eq_some_getLast nonempty)
    rw [← List.dropLast_concat_getLast nonempty, List.reverse_append, List.reverse_singleton,
      List.singleton_append, List.dropWhile_cons, ends]
    rfl
  rw [strip, String.toList_ofList, List.append_assoc, List.dropWhile_append_of_pos blankBefore,
    front, List.reverse_append, List.dropWhile_append_of_pos blankAfter, back, List.reverse_reverse]

theorem eq_of_toLower {character : Char} (lower : character.toLower = 'h') :
    character = 'h' ∨ character = 'H' := by
  unfold Char.toLower at lower
  split at lower
  · right
    apply Char.ext
    have code := congrArg Char.val lower
    simp only at code
    grind
  · exact .inl lower

namespace IssuerSpelling

variable (spelling : IssuerSpelling)

theorem address_head : ∀ character ∈ spelling.address.head?, isSpace character = false := by
  obtain ⟨head, rest, isScheme, lower, -⟩ := List.map_eq_cons_iff.mp spelling.https
  intro character isHead
  rw [address, isScheme] at isHead
  obtain rfl := Option.some.inj isHead
  rcases eq_of_toLower lower with rfl | rfl <;> decide

theorem address_getLast? : spelling.address.getLast? =
    (spelling.host ++ spelling.path).getLast? := by
  obtain ⟨last, isLast⟩ := List.getLast?_isSome.mpr
    (List.append_ne_nil_of_left_ne_nil spelling.named spelling.path) |> Option.isSome_iff_exists.mp
  rw [address, List.getLast?_append, isLast]
  rfl

theorem address_ne_nil : spelling.address ≠ [] :=
  List.append_ne_nil_of_right_ne_nil _
    (List.append_ne_nil_of_left_ne_nil spelling.named spelling.path)

theorem address_trimmed : ∀ character ∈ spelling.address.getLast?, character ≠ '/' := by
  intro character isLast
  rw [address_getLast?, List.getLast?_append] at isLast
  cases path : spelling.path.getLast? with
  | some last =>
      rw [path] at isLast
      obtain rfl := Option.some.inj isLast
      exact spelling.trimmed _ path
  | none =>
      rw [path] at isLast
      rintro rfl
      exact spelling.plain _ (List.mem_of_getLast? isLast) (by decide)

theorem strip_text : strip spelling.text =
    String.ofList (spelling.address ++ List.replicate spelling.slashes '/') := by
  apply strip_surrounded
  · exact List.append_ne_nil_of_left_ne_nil spelling.address_ne_nil _
  · exact spelling.blank
  · intro character isHead
    rw [List.head?_append_of_ne_nil _ spelling.address_ne_nil] at isHead
    exact spelling.address_head character isHead
  · intro character isLast
    rcases Nat.eq_zero_or_pos spelling.slashes with none | some
    · rw [none, List.replicate_zero, List.append_nil, address_getLast?] at isLast
      exact spelling.closed none character isLast
    · rw [List.getLast?_append, List.getLast?_replicate, if_neg some.ne'] at isLast
      obtain rfl := Option.some.inj isLast
      decide

theorem stored {rules : UrlRules} {issuer : String}
    (accepted : validateIssuer rules spelling.text = .ok issuer) :
    issuer = String.ofList spelling.address := by
  simp only [validateIssuer, bind_eq_ok, raiseIf_eq_ok, pure_eq_ok] at accepted
  obtain ⟨_, -, _, -, _, -, rfl⟩ := accepted
  have slashes : ∀ character ∈ List.replicate spelling.slashes '/',
      decide (character = '/') = true := fun character member =>
    decide_eq_true (List.eq_of_mem_replicate member)
  have ends : spelling.address.rdropWhile (· = '/') = spelling.address := by
    rw [List.rdropWhile_eq_self_iff]
    intro nonempty
    simpa using spelling.address_trimmed _ (List.getLast?_eq_some_getLast nonempty)
  rw [strip_text, rstripSlashes, String.toList_ofList, List.rdropWhile, List.reverse_append,
    List.reverse_replicate, List.dropWhile_append_of_pos slashes]
  exact congrArg String.ofList ends

/-- Accepted spellings of one origin and path are stored alike when they have the same case. -/
theorem stored_eq_iff (other : IssuerSpelling) {rules : UrlRules} {issuer otherIssuer : String}
    (same : spelling.Same other) (accepted : validateIssuer rules spelling.text = .ok issuer)
    (otherAccepted : validateIssuer rules other.text = .ok otherIssuer) :
    issuer = otherIssuer ↔ spelling.SameCase other := by
  obtain ⟨host, path⟩ := same
  rw [spelling.stored accepted, other.stored otherAccepted, String.ofList_inj, address,
    address, path, SameCase]
  have schemes : spelling.scheme.length = other.scheme.length := by
    have lower := congrArg List.length (spelling.https.trans other.https.symm)
    simpa using lower
  have hosts : spelling.host.length = other.host.length := by
    simpa using congrArg List.length host
  constructor
  · intro equal
    obtain ⟨front, back⟩ := List.append_inj equal (by simp [schemes])
    exact ⟨(List.append_inj front schemes).1, (List.append_inj back hosts).1⟩
  · rintro ⟨scheme, isHost⟩
    rw [scheme, isHost]

end IssuerSpelling

end VoodooOne
