import Mathlib.Data.List.Forall2
import VoodooOne.Foundation.Contract

/-!
# What canonical text determines

A string literal can be read back, whatever follows it.  So two objects with the same keys whose
values differ in texts only have different canonical texts, and two contract objects with one digest
are the same unless their canonical texts are a collision of the digest function.
-/

namespace VoodooOne

def hexValue (character : Char) : Nat := "0123456789abcdef".toList.idxOf character

/-- Read one character of a string literal, up to the closing quote. -/
def readCharacter : List Char → Option (Char × List Char)
  | '\\' :: 'u' :: '0' :: '0' :: high :: low :: rest =>
      some (Char.ofNat (16 * hexValue high + hexValue low), rest)
  | '\\' :: 'n' :: rest => some ('\n', rest)
  | '\\' :: 'r' :: rest => some ('\r', rest)
  | '\\' :: 't' :: rest => some ('\t', rest)
  | '\\' :: 'f' :: rest => some (Char.ofNat 12, rest)
  | '\\' :: 'b' :: rest => some (Char.ofNat 8, rest)
  | '\\' :: character :: rest => some (character, rest)
  | '"' :: _ => none
  | character :: rest => some (character, rest)
  | [] => none

theorem hexValue_hexDigit {value : Nat} (small : value < 16) : hexValue (hexDigit value) =
    value := by
  revert value
  decide

theorem readCharacter_escape (character : Char) (rest : List Char) :
    readCharacter (escapeCharacter character ++ rest) = some (character, rest) := by
  have ofCode (code : Nat) (same : character.toNat = code) : Char.ofNat code = character := by
    rw [← same, Char.ofNat_toNat]
  unfold escapeCharacter
  split
  · next same => subst same; rfl
  split
  · next same => subst same; rfl
  split
  · next same => subst same; rfl
  split
  · next same => subst same; rfl
  split
  · next same => subst same; rfl
  split
  · next code => rw [← ofCode 12 code]; rfl
  split
  · next code => rw [← ofCode 8 code]; rfl
  split
  · next small =>
    have high : hexValue (hexDigit (character.toNat / 16)) = character.toNat / 16 :=
      hexValue_hexDigit (by omega)
    have low : hexValue (hexDigit (character.toNat % 16)) = character.toNat % 16 :=
      hexValue_hexDigit (by omega)
    simp only [List.cons_append, List.nil_append, readCharacter, high, low]
    rw [ofCode _ (by omega)]
  · next notQuote notSlash _ _ _ _ _ _ =>
    rw [List.singleton_append, readCharacter]
    all_goals intros; simp_all

/-- The characters of a string literal end where they are quoted to end. -/
theorem escaped_append_inj {left right : List Char} {leftRest rightRest : List Char}
    (same : left.flatMap escapeCharacter ++ '"' :: leftRest =
      right.flatMap escapeCharacter ++ '"' :: rightRest) : left = right ∧ leftRest = rightRest := by
  have closed (rest : List Char) : readCharacter ('"' :: rest) = none := rfl
  induction left generalizing right with
  | nil =>
      cases right with
      | nil => simpa using same
      | cons head tail =>
          have read := congrArg readCharacter same
          simp [closed, readCharacter_escape, List.append_assoc] at read
  | cons leftHead leftTail induction =>
      cases right with
      | nil =>
          have read := congrArg readCharacter same
          simp [closed, readCharacter_escape, List.append_assoc] at read
      | cons rightHead rightTail =>
          have read := congrArg readCharacter same
          simp only [List.flatMap_cons, List.append_assoc, readCharacter_escape, Option.some.injEq,
            Prod.mk.injEq] at read
          obtain ⟨heads, tails⟩ := read
          obtain ⟨tailsSame, restsSame⟩ := induction tails
          exact ⟨by rw [heads, tailsSame], restsSame⟩

theorem quote_append_inj {left right : String} {leftRest rightRest : List Char}
    (same : quote left ++ leftRest = quote right ++ rightRest) :
    left = right ∧ leftRest = rightRest := by
  simp only [quote, List.cons_append, List.append_assoc, List.nil_append, List.cons.injEq,
    true_and] at same
  obtain ⟨characters, rests⟩ := escaped_append_inj same
  exact ⟨String.toList_inj.mp characters, rests⟩

theorem forall₂_insertionSort {α β : Type} {related : α → β → Prop} {before : α → α → Prop}
    {before' : β → β → Prop} [DecidableRel before] [DecidableRel before']
    (alike : ∀ {a b a' b'}, related a a' → related b b' → (before a b ↔ before' a' b'))
    {left : List α} {right : List β} (pairs : List.Forall₂ related left right) :
    List.Forall₂ related (left.insertionSort before) (right.insertionSort before') := by
  have insert {a : α} {a' : β} (first : related a a') {left : List α} {right : List β}
      (pairs : List.Forall₂ related left right) : List.Forall₂ related
        (left.orderedInsert before a) (right.orderedInsert before' a') := by
    induction pairs with
    | nil => exact .cons first .nil
    | @cons head head' _ _ pair pairs induction =>
        rw [List.orderedInsert_cons, List.orderedInsert_cons]
        by_cases less : before a head
        · rw [if_pos less, if_pos ((alike first pair).mp less)]
          exact .cons first (.cons pair pairs)
        · rw [if_neg less, if_neg (mt (alike first pair).mpr less)]
          exact .cons pair induction
  induction pairs with
  | nil => exact .nil
  | cons pair pairs induction =>
      rw [List.insertionSort_cons, List.insertionSort_cons]
      exact insert pair induction

/-- Two fields with one key whose values are the same or both texts. -/
def AlikeField (left right : String × Json) : Prop :=
  left.1 = right.1 ∧ (left.2 = right.2 ∨ ∃ l r, left.2 = .str l ∧ right.2 = .str r)

/-- Two rendered fields with one key whose values are the same or both string literals. -/
def AlikeText (left right : String × List Char) : Prop :=
  left.1 = right.1 ∧ (left.2 = right.2 ∨ ∃ l r, left.2 = quote l ∧ right.2 = quote r)

theorem renderFields_eq_map (fields : List (String × Json)) :
    renderFields fields = fields.map fun field => (field.1, render field.2) := by
  induction fields with
  | nil => rfl
  | cons field fields induction => rw [renderFields, induction, List.map_cons]

theorem AlikeField.render {left right : String × Json} (alike : AlikeField left right) :
    AlikeText (left.1, render left.2) (right.1, render right.2) := by
  obtain ⟨key, same | ⟨l, r, isLeft, isRight⟩⟩ := alike
  · exact ⟨key, .inl (by rw [same])⟩
  · exact ⟨key, .inr ⟨l, r, by rw [isLeft, VoodooOne.render], by rw [isRight, VoodooOne.render]⟩⟩

theorem AlikeField.eq_of_render {left right : String × Json} (alike : AlikeField left right)
    (same : VoodooOne.render left.2 = VoodooOne.render right.2) : left = right := by
  obtain ⟨key, values | ⟨l, r, isLeft, isRight⟩⟩ := alike
  · exact Prod.ext key values
  · rw [isLeft, isRight, VoodooOne.render, VoodooOne.render] at same
    obtain ⟨rfl, -⟩ := quote_append_inj (congrArg (· ++ []) same)
    exact Prod.ext key (isLeft.trans isRight.symm)

theorem joined_inj {left right : List (String × List Char)} {rest : List Char}
    (pairs : List.Forall₂ AlikeText left right)
    (same : List.intercalate [','] (left.map fun field => quote field.1 ++ ':' :: field.2) ++ rest =
      List.intercalate [','] (right.map fun field => quote field.1 ++ ':' :: field.2) ++ rest) :
    left = right := by
  have first {l r : String × List Char} {leftRest rightRest : List Char} (pair : AlikeText l r)
      (texts : quote l.1 ++ ':' :: l.2 ++ leftRest = quote r.1 ++ ':' :: r.2 ++ rightRest) :
      l = r ∧ leftRest = rightRest := by
    rw [List.append_assoc, List.append_assoc] at texts
    obtain ⟨key, values⟩ := quote_append_inj texts
    rw [List.cons_append, List.cons_append, List.cons.injEq] at values
    obtain ⟨-, equal | ⟨lText, rText, isLeft, isRight⟩⟩ := pair
    · have rests := values.2
      rw [equal] at rests
      exact ⟨Prod.ext key equal, List.append_cancel_left rests⟩
    · have rests := values.2
      rw [isLeft, isRight] at rests
      obtain ⟨rfl, later⟩ := quote_append_inj rests
      exact ⟨Prod.ext key (isLeft.trans isRight.symm), later⟩
  induction pairs with
  | nil => rfl
  | cons pair pairs induction =>
      cases pairs with
      | nil =>
          simp only [List.map_cons, List.map_nil, List.intercalate_singleton] at same
          obtain ⟨rfl, -⟩ := first pair same
          rfl
      | cons second later =>
          simp only [List.map_cons, List.intercalate_cons_cons] at same
          simp only [List.append_assoc] at same
          obtain ⟨rfl, rests⟩ := first pair (by simpa only [List.append_assoc] using same)
          rw [induction (by simpa using rests)]

instance : Std.Total Json.keyLe := ⟨fun left right => le_total left.1 right.1⟩

instance : IsTrans (String × Json) Json.keyLe := ⟨fun _ _ _ first second => le_trans first second⟩

theorem render_object (fields : List (String × Json)) : render (.object fields) =
    '\x7b' :: (List.intercalate [','] (((fields.insertionSort Json.keyLe).map fun field =>
      (field.1, render field.2)).map fun field => quote field.1 ++ ':' :: field.2) ++
        ['\x7d']) := by
  have sorted : (fields.insertionSort Json.keyLe).Pairwise Json.keyLe :=
    List.pairwise_insertionSort Json.keyLe fields
  have again := List.map_insertionSort Json.keyLe
    (fun left right : String × List Char => left.1 ≤ right.1)
    (fun field => (field.1, render field.2)) (fields.insertionSort Json.keyLe)
    fun _ _ _ _ => Iff.rfl
  rw [sorted.insertionSort_eq] at again
  rw [Json.object, render, renderFields_eq_map, ← again]

theorem canonicalJson_object_inj {left right : List (String × Json)}
    (pairs : List.Forall₂ AlikeField left right)
    (same : canonicalJson (.object left) = canonicalJson (.object right)) :
    Json.object left = Json.object right := by
  have sorted : List.Forall₂ AlikeField (left.insertionSort Json.keyLe)
      (right.insertionSort Json.keyLe) :=
    forall₂_insertionSort (fun one two => by rw [Json.keyLe, Json.keyLe, one.1, two.1]) pairs
  have texts : render (.object left) = render (.object right) := String.ofList_inj.mp same
  rw [render_object, render_object, List.cons.injEq] at texts
  have rendered := joined_inj (List.forall₂_map_left_iff.mpr (List.forall₂_map_right_iff.mpr
    (sorted.imp fun _ _ pair => pair.render))) texts.2
  have equal : left.insertionSort Json.keyLe = right.insertionSort Json.keyLe := by
    generalize left.insertionSort Json.keyLe = lefts at sorted rendered
    generalize right.insertionSort Json.keyLe = rights at sorted rendered
    induction sorted with
    | nil => rfl
    | cons pair pairs induction =>
        rw [List.map_cons, List.map_cons, List.cons.injEq, Prod.mk.injEq] at rendered
        obtain ⟨⟨-, values⟩, rest⟩ := rendered
        rw [pair.eq_of_render values, induction rest]
  rw [Json.object, Json.object, equal]

/-- Two different texts with one digest. -/
def Collision (sha256 : String → String) (left right : String) : Prop :=
  left ≠ right ∧ sha256 left = sha256 right

namespace Contract

variable {α : Type} {contract : Contract α} {sha256 : String → String} {left right : α}

/-- The canonical text under the digest of an object. -/
def digestText (contract : Contract α) (value : α) : String :=
  canonicalJson (contract.claimsWithoutDigest value)

/-- Objects whose claims pair up alike are the same when their digests and texts are. -/
theorem eq_of_digestText (lawful : contract.Lawful)
    (alike : List.Forall₂ AlikeField (contract.claims left) (contract.claims right))
    (digests : contract.digest left = contract.digest right)
    (texts : contract.digestText left = contract.digestText right) : left = right := by
  have pairs : List.Forall₂ AlikeField (contract.claimFields left) (contract.claimFields right) :=
    .cons ⟨rfl, .inl rfl⟩ (.cons ⟨rfl, .inl rfl⟩ alike)
  have objects : Json.object (contract.claimFields left) = .object (contract.claimFields right) :=
    canonicalJson_object_inj pairs texts
  -- the attributes that both objects are read from
  let self : Attributes := fun field =>
    if field = contract.digestField then .str (contract.digest left)
    else (Json.object (contract.claimFields left)).get field
  have reads (value : α)
      (same : Json.object (contract.claimFields left) = .object (contract.claimFields value))
      (digest : contract.digest left = contract.digest value) :
      contract.ofAttributes self = value := by
    have names := fieldsWith_names lawful value (contract.digest value)
    rw [fieldsWith, List.map_append] at names
    have distinct := names ▸ lawful.distinct
    rw [List.nodup_append] at distinct
    obtain ⟨claimNames, -, apart⟩ := distinct
    rw [lawful.ofAttributes_eq self value (contract.digest value), lawful.withDigest_digest]
    intro entry member
    rcases List.mem_append.mp member with claim | last
    · have stored : entry ∈ contract.claimFields value :=
        List.mem_cons_of_mem _ (List.mem_cons_of_mem _ claim)
      have other : entry.1 ≠ contract.digestField :=
        apart _ (List.mem_map_of_mem stored) _ (List.mem_singleton_self _)
      simp only [self, if_neg other, same]
      exact Json.get_object_of_mem claimNames stored
    · obtain rfl := List.mem_singleton.mp last
      simp only [self, if_true, digest]
  exact (reads left rfl rfl).symm.trans (reads right objects digests)

/-- Two built objects that differ have different digests, or their texts are a collision. -/
theorem digest_ne_or_collision (lawful : contract.Lawful)
    (alike : List.Forall₂ AlikeField (contract.claims left) (contract.claims right))
    (leftBuilt : contract.Built sha256 left) (rightBuilt : contract.Built sha256 right)
    (different : left ≠ right) : contract.digest left ≠ contract.digest right ∨
      Collision sha256 (contract.digestText left) (contract.digestText right) := by
  obtain ⟨_, leftConstructed⟩ := leftBuilt
  obtain ⟨_, rightConstructed⟩ := rightBuilt
  obtain ⟨-, -, -, leftDigest⟩ := construct_eq_ok.mp leftConstructed
  obtain ⟨-, -, -, rightDigest⟩ := construct_eq_ok.mp rightConstructed
  by_cases digests : contract.digest left = contract.digest right
  · right
    refine ⟨fun texts => different (eq_of_digestText lawful alike digests texts), ?_⟩
    exact leftDigest.symm.trans (digests.trans rightDigest)
  · exact .inl digests

end Contract

end VoodooOne
