import Mathlib.Data.List.Induction
import Mathlib.Data.List.Nodup

/-!
# Hash chains

Every record of a chain names the hash of the record before it and carries the hash of that name
and of its own content.  The hash after the last record then commits to the whole chain, and no
single record can be changed or moved unnoticed.  That the hash function is injective is nowhere
assumed: where it is needed, the two records on which it fails are named instead.
-/

namespace HashChain

variable {δ κ : Type*}

/-- A record: the hash that it names, its content and its own hash. -/
structure Link (δ κ : Type*) where
  previous : δ
  content : κ
  own : δ

/-- The hash after the last record. -/
def head (start : δ) : List (Link δ κ) → δ
  | [] => start
  | link :: links => head link.own links

/-- Every record names the hash before it and carries the hash of that name and of its content. -/
def Valid (hash : δ → κ → δ) (start : δ) : List (Link δ κ) → Prop
  | [] => True
  | link :: links =>
      link.previous = start ∧ link.own = hash start link.content ∧ Valid hash link.own links

/-- Two records that name or hold something different have one hash. -/
def Clash (hash : δ → κ → δ) (left right : Link δ κ) : Prop :=
  ¬(left.previous = right.previous ∧ left.content = right.content) ∧
    hash left.previous left.content = hash right.previous right.content

/-- A record of one chain clashes with a record of another. -/
def Clashes (hash : δ → κ → δ) (lefts rights : List (Link δ κ)) : Prop :=
  ∃ left ∈ lefts, ∃ right ∈ rights, Clash hash left right

variable {hash : δ → κ → δ} {start : δ}

theorem head_append (start : δ) (front back : List (Link δ κ)) :
    head start (front ++ back) = head (head start front) back := by
  induction front generalizing start with
  | nil => rfl
  | cons link front induction => exact induction link.own

theorem head_concat (start : δ) (front : List (Link δ κ)) (last : Link δ κ) :
    head start (front ++ [last]) = last.own := head_append start front [last]

theorem valid_append (front back : List (Link δ κ)) : Valid hash start (front ++ back) ↔
    Valid hash start front ∧ Valid hash (head start front) back := by
  induction front generalizing start with
  | nil => simp [Valid, head]
  | cons link front induction => simp [Valid, head, induction, and_assoc]

theorem valid_concat (front : List (Link δ κ)) (last : Link δ κ) :
    Valid hash start (front ++ [last]) ↔ Valid hash start front ∧
      last.previous = head start front ∧ last.own = hash (head start front) last.content := by
  simp [valid_append, Valid]

theorem Valid.previous_mem {links : List (Link δ κ)} (valid : Valid hash start links) :
    ∀ link ∈ links, link.previous ∈ start :: links.map (·.own) := by
  induction links generalizing start with
  | nil => exact List.forall_mem_nil _
  | cons first links induction =>
      obtain ⟨names, -, later⟩ := valid
      rw [List.forall_mem_cons, names]
      refine ⟨List.mem_cons_self, fun link member => List.mem_cons_of_mem _ ?_⟩
      exact induction later link member

theorem Valid.own_eq {links : List (Link δ κ)} (valid : Valid hash start links) :
    ∀ link ∈ links, ∃ digest, link.own = hash digest link.content := by
  induction links generalizing start with
  | nil => exact List.forall_mem_nil _
  | cons first links induction =>
      obtain ⟨-, own, later⟩ := valid
      exact List.forall_mem_cons.mpr ⟨⟨_, own⟩, induction later⟩

/-- Chains with one start and one last hash are the same, unless two of their records clash. -/
theorem eq_or_clashes (fresh : ∀ digest content, hash digest content ≠ start)
    {left right : List (Link δ κ)} (leftValid : Valid hash start left)
    (rightValid : Valid hash start right) (heads : head start left = head start right) :
    left = right ∨ Clashes hash left right := by
  induction left using List.reverseRecOn generalizing right with
  | nil =>
      rcases List.eq_nil_or_concat right with rfl | ⟨front, last, rfl⟩
      · exact .inl rfl
      · rw [List.concat_eq_append, valid_concat] at rightValid
        rw [List.concat_eq_append, head_concat, rightValid.2.2] at heads
        exact absurd heads.symm (fresh _ _)
  | append_singleton leftFront leftLast induction =>
      rw [valid_concat] at leftValid
      obtain ⟨leftBefore, leftNames, leftHash⟩ := leftValid
      rcases List.eq_nil_or_concat right with rfl | ⟨rightFront, rightLast, rfl⟩
      · rw [head_concat, leftHash] at heads
        exact absurd heads (fresh _ _)
      · rw [List.concat_eq_append] at heads rightValid ⊢
        rw [valid_concat] at rightValid
        obtain ⟨rightBefore, rightNames, rightHash⟩ := rightValid
        rw [head_concat, head_concat] at heads
        by_cases same : leftLast.previous = rightLast.previous ∧ leftLast.content =
          rightLast.content
        · have earlier := induction leftBefore rightBefore
            (leftNames.symm.trans (same.1.trans rightNames))
          rcases earlier with rfl | ⟨one, oneMember, two, twoMember, clash⟩
          · have lasts : leftLast = rightLast := by
              cases leftLast
              cases rightLast
              simp_all
            exact .inl (by rw [lasts])
          · exact .inr ⟨one, List.mem_append_left _ oneMember, two,
              List.mem_append_left _ twoMember, clash⟩
        · refine .inr ⟨leftLast, by simp, rightLast, by simp, same, ?_⟩
          rw [leftNames, rightNames, ← leftHash, ← rightHash, heads]

/-- Another record fits in the place of one exactly when it names the same hash and carries its
own, and when that hash is the one that the next record names. -/
theorem valid_replaced {front back : List (Link δ κ)} {link : Link δ κ} (other : Link δ κ)
    (valid : Valid hash start (front ++ link :: back)) :
    Valid hash start (front ++ other :: back) ↔ other.previous = link.previous ∧
      other.own = hash link.previous other.content ∧ (other.own = link.own ∨ back = []) := by
  rw [valid_append] at valid ⊢
  obtain ⟨before, names, own, after⟩ := valid
  simp only [before, Valid, true_and, names]
  refine and_congr_right fun _ => and_congr_right fun _ => ?_
  cases back with
  | nil => simp [Valid]
  | cons next back =>
      simp only [Valid, reduceCtorEq, or_false] at after ⊢
      constructor
      · rintro ⟨sameName, -⟩
        exact sameName.symm.trans after.1
      · intro same
        rw [same]
        exact after

/-- No record of a chain can take another place, as the hash that it names has only one. -/
theorem eq_of_perm {left right : List (Link δ κ)} (perm : left.Perm right)
    (distinct : (start :: left.map (·.own)).Nodup) (leftValid : Valid hash start left)
    (rightValid : Valid hash start right) : left = right := by
  induction left generalizing start right with
  | nil => exact (List.nil_perm.mp perm).symm
  | cons link left induction =>
      cases right with
      | nil => exact absurd perm.symm (by simp)
      | cons other right =>
          obtain ⟨-, -, leftLater⟩ := leftValid
          obtain ⟨otherNames, -, rightLater⟩ := rightValid
          rw [List.map_cons, List.nodup_cons] at distinct
          rcases List.mem_cons.mp (perm.mem_iff.mpr List.mem_cons_self) with rfl | moved
          · rw [induction (List.perm_cons _ |>.mp perm) distinct.2 leftLater rightLater]
          · have named := leftLater.previous_mem other moved
            rw [otherNames] at named
            exact absurd named distinct.1

end HashChain
