import VoodooOne.Foundation.Checks

/-!
# Raised exceptions

Which exceptions a body can raise, put together from the exceptions of its parts.
-/

namespace VoodooOne

def Raises {α : Type} (allowed : Raised → Prop) (body : Except Raised α) : Prop :=
  ∀ error, body = .error error → allowed error

section Bodies

variable {α β : Type} {allowed : Raised → Prop}

theorem raises_ok (value : α) : Raises allowed (.ok value) := fun _ raised => nomatch raised

theorem raises_pure (value : α) : Raises allowed (pure value) := raises_ok value

theorem raises_error {error : Raised} (own : allowed error) :
    Raises allowed (.error error : Except Raised α) := by
  rintro _ ⟨⟩
  exact own

theorem Raises.bind {first : Except Raised α} {next : α → Except Raised β}
    (raises : Raises allowed first) (later : ∀ value, Raises allowed (next value)) :
    Raises allowed (first >>= next) := by
  cases first with
  | ok value => exact later value
  | error error => exact raises_error (raises error rfl)

theorem raises_raiseIf {condition : Prop} [Decidable condition] {error : Raised}
    (own : allowed error) : Raises allowed (raiseIf condition error) := by
  unfold raiseIf
  split
  · exact raises_error own
  · exact raises_ok ()

theorem raises_orRaise {error : Raised} (own : allowed error) (found : Option α) :
    Raises allowed (orRaise error found) := by
  cases found with
  | some value => exact raises_ok value
  | none => exact raises_error own

theorem Raises.catching {classes : List ExceptionClass} {replacement : Raised}
    {body : Except Raised α} (raises : Raises allowed body) (own : allowed replacement) :
    Raises allowed (catching classes replacement body) := by
  cases body with
  | ok value => exact raises_ok value
  | error error =>
      unfold VoodooOne.catching
      split
      · next found => cases found
      · next error' found =>
        cases found
        split
        · exact raises_error own
        · exact raises_error (raises error rfl)

theorem raises_forEach {body : α → Except Raised Unit} {items : List α}
    (each : ∀ item, Raises allowed (body item)) : Raises allowed (forEach body items) := by
  induction items with
  | nil => exact raises_ok ()
  | cons item items induction => exact (each item).bind fun _ => induction

end Bodies

section Checks

variable {allowed : Raised → Prop} (values : ∀ message, allowed (valueError message))
include values

theorem raises_requireText (value : Json) (field : String) :
    Raises allowed (requireText value field) := by
  unfold requireText
  split
  · split
    · exact raises_ok _
    · exact raises_error (values _)
  · exact raises_error (values _)

theorem raises_requireDigest (value : Json) (field : String) :
    Raises allowed (requireDigest value field) :=
  (raises_requireText values value field).bind fun _ =>
    (raises_raiseIf (values _)).bind fun _ => raises_pure _

theorem raises_requireTimestamp (value : Json) (field : String) :
    Raises allowed (requireTimestamp value field) :=
  (raises_requireText values value field).bind fun _ => raises_orRaise (values _) _

theorem raises_requireTextFields (fields : List (String × String)) :
    Raises allowed (requireTextFields fields) :=
  raises_forEach fun _ => (raises_requireText values _ _).bind fun _ => raises_pure ()

theorem raises_requireDigestFields (fields : List (String × String)) :
    Raises allowed (requireDigestFields fields) :=
  raises_forEach fun _ => (raises_requireDigest values _ _).bind fun _ => raises_pure ()

theorem raises_requireExactFields (value : Json) (expected : List String) (contract : String) :
    Raises allowed (requireExactFields value expected contract) :=
  (raises_orRaise (values _) _).bind fun _ => raises_raiseIf (values _)

end Checks

end VoodooOne
