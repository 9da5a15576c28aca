import VoodooOne.Sandbox.Replacement

/-!
# Endings of a write

Below an open sandbox root a write ends in one of five ways, and each of them has its condition on
the tree and on the call that fails.
-/

namespace VoodooOne.Sandbox

variable {surroundings : Surroundings} {progress : Progress} {parent : Path} {name : Text}
  {temporary : FileName} {content : List UInt8}

theorem closeAll_of_works {count : Nat}
    (works : ∀ depth < count, surroundings.fault ≠ some (.close depth)) :
    (closeAll surroundings count).run progress = (.ok (), progress) := by
  induction count with
  | zero => rfl
  | succ count induction =>
      rw [closeAll, Process.bind_of_ok (touch_of_works (works count (Nat.lt_succ_self _)))]
      exact induction fun depth below => works depth (Nat.lt_succ_of_lt below)

theorem closeAll_of_fault {count depth : Nat} (below : depth < count)
    (fault : surroundings.fault = some (.close depth)) :
    (closeAll surroundings count).run progress = (.error faultError, progress) := by
  induction count with
  | zero => cases below
  | succ count induction =>
      by_cases last : depth = count
      · subst last
        rw [closeAll, Process.bind_of_error (touch_fault fault)]
      · have works : surroundings.fault ≠ some (.close count) := by
          rw [fault]
          simpa using last
        rw [closeAll, Process.bind_of_ok (touch_of_works works)]
        exact induction (by omega)

/-- Something has the name of the temporary file that its removal takes away. -/
def Taken (surroundings : Surroundings) (tree : Tree) (parent : Path) (temporary : FileName) :
    Prop :=
  surroundings.accepts temporary = true ∧
    ∃ entry, tree.entry (parent ++ [temporary]) = some entry ∧ entry ≠ .directory

theorem unlink_of_taken {tree : Tree} {text : Text} (encodes : fsencode text = some temporary)
    (taken : Taken surroundings tree parent temporary) :
    unlink surroundings parent text tree = .ok (tree.remove (parent ++ [temporary])) := by
  obtain ⟨accepted, entry, here, other⟩ := taken
  rw [unlink, locateBelow_of_accepted encodes accepted, ok_bind, here,
    raiseIf_of_not (Option.some_ne_none _), ok_bind, raiseIf_of_not (by simpa using other)]
  rfl

/-- Only an error of the operating system keeps something from being removed. -/
theorem unlink_of_not_taken {tree : Tree} {text : Text} (encodes : fsencode text = some temporary)
    (free : ¬Taken surroundings tree parent temporary) :
    ∃ error, unlink surroundings parent text tree = .error error ∧ error.cls.isA .osError := by
  by_cases accepted : surroundings.accepts temporary = true
  · rw [unlink, locateBelow_of_accepted encodes accepted, ok_bind]
    cases here : tree.entry (parent ++ [temporary]) with
    | none => exact ⟨fileNotFound, rfl, rfl⟩
    | some entry =>
        have directory : entry = .directory := by
          by_contra other
          exact free ⟨accepted, entry, here, other⟩
        subst directory
        exact ⟨osError "Is a directory", rfl, rfl⟩
  · refine ⟨osError "File name too long", ?_, rfl⟩
    rw [unlink, ofComponent_of_encodes encodes, locateBelow, orRaise, ok_bind, raiseIf,
      if_pos (Bool.not_eq_true _ ▸ accepted)]
    rfl

theorem removeTemporary_of_none (absent : progress.temporaryName = none) :
    (removeTemporary surroundings progress).run progress = (.ok (), progress) := by
  rw [removeTemporary, absent]
  rfl

section Removal

variable {text : Text} (named : progress.temporaryName = some text)
  (last : progress.openFds.getLast? = some parent) (encodes : fsencode text = some temporary)
include named last

theorem removeTemporary_eq : removeTemporary surroundings progress =
    (perform surroundings .removeTemporary (unlink surroundings parent text)).handle fun error =>
      if error.cls.isA .osError then pure () else Process.raise error := by
  rw [removeTemporary, named, last]

include encodes

theorem removeTemporary_of_taken (taken : Taken surroundings progress.tree parent temporary)
    (works : surroundings.fault ≠ some .removeTemporary) :
    (removeTemporary surroundings progress).run progress =
      (.ok (), { progress with tree := progress.tree.remove (parent ++ [temporary]) }) := by
  rw [removeTemporary_eq named last,
    Process.handle_of_ok (perform_of_ok works (unlink_of_taken encodes taken))]

theorem removeTemporary_of_not (kept : ¬(Taken surroundings progress.tree parent temporary ∧
      surroundings.fault ≠ some .removeTemporary)) :
    (removeTemporary surroundings progress).run progress = (.ok (), progress) := by
  rw [removeTemporary_eq named last]
  by_cases fault : surroundings.fault = some .removeTemporary
  · rw [Process.handle_of_error (perform_fault fault _)]
    rfl
  · obtain ⟨error, raised, system⟩ :=
      unlink_of_not_taken encodes fun taken => kept ⟨taken, fault⟩
    rw [Process.handle_of_error (perform_of_error fault raised), if_pos system]
    rfl

end Removal

section Errors

variable {depth : Nat}

theorem raises_touch {call : SystemCall} : (touch surroundings call).Raises SystemError :=
  raises_observe fun _ => .ok ()

theorem raises_ensureAndOpenDirectory (argument : Option PathArgument) :
    (ensureAndOpenDirectory surroundings depth parent argument).Raises WriteError := by
  have made : (makeIfMissing surroundings depth parent argument).Raises WriteError := by
    refine (raises_perform (raises_makeBelow parent argument)).handle fun error system => ?_
    split
    · exact .pure ()
    · exact .raise (.inl system)
  rw [ensureAndOpenDirectory_eq]
  exact made.bind fun _ => raises_openVerifiedDirectory (raises_locateBelow parent argument)

theorem raises_descend (arguments : List (Option PathArgument)) :
    (descend surroundings depth parent arguments).Raises WriteError := by
  induction arguments generalizing depth parent with
  | nil => exact .pure _
  | cons argument arguments induction =>
      rw [descend]
      exact (raises_ensureAndOpenDirectory argument).bind fun next =>
        (Process.Raises.change _).bind fun _ => induction

theorem raises_rejectUnsafeDestination :
    (rejectUnsafeDestination surroundings parent (PathArgument.ofComponent name)).Raises
      WriteError := by
  have looked : ∀ tree, Raises SystemError (lstat (locateBelow surroundings parent
      (PathArgument.ofComponent name)) tree) :=
    raises_lstat (raises_locateBelow parent (PathArgument.ofComponent name))
  have found : (destinationOf surroundings parent name).Raises WriteError := by
    refine ((raises_observe looked).bind fun _ => .pure _).handle fun error system => ?_
    split
    · exact .pure _
    · exact .raise (.inl system)
  rw [rejectUnsafeDestination_eq]
  exact found.bind fun _ => .lift (Raises.raiseIf (.inr rfl))

theorem raises_writeFile (path : Path) : (writeFile surroundings path content).Raises
    SystemError := by
  rw [writeFile]
  split
  · exact (Process.Raises.change _).bind fun _ => .raise (systemError_osError _)
  · exact .change _

theorem raises_writeArtifact :
    (writeArtifact surroundings parent name content).Raises WriteError := by
  have temporary (text : Text) :
      (writeTemporary surroundings parent text content).Raises SystemError :=
    (raises_systemCall (raises_createFile parent text)).bind fun path => raises_touch.bind fun _ =>
      (raises_writeFile path).bind fun _ => raises_touch.bind fun _ => raises_touch
  have replaced : (perform surroundings .replace (replaceFile surroundings parent
      (temporaryText surroundings name) name)).Raises SystemError :=
    raises_perform (raises_replaceFile parent (temporaryText surroundings name) name)
  refine raises_rejectUnsafeDestination.bind fun _ => (Process.Raises.change _).bind fun _ => ?_
  refine ((temporary _).mono fun _ => .inl).bind fun _ =>
    (replaced.mono fun _ => .inl).bind fun _ => ?_
  exact (Process.Raises.change _).bind fun _ => raises_touch.mono fun _ => .inl

theorem raises_closing {α : Type} {body : Write α} (raises : body.Raises WriteError) :
    (closing body).Raises IsAdapterError := by
  refine raises.handle fun error allowed => .raise ?_
  split
  · exact rfl
  · next other =>
    rcases allowed with system | adapter
    · exact absurd (by simpa [SystemError] using system) other
    · exact adapter

end Errors

theorem cleanUp_run {removed : Progress}
    (cleans : (removeTemporary surroundings progress).run progress = (.ok (), removed)) :
    (cleanUp surroundings).run progress =
      (closeAll surroundings progress.openFds.length).run removed := by
  rw [cleanUp, Process.bind_of_ok rfl, Process.bind_of_ok cleans]

theorem ended_of_body {body : Write Unit} {middle removed : Progress} {result : Except Raised Unit}
    (raises : body.Raises WriteError) (ran : body.run progress = (result, middle))
    (cleans : (removeTemporary surroundings middle).run middle = (.ok (), removed)) :
    (∃ depth < middle.openFds.length, surroundings.fault = some (.close depth)) ∧
        (Process.ensure (closing body) (cleanUp surroundings)).run progress =
          (.error faultError, removed) ∨
      (∀ depth < middle.openFds.length, surroundings.fault ≠ some (.close depth)) ∧
        ((∃ error, IsAdapterError error ∧ result ≠ .ok () ∧
          (Process.ensure (closing body) (cleanUp surroundings)).run progress =
            (.error error, removed)) ∨
        result = .ok () ∧ (Process.ensure (closing body) (cleanUp surroundings)).run progress =
          (.ok (), removed)) := by
  have closed : ∃ outcome, (closing body).run progress = (outcome, middle) ∧
      (result = .ok () ∧ outcome = .ok () ∨
        ∃ error, IsAdapterError error ∧ result ≠ .ok () ∧ outcome = .error error) := by
    cases result with
    | ok value => exact ⟨.ok (), Process.handle_of_ok ran _, .inl ⟨rfl, rfl⟩⟩
    | error error =>
        have adapter := raises_closing raises progress
        rw [closing, Process.handle_of_error ran] at adapter ⊢
        exact ⟨_, rfl, .inr ⟨_, adapter _ rfl, by simp, rfl⟩⟩
  obtain ⟨outcome, closed, kinds⟩ := closed
  by_cases fails : ∃ depth < middle.openFds.length, surroundings.fault = some (.close depth)
  · obtain ⟨depth, below, fault⟩ := fails
    refine .inl ⟨⟨depth, below, fault⟩, ?_⟩
    simp only [Process.ensure, closed, cleanUp_run cleans, closeAll_of_fault below fault]
  · have works : ∀ depth < middle.openFds.length, surroundings.fault ≠ some (.close depth) :=
      fun depth below fault => fails ⟨depth, below, fault⟩
    have ended : (Process.ensure (closing body) (cleanUp surroundings)).run progress =
        (outcome, removed) := by
      simp only [Process.ensure, closed, cleanUp_run cleans, closeAll_of_works works]
    refine .inr ⟨works, ?_⟩
    rcases kinds with ⟨ok, rfl⟩ | ⟨error, adapter, failed, rfl⟩
    · exact .inr ⟨ok, ended⟩
    · exact .inl ⟨error, adapter, failed, ended⟩

end VoodooOne.Sandbox

namespace VoodooOne.Sandbox

variable {surroundings : Surroundings} {tree : Tree} {root : Path}
  {arguments : List (Option PathArgument)} {name : Text} {content : List UInt8}

/-- The write gets as far as its temporary file. -/
structure Reaches (surroundings : Surroundings) (tree : Tree) (root : Path)
    (arguments : List (Option PathArgument)) (name : Text) (bytes temporary : FileName) : Prop where
  opens : Opens surroundings tree root arguments
  works : ∀ offset < arguments.length, Works surroundings (enterCalls (1 + offset))
  inspects : surroundings.fault ≠ some .inspectDestination
  encodes : fsencode name = some bytes
  encodesTemporary : fsencode (temporaryText surroundings name) = some temporary
  writable : Writable surroundings tree (reached root arguments) bytes

/-- No descriptor that is opened fails to close. -/
def Closes (surroundings : Surroundings) (tree : Tree) (root : Path)
    (arguments : List (Option PathArgument)) : Prop :=
  ∀ depth ≤ arguments.length, Opens surroundings tree root (arguments.take depth) →
    surroundings.fault ≠ some (.close depth)

/-- A file is placed at a path; apart from that only directories on the way are made. -/
structure Places (destination : Path) (content : List UInt8) (made : Path → Prop)
    (tree next : Tree) : Prop where
  file : next.entry destination = some (.file content)
  others : ∀ path, path ≠ destination → next.entry path = tree.entry path ∨
    tree.entry path = none ∧ next.entry path = some .directory ∧ made path

inductive Ended (surroundings : Surroundings) (tree : Tree) (root : Path)
    (arguments : List (Option PathArgument)) (name : Text) (content : List UInt8) :
    Except Raised Unit × Progress → Prop
  | unclosed (error : Raised) (next : Progress) (other : ¬IsAdapterError error)
      (unclosed : ¬Closes surroundings tree root arguments) :
      Ended surroundings tree root arguments name content (.error error, next)
  | traceless (error : Raised) (next : Progress) (adapter : IsAdapterError error)
      (closes : Closes surroundings tree root arguments)
      (kept : ∀ bytes temporary, Reaches surroundings tree root arguments name bytes temporary →
        (Taken surroundings tree (reached root arguments) temporary →
          surroundings.fault = some .removeTemporary) ∧
        (Free surroundings tree (reached root arguments) temporary →
          surroundings.fault ≠ some .syncDirectory))
      (makes : Makes (Between root (reached root arguments)) tree next.tree) :
      Ended surroundings tree root arguments name content (.error error, next)
  | lost (error : Raised) (next : Progress) (bytes temporary : FileName)
      (reaches : Reaches surroundings tree root arguments name bytes temporary)
      (taken : Taken surroundings tree (reached root arguments) temporary)
      (removes : surroundings.fault ≠ some .removeTemporary)
      (gone : next.tree.entry (reached root arguments ++ [temporary]) = none) :
      Ended surroundings tree root arguments name content (.error error, next)
  | unsynced (error : Raised) (next : Progress) (bytes temporary : FileName)
      (adapter : IsAdapterError error)
      (reaches : Reaches surroundings tree root arguments name bytes temporary)
      (free : Free surroundings tree (reached root arguments) temporary)
      (fault : surroundings.fault = some .syncDirectory)
      (places : Places (reached root arguments ++ [bytes]) content
        (Between root (reached root arguments)) tree next.tree) :
      Ended surroundings tree root arguments name content (.error error, next)
  | written (next : Progress) (bytes temporary : FileName)
      (closes : Closes surroundings tree root arguments)
      (reaches : Reaches surroundings tree root arguments name bytes temporary)
      (free : Free surroundings tree (reached root arguments) temporary)
      (syncs : surroundings.fault ≠ some .syncDirectory)
      (places : Places (reached root arguments ++ [bytes]) content
        (Between root (reached root arguments)) tree next.tree) :
      Ended surroundings tree root arguments name content (.ok (), next)

theorem opens_take (opens : Opens surroundings tree root arguments) (count : Nat) :
    Opens surroundings tree root (arguments.take count) := by
  induction arguments generalizing root count with
  | nil => rwa [List.take_nil]
  | cons argument arguments induction =>
      cases count with
      | zero => trivial
      | succ count =>
          obtain ⟨value, given, enterable, opens⟩ := opens
          exact ⟨value, given, enterable, induction opens count⟩

theorem opens_take_of_le {first second : Nat} (within : first ≤ second)
    (opens : Opens surroundings tree root (arguments.take second)) :
    Opens surroundings tree root (arguments.take first) := by
  have shorter := opens_take opens first
  rwa [List.take_take, Nat.min_eq_left within] at shorter

section Count

variable {count : Nat} (opens : Opens surroundings tree root (arguments.take count))
  (within : count ≤ arguments.length)

include opens within in
theorem not_closes_of_fault {depth : Nat} (below : depth < 1 + count)
    (fault : surroundings.fault = some (.close depth)) :
    ¬Closes surroundings tree root arguments := fun closes =>
  closes depth (by omega) (opens_take_of_le (by omega) opens) fault

theorem closes_of_works (blocked : count < arguments.length →
      ¬Opens surroundings tree root (arguments.take (count + 1)) ∨
        ¬Works surroundings (enterCalls (1 + count)))
    (works : ∀ depth < 1 + count, surroundings.fault ≠ some (.close depth)) :
    Closes surroundings tree root arguments := by
  intro depth within opened fault
  by_cases below : depth < 1 + count
  · exact works depth below fault
  · rcases blocked (by omega) with blocked | fails
    · exact blocked (opens_take_of_le (by omega) opened)
    · refine fails fun call member same => ?_
      rw [fault, Option.some.injEq] at same
      simp [enterCalls, openCalls, ← same] at member

end Count

theorem not_isAdapterError_faultError : ¬IsAdapterError faultError :=
  (systemError_osError _).not_adapterError

/-- How a write ends below the root. -/
abbrev ending (surroundings : Surroundings) (body : Write Unit) (progress : Progress) :
    Except Raised Unit × Progress :=
  (Process.ensure (closing body) (cleanUp surroundings)).run progress

theorem ending_cases {body : Write Unit} {progress middle removed : Progress}
    {result : Except Raised Unit} {count : Nat} (raises : body.Raises WriteError)
    (ran : body.run progress = (result, middle))
    (cleans : (removeTemporary surroundings middle).run middle = (.ok (), removed))
    (opened : middle.openFds.length = 1 + count)
    (opens : Opens surroundings tree root (arguments.take count))
    (within : count ≤ arguments.length)
    (blocked : count < arguments.length →
      ¬Opens surroundings tree root (arguments.take (count + 1)) ∨
        ¬Works surroundings (enterCalls (1 + count))) :
    ¬Closes surroundings tree root arguments ∧
        ending surroundings body progress = (.error faultError, removed) ∨
      Closes surroundings tree root arguments ∧ ((∃ error, IsAdapterError error ∧ result ≠ .ok () ∧
          ending surroundings body progress = (.error error, removed)) ∨
        result = .ok () ∧ ending surroundings body progress = (.ok (), removed)) := by
  rcases ended_of_body raises ran cleans with ⟨⟨depth, below, fault⟩, ended⟩ | ⟨works, ended⟩
  · exact .inl ⟨not_closes_of_fault opens within (opened ▸ below) fault, ended⟩
  · exact .inr ⟨closes_of_works blocked fun depth below => works depth (opened ▸ below), ended⟩

/-- A write that raises without a trace, or with a descriptor that is not closed. -/
theorem ended_of_error {body : Write Unit} {progress middle removed : Progress} {raised : Raised}
    {count : Nat} (raises : body.Raises WriteError)
    (ran : body.run progress = (.error raised, middle))
    (cleans : (removeTemporary surroundings middle).run middle = (.ok (), removed))
    (opened : middle.openFds.length = 1 + count)
    (opens : Opens surroundings tree root (arguments.take count))
    (within : count ≤ arguments.length)
    (blocked : count < arguments.length →
      ¬Opens surroundings tree root (arguments.take (count + 1)) ∨
        ¬Works surroundings (enterCalls (1 + count)))
    (kept : ∀ bytes temporary, Reaches surroundings tree root arguments name bytes temporary →
      (Taken surroundings tree (reached root arguments) temporary →
        surroundings.fault = some .removeTemporary) ∧
      (Free surroundings tree (reached root arguments) temporary →
        surroundings.fault ≠ some .syncDirectory))
    (makes : Makes (Between root (reached root arguments)) tree removed.tree) :
    Ended surroundings tree root arguments name content (ending surroundings body progress) := by
  rcases ending_cases raises ran cleans opened opens within blocked with ⟨unclosed, ended⟩ |
    ⟨closes, ⟨error, adapter, -, ended⟩ | ⟨ok, -⟩⟩
  · rw [ended]
    exact .unclosed _ _ not_isAdapterError_faultError unclosed
  · rw [ended]
    exact .traceless error removed adapter closes kept makes
  · cases ok

theorem not_between_below {parent : Path} (file : FileName) :
    ¬Between root parent (parent ++ [file]) := by
  rintro ⟨-, -, below⟩
  have longer := below.length_le
  rw [List.length_append] at longer
  exact absurd longer (Nat.not_succ_le_self _)

theorem Makes.entry_below {next : Tree} {parent : Path}
    (makes : Makes (Between root parent) tree next)
    (file : FileName) : next.entry (parent ++ [file]) = tree.entry (parent ++ [file]) :=
  (makes (parent ++ [file])).resolve_right fun ⟨_, _, between⟩ => not_between_below file between

theorem Places.of_makes {middle next : Tree} {destination : Path} {made : Path → Prop}
    (makes : Makes made tree middle)
    (entries : next.entry = Function.update middle.entry destination (some (.file content))) :
    Places destination content made tree next where
  file := by rw [entries, Function.update_self]
  others path different := by
    rw [entries, Function.update_of_ne different]
    exact makes path

section Arrival

variable {body : Write Unit} {progress next : Progress} (raises : body.Raises WriteError)
  (moved : body.run progress =
    (writeArtifact surroundings (reached root arguments) name content).run next)
  (opens : Opens surroundings tree root arguments)
  (opened : next.openFds.length = 1 + arguments.length)
  (last : next.openFds.getLast? = some (reached root arguments))
  (inside : next.tree.entry (reached root arguments) = some .directory)
  (temporary : next.temporaryName = none)
  (makes : Makes (Between root (reached root arguments)) tree next.tree)

include makes in
theorem writable_congr {bytes : FileName} :
    Writable surroundings next.tree (reached root arguments) bytes ↔
      Writable surroundings tree (reached root arguments) bytes := by
  rw [Writable, Writable, makes.entry_below bytes]

include makes in
theorem free_congr {bytes : FileName} : Free surroundings next.tree (reached root arguments) bytes ↔
    Free surroundings tree (reached root arguments) bytes := by
  rw [Free, Free, makes.entry_below bytes]

include makes in
theorem taken_congr {bytes : FileName} :
    Taken surroundings next.tree (reached root arguments) bytes ↔
      Taken surroundings tree (reached root arguments) bytes := by
  rw [Taken, Taken, makes.entry_below bytes]

include raises moved opens opened temporary makes in
/-- A destination that cannot be written is left alone. -/
theorem ended_of_refused (refused : ¬∃ bytes, fsencode name = some bytes ∧
      Writable surroundings tree (reached root arguments) bytes) :
    Ended surroundings tree root arguments name content (ending surroundings body progress) := by
  obtain ⟨error, raised⟩ : ∃ error, (rejectUnsafeDestination surroundings (reached root arguments)
      (PathArgument.ofComponent name)).run next = (.error error, next) :=
    rejectUnsafeDestination_of_not fun _ bytes encodes writable =>
      refused ⟨bytes, encodes, (writable_congr makes).mp writable⟩
  have ran : body.run progress = (.error error, next) := by
    rw [moved, writeArtifact, Process.bind_of_error raised]
  refine ended_of_error raises ran (removeTemporary_of_none temporary) opened
    (arguments.take_length.symm ▸ opens) le_rfl (fun below => absurd below (lt_irrefl _)) ?_ makes
  intro bytes temporary reaches
  exact absurd ⟨bytes, reaches.encodes, reaches.writable⟩ refused

theorem Reaches.unique {bytes temporary bytes' temporary' : FileName}
    (reaches : Reaches surroundings tree root arguments name bytes temporary)
    (again : Reaches surroundings tree root arguments name bytes' temporary') :
    bytes' = bytes ∧ temporary' = temporary :=
  ⟨Option.some.inj (again.encodes.symm.trans reaches.encodes),
    Option.some.inj (again.encodesTemporary.symm.trans reaches.encodesTemporary)⟩

theorem Taken.not_free {parent : Path} {temporary : FileName}
    (taken : Taken surroundings tree parent temporary) :
    ¬Free surroundings tree parent temporary := by
  rintro ⟨-, missing⟩
  obtain ⟨-, entry, here, -⟩ := taken
  rw [missing] at here
  cases here

section Written

variable {bytes text : FileName}
  (works : ∀ offset < arguments.length, Works surroundings (enterCalls (1 + offset)))
  (encodes : fsencode name = some bytes)
  (encodesTemporary : fsencode (temporaryText surroundings name) = some text)
  (writable : Writable surroundings tree (reached root arguments) bytes)

include raises opens opened last makes works encodes encodesTemporary writable

/-- Something else that has the name of the temporary file is lost. -/
theorem ended_of_uncreated {error : Raised}
    (inspects : surroundings.fault ≠ some .inspectDestination)
    (uncreated : ¬(Free surroundings next.tree (reached root arguments) text ∧
      surroundings.fault ≠ some .createTemporary))
    (ran : body.run progress =
      (.error error, next.setTemporary (some (temporaryText surroundings name)))) :
    Ended surroundings tree root arguments name content (ending surroundings body progress) := by
  have all : Opens surroundings tree root (arguments.take arguments.length) :=
    arguments.take_length.symm ▸ opens
  have none_left (below : arguments.length < arguments.length) :
      ¬Opens surroundings tree root (arguments.take (arguments.length + 1)) ∨
        ¬Works surroundings (enterCalls (1 + arguments.length)) := absurd below (lt_irrefl _)
  have named : (next.setTemporary (some (temporaryText surroundings name))).temporaryName =
    some (temporaryText surroundings name) := rfl
  have reaches : Reaches surroundings tree root arguments name bytes text :=
    ⟨opens, works, inspects, encodes, encodesTemporary, writable⟩
  by_cases lost : Taken surroundings next.tree (reached root arguments) text ∧
      surroundings.fault ≠ some .removeTemporary
  · obtain ⟨taken, removes⟩ := lost
    have cleans := removeTemporary_of_taken named last encodesTemporary taken removes
    have taken' := (taken_congr makes).mp taken
    obtain ⟨-, entry, here, other⟩ := taken
    rcases ending_cases raises ran cleans opened all le_rfl none_left with
      ⟨unclosed, ended⟩ | ⟨closes, ⟨error, adapter, -, ended⟩ | ⟨ok, -⟩⟩
    · rw [ended]
      exact .unclosed _ _ not_isAdapterError_faultError unclosed
    · rw [ended]
      refine .lost error _ bytes text reaches taken' removes ?_
      have present : next.tree.entry (reached root arguments ++ [text]) ≠ some .directory := by
        rw [here]
        exact fun same => other (Option.some.inj same)
      exact (congrFun (FileTree.entry_remove present) _).trans (Function.update_self _ _ _)
    · cases ok
  · have cleans := removeTemporary_of_not named last encodesTemporary lost
    refine ended_of_error raises ran cleans opened all le_rfl none_left ?_ makes
    intro bytes' temporary' again
    obtain ⟨rfl, rfl⟩ := reaches.unique again
    refine ⟨fun taken => ?_, fun free synced => ?_⟩
    · by_contra removes
      exact lost ⟨(taken_congr makes).mpr taken, removes⟩
    · refine uncreated ⟨(free_congr makes).mpr free, ?_⟩
      rw [synced]
      simp

end Written

include raises opens opened last makes in
theorem ended_of_unfinished {error : Raised} {middle : Tree} {some_ : List UInt8} {text : FileName}
    (encodesTemporary : fsencode (temporaryText surroundings name) = some text)
    (free : Free surroundings next.tree (reached root arguments) text)
    (fails : ¬Works surroundings replaceCalls)
    (entries : middle.entry =
      Function.update next.tree.entry (reached root arguments ++ [text]) (some (.file some_)))
    (ran : body.run progress = (.error error,
      { next with tree := middle, temporaryName := some (temporaryText surroundings name) })) :
    Ended surroundings tree root arguments name content (ending surroundings body progress) := by
  let unfinished : Progress :=
    { next with tree := middle, temporaryName := some (temporaryText surroundings name) }
  have here : middle.entry (reached root arguments ++ [text]) = some (.file some_) := by
    rw [entries, Function.update_self]
  obtain ⟨call, member, fault⟩ := fault_of_not_works fails
  have removes : surroundings.fault ≠ some .removeTemporary := by
    rintro removed
    rw [fault, Option.some.injEq] at removed
    simp [removed, replaceCalls, temporaryCalls] at member
  have syncs : surroundings.fault ≠ some .syncDirectory := by
    rintro synced
    rw [fault, Option.some.injEq] at synced
    simp [synced, replaceCalls, temporaryCalls] at member
  have named : unfinished.temporaryName = some (temporaryText surroundings name) := rfl
  have cleans := removeTemporary_of_taken named last encodesTemporary ⟨free.1, _, here, by simp⟩
    removes
  have back : (middle.remove (reached root arguments ++ [text])).entry = next.tree.entry := by
    rw [FileTree.entry_remove, entries, Function.update_idem, ← free.2, Function.update_eq_self]
    rw [here]
    simp
  refine ended_of_error raises ran cleans opened (arguments.take_length.symm ▸ opens) le_rfl
    (fun below => absurd below (lt_irrefl _)) ?_ ?_
  · intro bytes' temporary' again
    obtain rfl := Option.some.inj (again.encodesTemporary.symm.trans encodesTemporary)
    exact ⟨fun taken => absurd ((free_congr makes).mp free) taken.not_free, fun _ => syncs⟩
  · intro path
    exact (congrFun back path).symm ▸ makes path

include raises moved opens opened last inside temporary makes in
theorem ended_of_arrival
    (works : ∀ offset < arguments.length, Works surroundings (enterCalls (1 + offset))) :
    Ended surroundings tree root arguments name content (ending surroundings body progress) := by
  by_cases encoded : ∃ bytes, fsencode name = some bytes ∧
      Writable surroundings tree (reached root arguments) bytes
  swap
  · exact ended_of_refused raises moved opens opened temporary makes encoded
  obtain ⟨bytes, encodes, writable⟩ := encoded
  obtain ⟨text, encodesTemporary, different⟩ : ∃ text,
      fsencode (temporaryText surroundings name) = some text ∧ text ≠ bytes :=
    fsencode_temporaryText encodes
  have all : Opens surroundings tree root (arguments.take arguments.length) :=
    arguments.take_length.symm ▸ opens
  have none_left (below : arguments.length < arguments.length) :
      ¬Opens surroundings tree root (arguments.take (arguments.length + 1)) ∨
        ¬Works surroundings (enterCalls (1 + arguments.length)) := absurd below (lt_irrefl _)
  have result : ArtifactResult surroundings next (reached root arguments) name bytes text content
      ((writeArtifact surroundings (reached root arguments) name content).run next) :=
    writeArtifact_result inside encodes encodesTemporary different
      ((writable_congr makes).mpr writable)
  rw [← moved] at result
  generalize ran : body.run progress = outcome at result
  have reaches (inspects : surroundings.fault ≠ some .inspectDestination) :
      Reaches surroundings tree root arguments name bytes text :=
    ⟨opens, works, inspects, encodes, encodesTemporary, writable⟩
  cases result with
  | uninspected error fault =>
      refine ended_of_error raises ran (removeTemporary_of_none temporary) opened all le_rfl
        none_left ?_ makes
      exact fun bytes temporary reaches => absurd fault reaches.inspects
  | uncreated error inspects taken =>
      exact ended_of_uncreated raises opens opened last makes works encodes encodesTemporary
        writable inspects taken ran
  | unfinished error middle some_ inspects free fails entries =>
      exact ended_of_unfinished raises opens opened last makes encodesTemporary free fails entries
        ran
  | unsynced error middle free fault entries =>
      have inspects : surroundings.fault ≠ some .inspectDestination := by
        rw [fault]
        simp
      rcases ending_cases raises ran (removeTemporary_of_none rfl) opened all le_rfl none_left with
        ⟨unclosed, ended⟩ | ⟨-, ⟨error, adapter, -, ended⟩ | ⟨ok, -⟩⟩
      · rw [ended]
        exact .unclosed _ _ not_isAdapterError_faultError unclosed
      · rw [ended]
        exact .unsynced error _ bytes text adapter (reaches inspects) ((free_congr makes).mp free)
          fault (.of_makes makes entries)
      · cases ok
  | written middle free calls entries =>
      have inspects := calls _ (List.mem_cons_self ..)
      have syncs := calls _ (List.mem_cons_of_mem _ (List.mem_cons_self ..))
      rcases ending_cases raises ran (removeTemporary_of_none rfl) opened all le_rfl none_left with
        ⟨unclosed, ended⟩ | ⟨closes, ⟨error, -, failed, -⟩ | ⟨-, ended⟩⟩
      · rw [ended]
        exact .unclosed _ _ not_isAdapterError_faultError unclosed
      · exact absurd rfl failed
      · rw [ended]
        exact .written _ bytes text closes (reaches inspects) ((free_congr makes).mp free) syncs
          (.of_makes makes entries)

end Arrival

/-- The directories below the sandbox root that a write opens. -/
def directoryArguments (workspaceId part : Text) (relativePath : List Text) :
    List (Option PathArgument) :=
  PathArgument.ofPath workspaceId part :: relativePath.dropLast.map PathArgument.ofComponent

theorem ended_writeBelow {progress : Progress} {workspaceId part : Text} {relativePath : List Text}
    (inside : progress.tree.entry root = some .directory) (opened : progress.openFds = [root])
    (temporary : progress.temporaryName = none)
    (direct : Direct surroundings progress.tree root (PathArgument.ofPath workspaceId part)) :
    Ended surroundings progress.tree root (directoryArguments workspaceId part relativePath)
      (relativePath.getLastD []) content
      (ending surroundings (writeBelow surroundings root workspaceId part relativePath content)
        progress) := by
  have raises : (writeBelow surroundings root workspaceId part relativePath content).Raises
      WriteError := (raises_descend _).bind fun _ => raises_writeArtifact
  have untrailing : ∀ argument ∈ (directoryArguments workspaceId part relativePath).tail,
      ∀ value ∈ argument, value.trailing = false := by
    intro argument member value given
    obtain ⟨component, -, rfl⟩ := List.mem_map.mp member
    obtain ⟨name, -, rfl⟩ := Option.map_eq_some_iff.mp (Option.mem_def.mp given)
    rfl
  have last : progress.openFds.getLast? = some root := by rw [opened, List.getLast?_singleton]
  have head : ∀ argument ∈ (directoryArguments workspaceId part relativePath).head?,
      Direct surroundings progress.tree root argument := by
    rintro argument member
    obtain rfl := Option.some.inj member
    exact direct
  have result : DescentResult surroundings 1 root (directoryArguments workspaceId part relativePath)
      progress ((descend surroundings 1 root
        (directoryArguments workspaceId part relativePath)).run progress) :=
    descend_result inside last head untrailing
  generalize descended : (descend surroundings 1 root
    (directoryArguments workspaceId part relativePath)).run progress = outcome at result
  cases result with
  | arrived next opens works longer last inside' same makes =>
      rw [opened, List.length_singleton] at longer
      exact ended_of_arrival raises (Process.bind_of_ok descended _) opens longer last inside'
        (same.trans temporary) makes works
  | stopped error next count within opens blocked longer same makes =>
      rw [opened, List.length_singleton] at longer
      refine ended_of_error raises (Process.bind_of_error descended _)
        (removeTemporary_of_none (same.trans temporary)) longer opens within.le (fun _ => blocked)
          ?_
        makes
      intro bytes text reaches
      rcases blocked with blocked | fails
      · exact absurd (opens_take reaches.opens _) blocked
      · exact absurd (reaches.works count within) fails

end VoodooOne.Sandbox
