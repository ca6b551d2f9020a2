import Yuha.Core.Session.RegistryCalls
import Yuha.Library.RwLock

/-!
# The locks of the registry

Each map of the registry is behind a lock of its own, and some calls take one lock while
they hold another. `update` and `clear` hold the sessions and take the indexes, while
`list_by_name` and `list_by_connection_key` hold an index and take the sessions, so two
calls can wait for each other.

## Implementation notes

A call is the sequence of its locks. Where the sequence depends on what the call finds in
the maps, the call carries the finding from its start, and any call may find anything: what
other calls do to the maps meanwhile leaves no run out.
-/

namespace Yuha

open Library Library.Execution

inductive RegistryLock
  | sessions
  | nameIndex
  | connectionIndex
  deriving DecidableEq, Repr

/-- How the checks of `register` end. -/
inductive RegisterFinding
  | limitReached
  | nameTaken
  | free
  deriving DecidableEq, Repr

/-- What `update` finds under the identifier it is given. -/
inductive UpdateFinding
  | mismatch
  | missing
  | registered (keyChanged nameChanged : Bool)
  deriving DecidableEq, Repr

inductive RegistryLocking
  | register (finding : RegisterFinding)
  | unregister (found : Bool)
  | get
  | update (finding : UpdateFinding)
  | updateStatus
  | markUsed
  | listAll
  | listByStatus
  | listByName (found : Bool)
  | listByConnectionKey (found : Bool)
  | listByTags
  | count
  | countByStatus
  | «exists»
  | clear
  deriving DecidableEq, Repr

namespace RegistryLocking

open LockStep LockCalls RegistryLock

/-- The locks a call takes, in order, each with what happens while it is held. -/
def locks (config : SessionRegistryConfig) : RegistryLocking → List (LockStep RegistryLock)
  | .register finding =>
      under sessions .read
          (if finding ≠ .limitReached ∧ !config.allowDuplicateNames then
            under nameIndex .read []
          else
            []) ++
        if finding = .free then
          under sessions .write [] ++
            (if config.enableNameIndex then under nameIndex .write [] else []) ++
            under connectionIndex .write []
        else
          []
  | .unregister found =>
      under sessions .write [] ++
        if found then
          (if config.enableNameIndex then under nameIndex .write [] else []) ++
            under connectionIndex .write []
        else
          []
  | .update .mismatch => []
  | .update .missing => under sessions .write []
  | .update (.registered keyChanged nameChanged) =>
      under sessions .write
        ((if keyChanged then under connectionIndex .write [] else []) ++
          if config.enableNameIndex && nameChanged then under nameIndex .write [] else [])
  | .updateStatus | .markUsed => under sessions .write []
  | .get | .listAll | .listByStatus | .listByTags | .count | .countByStatus | .exists =>
      under sessions .read []
  | .listByName found =>
      if config.enableNameIndex then
        under nameIndex .read (if found then under sessions .read [] else [])
      else
        under sessions .read []
  | .listByConnectionKey found =>
      under connectionIndex .read (if found then under sessions .read [] else [])
  | .clear =>
      under sessions .write (under nameIndex .write (under connectionIndex .write []))

/-- The locks that a call takes on top of others. -/
def nests : List RegistryLock → RegistryLock → Prop
  | [], _ => True
  | [.sessions], lock => lock ≠ .sessions
  | [.nameIndex, .sessions], lock => lock = .connectionIndex
  | [.nameIndex], lock | [.connectionIndex], lock => lock = .sessions
  | _, _ => False

theorem nests_cases {held : List RegistryLock} {lock : RegistryLock} (h : nests held lock) :
    held = [] ∨ held = [sessions] ∧ lock ≠ sessions ∨
      held = [nameIndex, sessions] ∧ lock = connectionIndex ∨
      (held = [nameIndex] ∨ held = [connectionIndex]) ∧ lock = sessions := by
  unfold nests at h
  split at h <;> simp_all

theorem nested_locks (config : SessionRegistryConfig) (call : RegistryLocking) :
    Nested nests [] (call.locks config) := by
  have hsessions : ∀ mode, Balanced nests [] (under sessions mode []) :=
    fun mode => balanced_nil.under mode nofun trivial
  have hname : ∀ mode, Balanced nests [] (under nameIndex mode []) :=
    fun mode => balanced_nil.under mode nofun trivial
  have hconnection : ∀ mode, Balanced nests [] (under connectionIndex mode []) :=
    fun mode => balanced_nil.under mode nofun trivial
  apply Balanced.nested
  cases call with
  | register finding =>
      refine .append (.under (.ite (balanced_nil.under _ ?_ ?_) balanced_nil) _ nofun trivial)
        (.ite (.append (.append (hsessions _) (.ite (hname _) balanced_nil)) (hconnection _))
          balanced_nil)
      · decide
      · exact nofun
  | unregister found =>
      exact .append (hsessions _)
        (.ite (.append (.ite (hname _) balanced_nil) (hconnection _)) balanced_nil)
  | update finding =>
      cases finding with
      | mismatch => exact balanced_nil
      | missing => exact hsessions _
      | registered keyChanged nameChanged =>
          refine .under (.append (.ite (balanced_nil.under _ ?_ ?_) balanced_nil)
            (.ite (balanced_nil.under _ ?_ ?_) balanced_nil)) _ nofun trivial
          · decide
          · exact nofun
          · decide
          · exact nofun
  | updateStatus | markUsed => exact hsessions _
  | get | listAll | listByStatus | listByTags | count | countByStatus | «exists» =>
      exact hsessions _
  | listByName found =>
      refine .ite (.under (.ite (balanced_nil.under _ ?_ rfl) balanced_nil) _ nofun trivial)
        (hsessions _)
      decide
  | listByConnectionKey found =>
      refine .under (.ite (balanced_nil.under _ ?_ rfl) balanced_nil) _ nofun trivial
      decide
  | clear =>
      refine .under (.under (balanced_nil.under _ ?_ rfl) _ ?_ ?_) _ nofun trivial
      · decide
      · decide
      · exact nofun

end RegistryLocking

/-! ## What a call finds -/

namespace SessionRegistry

def registerFinding (registry : SessionRegistry) (metadata : SessionMetadata) : RegisterFinding :=
  match registry.checkRegister metadata with
  | .ok () => .free
  | .error (.alreadyExists _) => .nameTaken
  | .error _ => .limitReached

def updateFinding (registry : SessionRegistry) (sessionId : SessionId)
    (metadata : SessionMetadata) : UpdateFinding :=
  if metadata.id ≠ sessionId then
    .mismatch
  else
    match registry.get sessionId with
    | none => .missing
    | some oldMetadata =>
        .registered (decide (oldMetadata.connectionKey ≠ metadata.connectionKey))
          (decide (oldMetadata.name ≠ metadata.name))

/-- The locks of a call that finds the maps as they are here. -/
def locking (registry : SessionRegistry) : RegistryTask → RegistryLocking
  | .register metadata => .register (registry.registerFinding metadata)
  | .unregister sessionId => .unregister (registry.get sessionId).isSome
  | .update sessionId metadata => .update (registry.updateFinding sessionId metadata)

def lockingByName (registry : SessionRegistry) (name : String) : RegistryLocking :=
  .listByName (registry.nameIndex.lookup name).isSome

def after (registry : SessionRegistry) : RegistryTask → SessionRegistry
  | .register metadata => (registry.register metadata).2
  | .unregister sessionId => (registry.unregister sessionId).2
  | .update sessionId metadata => (registry.update sessionId metadata).2

/-- A map that a call never locks for writing stays as it was. -/
structure ChangesUnder (steps : List (LockStep RegistryLock))
    (registry registry' : SessionRegistry) : Prop where
  sessions : .acquire .sessions .write ∉ steps → registry'.sessions = registry.sessions
  nameIndex : .acquire .nameIndex .write ∉ steps → registry'.nameIndex = registry.nameIndex
  connectionIndex : .acquire .connectionIndex .write ∉ steps →
    registry'.connectionIndex = registry.connectionIndex

variable {steps : List (LockStep RegistryLock)} {registry registry' registry'' : SessionRegistry}

theorem ChangesUnder.of_eq (h : registry' = registry) : ChangesUnder steps registry registry' := by
  subst h
  exact ⟨fun _ => rfl, fun _ => rfl, fun _ => rfl⟩

theorem ChangesUnder.trans (h : ChangesUnder steps registry registry')
    (h' : ChangesUnder steps registry' registry'') : ChangesUnder steps registry registry'' where
  sessions hnot := (h'.sessions hnot).trans (h.sessions hnot)
  nameIndex hnot := (h'.nameIndex hnot).trans (h.nameIndex hnot)
  connectionIndex hnot := (h'.connectionIndex hnot).trans (h.connectionIndex hnot)

theorem ChangesUnder.ite {p : Prop} [Decidable p] (h : p → ChangesUnder steps registry registry') :
    ChangesUnder steps registry (if p then registry' else registry) := by
  split
  · next hp => exact h hp
  · exact .of_eq rfl

theorem changesUnder_sessions (h : .acquire .sessions .write ∈ steps)
    (sessions : HashMap SessionId SessionMetadata) :
    ChangesUnder steps registry { registry with sessions := sessions } :=
  ⟨fun hnot => absurd h hnot, fun _ => rfl, fun _ => rfl⟩

theorem changesUnder_nameIndex (h : .acquire .nameIndex .write ∈ steps)
    (nameIndex : GroupedIndex String SessionId) :
    ChangesUnder steps registry { registry with nameIndex := nameIndex } :=
  ⟨fun _ => rfl, fun hnot => absurd h hnot, fun _ => rfl⟩

theorem changesUnder_connectionIndex (h : .acquire .connectionIndex .write ∈ steps)
    (connectionIndex : GroupedIndex String SessionId) :
    ChangesUnder steps registry { registry with connectionIndex := connectionIndex } :=
  ⟨fun _ => rfl, fun _ => rfl, fun hnot => absurd h hnot⟩

theorem changesUnder_register (registry : SessionRegistry) (metadata : SessionMetadata) :
    ChangesUnder ((registry.locking (.register metadata)).locks registry.config) registry
      (registry.after (.register metadata)) := by
  cases hcheck : registry.checkRegister metadata with
  | error e => exact .of_eq (by simp [after, register, hcheck])
  | ok _ =>
      simp only [after, register, locking, registerFinding, hcheck]
      refine .trans (.trans (changesUnder_sessions ?_ _) (.ite fun henabled => ?_))
        (changesUnder_connectionIndex ?_ _)
      · simp [RegistryLocking.locks, LockStep.under]
      · refine changesUnder_nameIndex ?_ _
        have hindexed : registry.config.enableNameIndex := henabled
        simp [RegistryLocking.locks, LockStep.under, hindexed]
      · simp [RegistryLocking.locks, LockStep.under]

theorem changesUnder_unregister (registry : SessionRegistry) (sessionId : SessionId) :
    ChangesUnder ((registry.locking (.unregister sessionId)).locks registry.config) registry
      (registry.after (.unregister sessionId)) := by
  cases hget : registry.get sessionId with
  | none =>
      have hlookup : registry.sessions.lookup sessionId = none := hget
      exact .of_eq (by simp [after, unregister, hlookup])
  | some metadata =>
      have hlookup : registry.sessions.lookup sessionId = some metadata := hget
      simp only [after, unregister, locking, hget, hlookup]
      refine .trans (.trans (changesUnder_sessions ?_ _) (.ite fun henabled => ?_))
        (changesUnder_connectionIndex ?_ _)
      · simp [RegistryLocking.locks, LockStep.under]
      · refine changesUnder_nameIndex ?_ _
        have hindexed : registry.config.enableNameIndex := henabled
        simp [RegistryLocking.locks, LockStep.under, hindexed]
      · simp [RegistryLocking.locks, LockStep.under]

theorem changesUnder_update (registry : SessionRegistry) (sessionId : SessionId)
    (metadata : SessionMetadata) :
    ChangesUnder ((registry.locking (.update sessionId metadata)).locks registry.config) registry
      (registry.after (.update sessionId metadata)) := by
  by_cases hid : metadata.id ≠ sessionId
  · exact .of_eq (by simp [after, update, hid])
  · cases hget : registry.get sessionId with
    | none =>
        have hlookup : registry.sessions.lookup sessionId = none := hget
        exact .of_eq (by simp [after, update, hid, hlookup])
    | some oldMetadata =>
        have hlookup : registry.sessions.lookup sessionId = some oldMetadata := hget
        simp only [after, update, locking, updateFinding, hid, hget, hlookup, if_false]
        refine .trans (.trans (.ite fun hkey => changesUnder_connectionIndex ?_ _)
          (.ite fun hname => changesUnder_nameIndex ?_ _)) (changesUnder_sessions ?_ _)
        · simp [RegistryLocking.locks, LockStep.under, hkey]
        · have hindexed : registry.config.enableNameIndex := by simpa using hname.1
          simp [RegistryLocking.locks, LockStep.under, hindexed, hname.2]
        · simp [RegistryLocking.locks, LockStep.under]

/-- Each call holds the write guard of every map that it changes. -/
theorem changesUnder_locks (registry : SessionRegistry) (task : RegistryTask) :
    ChangesUnder ((registry.locking task).locks registry.config) registry
      (registry.after task) := by
  cases task with
  | register metadata => exact changesUnder_register registry metadata
  | unregister sessionId => exact changesUnder_unregister registry sessionId
  | update sessionId metadata => exact changesUnder_update registry sessionId metadata

end SessionRegistry

/-! ## Deadlocks -/

abbrev RegistryLockings := LockCalls RegistryLock

namespace RegistryLockings

open RegistryLock RegistryLocking LockCalls LockCall

abbrev step (config : SessionRegistryConfig) (s : RegistryLockings)
    (event : Event RegistryLocking) : RegistryLockings :=
  LockCalls.step (locks config) s event

variable {s : RegistryLockings}

/-- A lock that a waiting call holds says which lock it waits for. -/
theorem blocked_cases (h : Ticketed nests s) {i : Nat} {lock waited : RegistryLock}
    (hholds : s.Holds i lock) (hblocked : s.Blocked i waited) :
    lock = sessions ∧ waited ≠ sessions ∨
      lock = nameIndex ∧ (waited = sessions ∨ s.Holds i sessions ∧ waited = connectionIndex) ∨
      lock = connectionIndex ∧ waited = sessions := by
  obtain ⟨call, hcall, hheld⟩ := hholds
  obtain ⟨_, mode, hsame, hwaiting, _⟩ := hblocked
  obtain rfl := Option.some.inj (hcall.symm.trans hsame)
  have hnested := h.nested i call hcall
  simp only [NestedCall, hwaiting] at hnested
  rcases nests_cases hnested.2.1 with hnone | ⟨hone, hwaited⟩ | ⟨htwo, rfl⟩ | ⟨hname | hkey, rfl⟩
  · simp [hnone] at hheld
  · rw [hone] at hheld
    exact Or.inl ⟨List.mem_singleton.mp hheld, hwaited⟩
  · -- Only `clear` asks for a third lock.
    rw [htwo] at hheld
    rcases List.mem_pair.mp hheld with rfl | rfl
    · exact Or.inr (Or.inl ⟨rfl, Or.inr ⟨⟨call, hcall, by simp [htwo]⟩, rfl⟩⟩)
    · exact Or.inl ⟨rfl, by decide⟩
  · rw [hname] at hheld
    exact Or.inr (Or.inl ⟨List.mem_singleton.mp hheld, Or.inl rfl⟩)
  · rw [hkey] at hheld
    exact Or.inr (Or.inr ⟨List.mem_singleton.mp hheld, rfl⟩)

/-- Who waits for the connection index waits for a call that waits for the sessions. -/
theorem waits_of_blocked_connectionIndex (h : Ticketed nests s) (hdeadlocked : s.Deadlocked)
    {i : Nat} (hblocked : s.Blocked i connectionIndex) :
    ∃ j, s.Holds j connectionIndex ∧ s.Blocked j sessions := by
  obtain ⟨j, waited, hholds, hwaits⟩ := h.holder_blocked hdeadlocked hblocked
  rcases blocked_cases h hholds hwaits with ⟨hlock, _⟩ | ⟨hlock, _⟩ | ⟨_, rfl⟩
  · cases hlock
  · cases hlock
  · exact ⟨j, hholds, hwaits⟩

theorem waits_of_blocked_nameIndex (h : Ticketed nests s) (hdeadlocked : s.Deadlocked)
    {i : Nat} (hblocked : s.Blocked i nameIndex) :
    ∃ j, s.Holds j nameIndex ∧
      (s.Blocked j sessions ∨ s.Holds j sessions ∧ s.Blocked j connectionIndex) := by
  obtain ⟨j, waited, hholds, hwaits⟩ := h.holder_blocked hdeadlocked hblocked
  rcases blocked_cases h hholds hwaits with ⟨hlock, _⟩ | ⟨_, rfl | ⟨hsessions, rfl⟩⟩ | ⟨hlock, _⟩
  · cases hlock
  · exact ⟨j, hholds, Or.inl hwaits⟩
  · exact ⟨j, hholds, Or.inr ⟨hsessions, hwaits⟩⟩
  · cases hlock

/-- Some call waits for the sessions, whatever a deadlock starts from. -/
theorem exists_blocked_sessions (h : Ticketed nests s) (hdeadlocked : s.Deadlocked) :
    ∃ i, s.Blocked i sessions := by
  obtain ⟨i, lock, hblocked⟩ := hdeadlocked.exists_blocked
  cases lock with
  | sessions => exact ⟨i, hblocked⟩
  | nameIndex =>
      obtain ⟨j, _, hwaits | ⟨_, hwaits⟩⟩ := waits_of_blocked_nameIndex h hdeadlocked hblocked
      · exact ⟨j, hwaits⟩
      · obtain ⟨k, _, hwaits⟩ := waits_of_blocked_connectionIndex h hdeadlocked hwaits
        exact ⟨k, hwaits⟩
  | connectionIndex =>
      obtain ⟨j, _, hwaits⟩ := waits_of_blocked_connectionIndex h hdeadlocked hblocked
      exact ⟨j, hwaits⟩

/-- The calls that wait for each other are two. -/
theorem crossing_of_deadlocked (h : Ticketed nests s) (hdeadlocked : s.Deadlocked) :
    s.Crossing := by
  obtain ⟨i, hblocked⟩ := exists_blocked_sessions h hdeadlocked
  obtain ⟨j, waited, hj, hjwaits⟩ := h.holder_blocked hdeadlocked hblocked
  cases waited with
  | sessions =>
      rcases blocked_cases h hj hjwaits with ⟨_, hne⟩ | ⟨hlock, _⟩ | ⟨hlock, _⟩
      · exact absurd rfl hne
      · cases hlock
      · cases hlock
  | nameIndex =>
      obtain ⟨k, hk, hkwaits | ⟨hksessions, hkwaits⟩⟩ :=
        waits_of_blocked_nameIndex h hdeadlocked hjwaits
      · exact ⟨j, k, sessions, nameIndex, hj, hjwaits, hk, hkwaits⟩
      · obtain ⟨l, hl, hlwaits⟩ := waits_of_blocked_connectionIndex h hdeadlocked hkwaits
        exact ⟨k, l, sessions, connectionIndex, hksessions, hkwaits, hl, hlwaits⟩
  | connectionIndex =>
      obtain ⟨k, hk, hkwaits⟩ := waits_of_blocked_connectionIndex h hdeadlocked hjwaits
      exact ⟨j, k, sessions, connectionIndex, hj, hjwaits, hk, hkwaits⟩

/-- In a run in which no call comes to wait for a call that waits for it, some call can move
whenever some call is not finished. -/
theorem not_deadlocked_of_crossesNone (config : SessionRegistryConfig)
    (events : List (Event RegistryLocking))
    (h : Along (step config) (fun _ s event => s.CrossesNone event) new events) :
    Always (step config) (fun s => ¬ s.Deadlocked) new events := by
  have hinvariant := h.invariant (I := fun _ s => Ticketed nests s ∧ ¬ s.Crossing)
    ⟨ticketed_new, not_crossing_new⟩ fun past s event hinv hnone =>
      ⟨hinv.1.step (nested_locks config) event,
        (crossing_step_iff hinv.1 hinv.2).not_left.mpr hnone⟩
  intro past hpast hdeadlocked
  obtain ⟨hticketed, hcrossing⟩ := hinvariant past hpast
  exact hcrossing (crossing_of_deadlocked hticketed hdeadlocked)

def build : SessionMetadata := .new 0 ⟨1⟩ "build" {} [] none

/-- A registry with one session, whose name is "build". -/
def registryOfBuild : SessionRegistry := ((SessionRegistry.new {}).register build).2

/-- `list_by_name` has both of its locks when `update` asks for the sessions. -/
def renamedAfter : List (Event RegistryLocking) :=
  [.start (registryOfBuild.locking (.update ⟨1⟩ { build with name := "test" })),
    .start (registryOfBuild.lockingByName "build"),
    .advance 1, .advance 1, .advance 1, .advance 1, .advance 0, .advance 1, .advance 1,
    .advance 0, .advance 0]

theorem not_deadlocked_of_crossesNone_renamedAfter :
    Always (step {}) (fun s => ¬ s.Deadlocked) new renamedAfter := by
  apply not_deadlocked_of_crossesNone {} renamedAfter
  simp only [renamedAfter, along_cons]
  refine ⟨nofun, nofun, ?_, ?_, ?_, ?_, ?_, ?_, ?_, ?_, ?_, along_nil⟩
  all_goals rintro _ _ _ _ _ ⟨⟩ ⟨⟩
  -- The requests: two of `list_by_name`, and two of `update`, which has to wait at first.
  · exact Or.inl (by decide)
  · exact Or.inl (by decide)
  · exact Or.inr nofun
  · exact Or.inl (by decide)

/-- `update` renames the session while `list_by_name` looks its old name up. -/
def renamedMeanwhile : List (Event RegistryLocking) :=
  [.start (registryOfBuild.locking (.update ⟨1⟩ { build with name := "test" })),
    .start (registryOfBuild.lockingByName "build"),
    .advance 0, .advance 0, .advance 1, .advance 1, .advance 0, .advance 1]

theorem run_renamedMeanwhile :
    (run (step {}) new renamedMeanwhile).calls =
      [⟨[sessions], some (nameIndex, .write), [.release nameIndex, .release sessions]⟩,
        ⟨[nameIndex], some (sessions, .read), [.release sessions, .release nameIndex]⟩] := by
  decide

/-- Either call holds the lock that the other waits for. -/
theorem not_deadlocked_false :
    ¬ Always (step {}) (fun s => ¬ s.Deadlocked) new renamedMeanwhile := by
  intro h
  refine h.last ⟨?_, fun i call hcall => ?_⟩
  · rw [run_renamedMeanwhile]
    exact ⟨_, List.mem_cons_self, nofun⟩
  · rw [run_renamedMeanwhile] at hcall
    match i, hcall with
    | 0, rfl => decide
    | 1, rfl => decide

end RegistryLockings

end Yuha
