import Yuha.Core.Session.Registry
import Yuha.Library.Execution
import Yuha.Library.Interleaving

/-!
# Concurrent calls of the registry

`register`, `unregister` and `update` touch the three maps in several critical sections, and
other calls can come in between. Here each section is a step of its own. The sections in
which `update` holds the lock of an index lie inside its section on the sessions, whose
write guard it keeps meanwhile.

## Implementation notes

A section that changes nothing, because an index is disabled or a key stays the same, is a
step, too. From the sections of `update` on, its argument `session_id` is the identifier of
the metadata, as it checks before.
-/

namespace Yuha

open Library Library.Execution

/-- A call, as its caller makes it. -/
inductive RegistryTask
  | register (metadata : SessionMetadata)
  | unregister (sessionId : SessionId)
  | update (sessionId : SessionId) (metadata : SessionMetadata)

inductive RegistryAnswer
  | registered (result : Except SessionError SessionId)
  | unregistered (removed : Option SessionMetadata)
  | updated (result : Except SessionError Unit)

/-- Where a call is: before its next section, or at its end. -/
inductive RegistryCall
  | checking (metadata : SessionMetadata)
  | inserting (metadata : SessionMetadata)
  | indexingName (metadata : SessionMetadata)
  | indexingConnection (metadata : SessionMetadata)
  | removing (sessionId : SessionId)
  | unindexingName (metadata : SessionMetadata) (sessionId : SessionId)
  | unindexingConnection (metadata : SessionMetadata) (sessionId : SessionId)
  | updating (sessionId : SessionId) (metadata : SessionMetadata)
  | movingConnection (oldMetadata metadata : SessionMetadata)
  | movingName (oldMetadata metadata : SessionMetadata)
  | storing (metadata : SessionMetadata)
  | done (answer : RegistryAnswer)

/-- The maps, and the call that keeps the write guard of the sessions from step to step. -/
structure GuardedRegistry where
  registry : SessionRegistry
  writer : Option Nat := none

namespace RegistryCall

def begins : RegistryTask → RegistryCall
  | .register metadata => .checking metadata
  | .unregister sessionId => .removing sessionId
  | .update sessionId metadata => .updating sessionId metadata

/-- A section on the sessions: it waits while another call keeps their write guard. -/
def whenFree (s : GuardedRegistry) (moved : RegistryCall × GuardedRegistry) :
    Option (RegistryCall × GuardedRegistry) :=
  if s.writer = none then some moved else none

/-- The next section of the `i`-th call. -/
def move (i : Nat) : RegistryCall → GuardedRegistry → Option (RegistryCall × GuardedRegistry)
  | .checking metadata, s =>
      whenFree s <| match s.registry.checkRegister metadata with
        | .error e => (.done (.registered (.error e)), s)
        | .ok () => (.inserting metadata.asRegistered, s)
  | .inserting metadata, s =>
      whenFree s (.indexingName metadata,
        { s with registry := s.registry.insertSession metadata })
  | .indexingName metadata, s =>
      some (.indexingConnection metadata,
        { s with registry := s.registry.indexName metadata })
  | .indexingConnection metadata, s =>
      some (.done (.registered (.ok metadata.id)),
        { s with registry := s.registry.indexConnection metadata })
  | .removing sessionId, s =>
      whenFree s <| match s.registry.get sessionId with
        | none => (.done (.unregistered none), s)
        | some metadata => (.unindexingName metadata sessionId,
            { s with registry := s.registry.removeSession sessionId })
  | .unindexingName metadata sessionId, s =>
      some (.unindexingConnection metadata sessionId,
        { s with registry := s.registry.unindexName metadata sessionId })
  | .unindexingConnection metadata sessionId, s =>
      some (.done (.unregistered (some metadata)),
        { s with registry := s.registry.unindexConnection metadata sessionId })
  | .updating sessionId metadata, s =>
      if metadata.id ≠ sessionId then
        some (.done (.updated (.error
          (.invalidState "metadata ID mismatch" "matching session ID"))), s)
      else
        whenFree s <| match s.registry.get sessionId with
          | none => (.done (.updated (.error (.notFound sessionId.toString))), s)
          | some oldMetadata => (.movingConnection oldMetadata metadata,
              { s with writer := some i })
  | .movingConnection oldMetadata metadata, s =>
      some (.movingName oldMetadata metadata,
        { s with registry := s.registry.moveConnection metadata.id oldMetadata metadata })
  | .movingName oldMetadata metadata, s =>
      some (.storing metadata,
        { s with registry := s.registry.moveName metadata.id oldMetadata metadata })
  | .storing metadata, s =>
      some (.done (.updated (.ok ())),
        { s with registry := s.registry.insertSession metadata, writer := none })
  | .done _, _ => none

/-- All that a section can do. -/
inductive Moves (i : Nat) : RegistryCall → GuardedRegistry → RegistryCall → GuardedRegistry → Prop
  | reject {s metadata e} : Moves i (.checking metadata) s (.done (.registered (.error e))) s
  | accept {s metadata} (hfree : s.writer = none)
      (hcheck : s.registry.checkRegister metadata = .ok ()) :
      Moves i (.checking metadata) s (.inserting metadata.asRegistered) s
  | insert {s metadata} (hfree : s.writer = none) :
      Moves i (.inserting metadata) s (.indexingName metadata)
        { s with registry := s.registry.insertSession metadata }
  | indexName {s metadata} :
      Moves i (.indexingName metadata) s (.indexingConnection metadata)
        { s with registry := s.registry.indexName metadata }
  | indexConnection {s metadata} :
      Moves i (.indexingConnection metadata) s (.done (.registered (.ok metadata.id)))
        { s with registry := s.registry.indexConnection metadata }
  | missing {s sessionId} : Moves i (.removing sessionId) s (.done (.unregistered none)) s
  | remove {s sessionId metadata} (hfree : s.writer = none)
      (hget : s.registry.get sessionId = some metadata) :
      Moves i (.removing sessionId) s (.unindexingName metadata sessionId)
        { s with registry := s.registry.removeSession sessionId }
  | unindexName {s sessionId metadata} :
      Moves i (.unindexingName metadata sessionId) s (.unindexingConnection metadata sessionId)
        { s with registry := s.registry.unindexName metadata sessionId }
  | unindexConnection {s sessionId metadata} :
      Moves i (.unindexingConnection metadata sessionId) s (.done (.unregistered (some metadata)))
        { s with registry := s.registry.unindexConnection metadata sessionId }
  | refuse {s sessionId metadata e} :
      Moves i (.updating sessionId metadata) s (.done (.updated (.error e))) s
  | enter {s oldMetadata metadata} (hfree : s.writer = none)
      (hget : s.registry.get metadata.id = some oldMetadata) :
      Moves i (.updating metadata.id metadata) s (.movingConnection oldMetadata metadata)
        { s with writer := some i }
  | moveConnection {s oldMetadata metadata} :
      Moves i (.movingConnection oldMetadata metadata) s (.movingName oldMetadata metadata)
        { s with registry := s.registry.moveConnection metadata.id oldMetadata metadata }
  | moveName {s oldMetadata metadata} :
      Moves i (.movingName oldMetadata metadata) s (.storing metadata)
        { s with registry := s.registry.moveName metadata.id oldMetadata metadata }
  | store {s metadata} :
      Moves i (.storing metadata) s (.done (.updated (.ok ())))
        { s with registry := s.registry.insertSession metadata, writer := none }

theorem whenFree_eq_some_iff {s : GuardedRegistry} {moved result : RegistryCall × GuardedRegistry} :
    whenFree s moved = some result ↔ s.writer = none ∧ moved = result := by
  unfold whenFree
  split <;> simp_all

theorem moves_of_move {i : Nat} {call call' : RegistryCall} {s s' : GuardedRegistry}
    (h : move i call s = some (call', s')) : Moves i call s call' s' := by
  cases call with
  | checking metadata =>
      obtain ⟨hfree, hmoved⟩ := whenFree_eq_some_iff.mp h
      cases hcheck : s.registry.checkRegister metadata with
      | error e =>
          rw [hcheck] at hmoved
          cases hmoved
          exact .reject
      | ok _ =>
          rw [hcheck] at hmoved
          cases hmoved
          exact .accept hfree hcheck
  | inserting metadata =>
      obtain ⟨hfree, hmoved⟩ := whenFree_eq_some_iff.mp h
      cases hmoved
      exact .insert hfree
  | indexingName metadata =>
      cases h
      exact .indexName
  | indexingConnection metadata =>
      cases h
      exact .indexConnection
  | removing sessionId =>
      obtain ⟨hfree, hmoved⟩ := whenFree_eq_some_iff.mp h
      cases hget : s.registry.get sessionId with
      | none =>
          rw [hget] at hmoved
          cases hmoved
          exact .missing
      | some metadata =>
          rw [hget] at hmoved
          cases hmoved
          exact .remove hfree hget
  | unindexingName metadata sessionId =>
      cases h
      exact .unindexName
  | unindexingConnection metadata sessionId =>
      cases h
      exact .unindexConnection
  | updating sessionId metadata =>
      simp only [move] at h
      split at h
      · cases h
        exact .refuse
      · next hid =>
          obtain rfl := not_not.mp hid
          obtain ⟨hfree, hmoved⟩ := whenFree_eq_some_iff.mp h
          cases hget : s.registry.get metadata.id with
          | none =>
              rw [hget] at hmoved
              cases hmoved
              exact .refuse
          | some oldMetadata =>
              rw [hget] at hmoved
              cases hmoved
              exact .enter hfree hget
  | movingConnection oldMetadata metadata =>
      cases h
      exact .moveConnection
  | movingName oldMetadata metadata =>
      cases h
      exact .moveName
  | storing metadata =>
      cases h
      exact .store
  | done answer => cases h

end RegistryCall

/-- The registry with the calls in progress. -/
abbrev RegistryCalls := Interleaved GuardedRegistry RegistryCall

abbrev RegistryEvent := Event RegistryTask

namespace RegistryCalls

def new (config : SessionRegistryConfig) : RegistryCalls where
  shared := { registry := .new config }
  calls := []

abbrev step (s : RegistryCalls) (event : RegistryEvent) : RegistryCalls :=
  Interleaved.step RegistryCall.begins RegistryCall.move s event

/-- No call is in progress. -/
def Quiescent (s : RegistryCalls) : Prop := ∀ call ∈ s.calls, ∃ answer, call = .done answer

/-! ## Running alone -/

/-- One call alone, with nobody else around. -/
def alone (registry : SessionRegistry) (call : RegistryCall) : RegistryCalls where
  shared := { registry := registry }
  calls := [call]

theorem run_register (registry : SessionRegistry) (metadata : SessionMetadata) :
    run step (alone registry (.begins (.register metadata))) (List.replicate 4 (.advance 0)) =
      alone (registry.register metadata).2
        (.done (.registered (registry.register metadata).1)) := by
  cases hcheck : registry.checkRegister metadata with
  | error e =>
      simp [alone, RegistryCall.begins, Interleaved.step, RegistryCall.move,
        RegistryCall.whenFree, SessionRegistry.register, hcheck, List.replicate]
  | ok _ =>
      simp [alone, RegistryCall.begins, Interleaved.step, RegistryCall.move,
        RegistryCall.whenFree, SessionRegistry.register, hcheck, List.replicate]

theorem run_unregister (registry : SessionRegistry) (sessionId : SessionId) :
    run step (alone registry (.begins (.unregister sessionId))) (List.replicate 3 (.advance 0)) =
      alone (registry.unregister sessionId).2
        (.done (.unregistered (registry.unregister sessionId).1)) := by
  cases hlookup : registry.sessions.lookup sessionId with
  | none =>
      simp [alone, RegistryCall.begins, Interleaved.step, RegistryCall.move,
        RegistryCall.whenFree, SessionRegistry.unregister, SessionRegistry.get, hlookup,
        List.replicate]
  | some metadata =>
      simp [alone, RegistryCall.begins, Interleaved.step, RegistryCall.move,
        RegistryCall.whenFree, SessionRegistry.unregister, SessionRegistry.get, hlookup,
        List.replicate]

theorem run_update (registry : SessionRegistry) (sessionId : SessionId)
    (metadata : SessionMetadata) :
    run step (alone registry (.begins (.update sessionId metadata)))
        (List.replicate 4 (.advance 0)) =
      alone (registry.update sessionId metadata).2
        (.done (.updated (registry.update sessionId metadata).1)) := by
  by_cases hid : metadata.id = sessionId
  · subst hid
    cases hlookup : registry.sessions.lookup metadata.id with
    | none =>
        simp [alone, RegistryCall.begins, Interleaved.step, RegistryCall.move,
          RegistryCall.whenFree, SessionRegistry.update, SessionRegistry.get, hlookup,
          List.replicate]
    | some oldMetadata =>
        simp [alone, RegistryCall.begins, Interleaved.step, RegistryCall.move,
          RegistryCall.whenFree, SessionRegistry.update, SessionRegistry.get, hlookup,
          List.replicate]
  · simp [alone, RegistryCall.begins, Interleaved.step, RegistryCall.move,
      SessionRegistry.update, hid, List.replicate]

end RegistryCalls

/-! ## What every run keeps -/

namespace RegistryCall

/-- The call is still to put this session into the map. -/
def Enrols (id : SessionId) : RegistryCall → Prop
  | .checking metadata | .inserting metadata => metadata.id = id
  | _ => False

/-- The call took this session out of the map, and is still to take it out of an index. -/
def Strikes (id : SessionId) : RegistryCall → Prop
  | .unindexingName _ sessionId | .unindexingConnection _ sessionId => sessionId = id
  | _ => False

end RegistryCall

namespace RegistryCalls

open RegistryCall Interleaved

abbrev get (s : RegistryCalls) (id : SessionId) : Option SessionMetadata :=
  s.shared.registry.get id

@[simp] theorem get_mk (shared : GuardedRegistry) (calls : List RegistryCall) (id : SessionId) :
    get { shared := shared, calls := calls } id = shared.registry.get id := rfl

/-- What `update` read is still stored: the call keeps the guard. -/
def Guards (s : RegistryCalls) (i : Nat) : RegistryCall → Prop
  | .movingConnection oldMetadata metadata | .movingName oldMetadata metadata =>
      s.shared.writer = some i ∧ s.get metadata.id = some oldMetadata
  | .storing metadata => s.shared.writer = some i ∧ (s.get metadata.id).isSome
  | _ => True

variable {s s' : RegistryCalls}

/-- While a call keeps the guard, the others leave the sessions alone. -/
theorem keeps_of_moves {i j : Nat} {call call' : RegistryCall} {shared : GuardedRegistry}
    (h : Moves i call s.shared call' shared) (hguards : s.Guards i call) (hij : i ≠ j)
    (hwriter : s.shared.writer = some j) :
    shared.writer = some j ∧ ∀ id, shared.registry.get id = s.get id := by
  cases h with
  | insert hfree | remove hfree hsome | enter hfree hsome => rw [hfree] at hwriter; cases hwriter
  | store =>
      have hi := hguards.1.symm.trans hwriter
      exact absurd (Option.some.inj hi) hij
  | reject | accept | missing | refuse => exact ⟨hwriter, fun _ => rfl⟩
  | indexName | indexConnection | unindexName | unindexConnection | moveConnection
    | moveName => exact ⟨hwriter, fun _ => by simp⟩

theorem Guards.of_other {j : Nat} {call : RegistryCall} (h : s.Guards j call)
    (hkeeps : s.shared.writer = some j →
      s'.shared.writer = some j ∧ ∀ id, s'.get id = s.get id) : s'.Guards j call := by
  cases call with
  | movingConnection oldMetadata metadata | movingName oldMetadata metadata =>
      obtain ⟨hwriter, hget⟩ := h
      obtain ⟨hwriter', hsame⟩ := hkeeps hwriter
      exact ⟨hwriter', (hsame _).trans hget⟩
  | storing metadata =>
      obtain ⟨hwriter, hget⟩ := h
      obtain ⟨hwriter', hsame⟩ := hkeeps hwriter
      exact ⟨hwriter', by rwa [hsame]⟩
  | checking | inserting | indexingName | indexingConnection | removing | unindexingName
    | unindexingConnection | updating | done => trivial

theorem Guards.moved {i : Nat} {call call' : RegistryCall} {shared : GuardedRegistry}
    (hguards : s.Guards i call) (h : Moves i call s.shared call' shared) :
    Guards { shared := shared, calls := s.calls.set i call' } i call' := by
  cases h with
  | enter hfree hsome => exact ⟨rfl, hsome⟩
  | moveConnection => exact ⟨hguards.1, by simpa using hguards.2⟩
  | moveName => exact ⟨hguards.1, by simp [hguards.2]⟩
  | reject | accept | insert | indexName | indexConnection | missing | remove | unindexName
    | unindexConnection | refuse | store => trivial

/-- Every call that edits a session keeps the guard and what it read. -/
def Guarded (s : RegistryCalls) : Prop := ∀ i call, s.calls[i]? = some call → s.Guards i call

theorem guarded_new (config : SessionRegistryConfig) : (new config).Guarded :=
  fun _ _ hcall => absurd hcall (by simp [new])

theorem Guarded.move (h : s.Guarded) {i : Nat} {call call' : RegistryCall}
    {shared : GuardedRegistry} (hcall : s.calls[i]? = some call)
    (hmoves : Moves i call s.shared call' shared) :
    Guarded { shared := shared, calls := s.calls.set i call' } := by
  intro j other hj
  rcases getElem?_set_cases hj with ⟨rfl, rfl⟩ | ⟨hij, hj⟩
  · exact (h i call hcall).moved hmoves
  · exact (h j other hj).of_other fun hwriter =>
      keeps_of_moves hmoves (h i call hcall) hij hwriter

theorem Guarded.start (h : s.Guarded) (task : RegistryTask) :
    Guarded { s with calls := s.calls ++ [begins task] } := by
  intro j other hj
  rcases getElem?_append_cases hj with hj | ⟨_, rfl⟩
  · exact h j other hj
  · cases task <;> trivial

theorem Guarded.step (h : s.Guarded) (event : RegistryEvent) : (step s event).Guarded := by
  rcases s.step_cases begins RegistryCall.move event with
    ⟨task, rfl, hstep⟩ | ⟨i, call, call', shared, rfl, hcall, hmove, hstep⟩ | hstep
  · exact (congrArg Guarded hstep).mpr (h.start task)
  · exact (congrArg Guarded hstep).mpr (h.move hcall (moves_of_move hmove))
  · exact (congrArg Guarded hstep).mpr h

theorem config_of_moves {i : Nat} {call call' : RegistryCall} {shared : GuardedRegistry}
    (h : Moves i call s.shared call' shared) :
    shared.registry.config = s.shared.registry.config := by
  cases h <;> simp [SessionRegistry.insertSession, SessionRegistry.removeSession,
    SessionRegistry.indexConnection, SessionRegistry.unindexConnection]

/-! ## New identifiers -/

/-- The identifiers under which sessions are to be registered. -/
def issuedIds (events : List RegistryEvent) : List SessionId :=
  events.flatMap fun event =>
    match event with
    | .start (.register metadata) => [metadata.id]
    | _ => []

/-- An identifier in `register` is new, and one that was unregistered stays so. -/
def Sound (s : RegistryCalls) (i : Nat) : RegistryCall → Prop
  | .checking metadata | .inserting metadata =>
      s.get metadata.id = none ∧ ¬ s.Others i (Enrols metadata.id)
  | .unindexingName _ sessionId | .unindexingConnection _ sessionId =>
      s.get sessionId = none ∧ ¬ s.Any (Enrols sessionId)
  | _ => True

structure Steady (past : List RegistryEvent) (s : RegistryCalls) : Prop where
  guarded : s.Guarded
  calls : ∀ i call, s.calls[i]? = some call → s.Sound i call
  issued : ∀ id, (s.get id).isSome ∨ s.Any (Enrols id) ∨ s.Any (Strikes id) →
    id ∈ issuedIds past

/-- A call stays sound while others move: what is not registered is only registered by the
call that has the identifier. -/
theorem Sound.of_other {i j : Nat} {call moved : RegistryCall} (h : s.Sound j call)
    (hcall : s.calls[i]? = some moved) (hij : i ≠ j)
    (hnone : ∀ id, s.get id = none → ¬ moved.Enrols id → s'.get id = none)
    (hany : ∀ id, s'.Any (Enrols id) → s.Any (Enrols id))
    (hothers : ∀ id, s'.Others j (Enrols id) → s.Others j (Enrols id)) : s'.Sound j call := by
  cases call with
  | checking metadata | inserting metadata =>
      obtain ⟨hget, hnew⟩ := h
      refine ⟨hnone _ hget fun henrols => hnew ⟨i, moved, hij, hcall, henrols⟩, ?_⟩
      exact fun hother => hnew (hothers _ hother)
  | unindexingName metadata sessionId | unindexingConnection metadata sessionId =>
      obtain ⟨hget, hgone⟩ := h
      refine ⟨hnone _ hget fun henrols => hgone ⟨moved, List.mem_of_getElem? hcall, henrols⟩, ?_⟩
      exact fun hagain => hgone (hany _ hagain)
  | indexingName | indexingConnection | removing | updating | movingConnection | movingName
    | storing | done => trivial

/-- No move makes a call one that is still to register something. -/
theorem enrols_of_moves {i : Nat} {call call' : RegistryCall} {g g' : GuardedRegistry}
    (h : Moves i call g call' g') (id : SessionId) (henrols : call'.Enrols id) :
    call.Enrols id := by
  cases h with
  | accept hfree hcheck => exact (SessionMetadata.asRegistered_id _).symm.trans henrols
  | reject | insert | indexName | indexConnection | missing | remove | unindexName
    | unindexConnection | refuse | enter | moveConnection | moveName | store => cases henrols

theorem get_eq_none_of_moves {i : Nat} {call call' : RegistryCall} {shared : GuardedRegistry}
    (h : Moves i call s.shared call' shared) (hguards : s.Guards i call) {id : SessionId}
    (hget : s.get id = none) (hnew : ¬ call.Enrols id) : shared.registry.get id = none := by
  cases h with
  | insert hfree =>
      rw [SessionRegistry.get_insertSession, if_neg fun heq => hnew heq.symm]
      exact hget
  | remove hfree hsome =>
      rw [SessionRegistry.get_removeSession]
      split
      · rfl
      · exact hget
  | store =>
      rw [SessionRegistry.get_insertSession, if_neg]
      · exact hget
      · rintro rfl
        exact absurd hguards.2 (by simp [hget])
  | reject | accept | missing | refuse | enter => exact hget
  | indexName | indexConnection | unindexName | unindexConnection | moveConnection
    | moveName => simpa using hget

/-- What is registered is not still to be registered. -/
theorem not_any_enrols (h : ∀ i call, s.calls[i]? = some call → s.Sound i call)
    {id : SessionId} {metadata : SessionMetadata} (hget : s.get id = some metadata) :
    ¬ s.Any (Enrols id) := by
  rintro ⟨call, hmem, henrols⟩
  obtain ⟨i, hi⟩ := List.mem_iff_getElem?.mp hmem
  have hsound := h i call hi
  cases call with
  | checking metadata' | inserting metadata' =>
      obtain rfl := henrols
      cases hget.symm.trans hsound.1
  | indexingName | indexingConnection | removing | unindexingName | unindexingConnection
    | updating | movingConnection | movingName | storing | done => cases henrols

/-- The call that moves is sound at its next stage. -/
theorem Sound.moved {i : Nat} {call call' : RegistryCall} {shared : GuardedRegistry}
    (hsound : ∀ j other, s.calls[j]? = some other → s.Sound j other)
    (hcall : s.calls[i]? = some call) (h : Moves i call s.shared call' shared) :
    Sound { shared := shared, calls := s.calls.set i call' } i call' := by
  have hothers : ∀ id, ¬ s.Others i (Enrols id) →
      ¬ Others { shared := shared, calls := s.calls.set i call' } i (Enrols id) :=
    fun id hnone hother => hnone (hother.of_set hcall (enrols_of_moves h id))
  have hany : ∀ id, ¬ s.Any (Enrols id) →
      ¬ Any { shared := shared, calls := s.calls.set i call' } (Enrols id) :=
    fun id hnone hany => hnone (hany.of_set hcall (enrols_of_moves h id))
  have hold := hsound i call hcall
  cases h with
  | accept hfree hcheck =>
      obtain ⟨hget, hnew⟩ := hold
      rw [← SessionMetadata.asRegistered_id] at hget hnew
      exact ⟨hget, hothers _ hnew⟩
  | remove hfree hsome =>
      refine ⟨?_, hany _ (not_any_enrols hsound hsome)⟩
      rw [get_mk, SessionRegistry.get_removeSession, if_pos rfl]
  | unindexName => exact ⟨by simpa using hold.1, hany _ hold.2⟩
  | reject | insert | indexName | indexConnection | missing | unindexConnection | refuse
    | enter | moveConnection | moveName | store => trivial

/-- The other calls stay sound when a call starts under a new identifier. -/
theorem Sound.started {j : Nat} {call started : RegistryCall} (h : s.Sound j call)
    (hcall : s.calls[j]? = some call)
    (hnew : ∀ id, started.Enrols id → ¬ s.Any (Enrols id) ∧ ¬ s.Any (Strikes id)) :
    Sound { s with calls := s.calls ++ [started] } j call := by
  cases call with
  | checking metadata | inserting metadata =>
      have hstarted : ¬ started.Enrols metadata.id := fun henrols =>
        (hnew _ henrols).1 ⟨_, List.mem_of_getElem? hcall, rfl⟩
      exact ⟨h.1, fun hother => h.2 (hother.of_append hstarted)⟩
  | unindexingName metadata sessionId | unindexingConnection metadata sessionId =>
      have hstarted : ¬ started.Enrols sessionId := fun henrols =>
        (hnew _ henrols).2 ⟨_, List.mem_of_getElem? hcall, rfl⟩
      exact ⟨h.1, fun hany => h.2 (hany.of_append hstarted)⟩
  | indexingName | indexingConnection | removing | updating | movingConnection | movingName
    | storing | done => trivial

theorem steady_new (config : SessionRegistryConfig) : Steady [] (new config) where
  guarded := guarded_new config
  calls i call h := absurd h (by simp [new])
  issued id h := by simp [new, get, Any] at h

/-- The event starts no `register` under an identifier that was issued before. -/
def Issues (past : List RegistryEvent) (event : RegistryEvent) : Prop :=
  ∀ metadata, event = .start (.register metadata) → metadata.id ∉ issuedIds past

theorem strikes_of_moves {i : Nat} {call call' : RegistryCall} {g g' : GuardedRegistry}
    (h : Moves i call g call' g') {id : SessionId} (hstrikes : call'.Strikes id) :
    call.Strikes id ∨ (g.registry.get id).isSome := by
  cases h with
  | remove hfree hsome =>
      obtain rfl := hstrikes
      exact Or.inr (by simp [hsome])
  | unindexName => exact Or.inl hstrikes
  | reject | accept | insert | indexName | indexConnection | missing | unindexConnection
    | refuse | enter | moveConnection | moveName | store => cases hstrikes

theorem issuedIds_append (past : List RegistryEvent) (event : RegistryEvent) :
    issuedIds (past ++ [event]) = issuedIds past ++ issuedIds [event] := by
  simp [issuedIds]

theorem Steady.start {past : List RegistryEvent} (h : Steady past s) {task : RegistryTask}
    (hissues : Issues past (.start task)) :
    Steady (past ++ [.start task]) { s with calls := s.calls ++ [begins task] } := by
  have hnew : ∀ id, (begins task).Enrols id →
      id ∈ issuedIds [.start task] ∧ id ∉ issuedIds past := by
    intro id henrols
    cases task with
    | register metadata =>
        obtain rfl := henrols
        exact ⟨by simp [issuedIds], hissues metadata rfl⟩
    | unregister | update => cases henrols
  have hfresh : ∀ id, (begins task).Enrols id →
      s.get id = none ∧ ¬ s.Any (Enrols id) ∧ ¬ s.Any (Strikes id) := by
    intro id henrols
    have hid := (hnew id henrols).2
    refine ⟨?_, fun hany => hid (h.issued id (Or.inr (Or.inl hany))),
      fun hany => hid (h.issued id (Or.inr (Or.inr hany)))⟩
    rw [← Option.not_isSome_iff_eq_none]
    exact fun hsome => hid (h.issued id (Or.inl hsome))
  refine ⟨h.guarded.start task, ?_, ?_⟩
  · intro j call hj
    rcases getElem?_append_cases hj with hj | ⟨hlast, rfl⟩
    · exact (h.calls j call hj).started hj fun id henrols => (hfresh id henrols).2
    · cases task with
      | register metadata =>
          obtain ⟨hget, hnone, _⟩ := hfresh metadata.id rfl
          refine ⟨hget, ?_⟩
          rintro ⟨k, other, hkj, hk, henrols⟩
          rcases getElem?_append_cases hk with hk | ⟨hk, _⟩
          · exact hnone ⟨other, List.mem_of_getElem? hk, henrols⟩
          · exact hkj (hk.trans hlast.symm)
      | unregister | update => trivial
  · intro id hid
    rw [issuedIds_append, List.mem_append]
    rcases hid with hget | hany | hany
    · exact Or.inl (h.issued id (Or.inl hget))
    · rcases any_append.mp hany with hany | henrols
      · exact Or.inl (h.issued id (Or.inr (Or.inl hany)))
      · exact Or.inr (hnew id henrols).1
    · refine Or.inl (h.issued id (Or.inr (Or.inr (hany.of_append ?_))))
      cases task <;> exact not_false

theorem Steady.move {past : List RegistryEvent} (h : Steady past s) {i : Nat}
    {call call' : RegistryCall} {shared : GuardedRegistry} (hcall : s.calls[i]? = some call)
    (hmoves : Moves i call s.shared call' shared) :
    Steady (past ++ [.advance i]) { shared := shared, calls := s.calls.set i call' } := by
  have hguards := h.guarded i call hcall
  have henrols := enrols_of_moves hmoves
  refine ⟨h.guarded.move hcall hmoves, ?_, ?_⟩
  · intro j other hj
    rcases getElem?_set_cases hj with ⟨rfl, rfl⟩ | ⟨hij, hj⟩
    · exact Sound.moved h.calls hcall hmoves
    · apply (h.calls j other hj).of_other hcall hij
      · exact fun id hget hnew => get_eq_none_of_moves hmoves hguards hget hnew
      · exact fun id hany => hany.of_set hcall (henrols id)
      · exact fun id hother => hother.of_set hcall (henrols id)
  · intro id hid
    rw [issuedIds_append, List.mem_append]
    refine Or.inl (h.issued id ?_)
    rcases hid with hget | hany | hany
    · by_contra hnone
      simp only [not_or, Option.not_isSome_iff_eq_none] at hnone
      have hgone := get_eq_none_of_moves hmoves hguards hnone.1 fun hnew =>
        hnone.2.1 ⟨call, List.mem_of_getElem? hcall, hnew⟩
      rw [get_mk, hgone] at hget
      cases hget
    · exact Or.inr (Or.inl (hany.of_set hcall (henrols id)))
    · rcases (any_set hcall).mp hany with hother | hstrikes
      · exact Or.inr (Or.inr hother.any)
      · rcases strikes_of_moves hmoves hstrikes with hstrikes | hget
        · exact Or.inr (Or.inr ⟨call, List.mem_of_getElem? hcall, hstrikes⟩)
        · exact Or.inl hget

theorem Steady.step {past : List RegistryEvent} (h : Steady past s) {event : RegistryEvent}
    (hissues : Issues past event) : Steady (past ++ [event]) (step s event) := by
  rcases s.step_cases begins RegistryCall.move event with
    ⟨task, rfl, hstep⟩ | ⟨i, call, call', shared, rfl, hcall, hmove, hstep⟩ | hstep
  · exact (congrArg (Steady _) hstep).mpr (h.start hissues)
  · exact (congrArg (Steady _) hstep).mpr (h.move hcall (moves_of_move hmove))
  · refine (congrArg (Steady _) hstep).mpr ⟨h.guarded, h.calls, fun id hid => ?_⟩
    rw [issuedIds_append]
    exact List.mem_append_left _ (h.issued id hid)

/-- If no identifier is issued twice, every `register` starts under a new one. -/
theorem along_issues {events : List RegistryEvent} (h : (issuedIds events).Nodup) :
    Along RegistryCalls.step (fun past _ event => Issues past event) s events := by
  intro past event hfront metadata hevent hid
  obtain ⟨rest, rfl⟩ := hfront
  subst hevent
  rw [List.append_assoc, issuedIds, List.flatMap_append] at h
  exact (List.nodup_append.mp h).2.2 _ hid _ (by simp) rfl

end RegistryCalls

end Yuha
