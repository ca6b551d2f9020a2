import Yuha.Daemon.Accounts

/-!
# Sessions stay what they are

The tasks of the daemon change the status of a session and count its uses, and nothing
else. Whatever the order of their steps, what is registered under an identifier stays the
same session until it is unregistered, and then nothing is ever registered under it again.
-/

namespace Yuha

open Library Library.Program Library.Execution

/-- The later metadata is that of the same session, used as often or more. -/
structure SessionMetadata.Continues (metadata later : SessionMetadata) : Prop where
  id : later.id = metadata.id
  name : later.name = metadata.name
  transportConfig : later.transportConfig = metadata.transportConfig
  priority : later.priority = metadata.priority
  createdAt : later.createdAt = metadata.createdAt
  tags : later.tags = metadata.tags
  description : later.description = metadata.description
  useCount : metadata.useCount ≤ later.useCount

namespace SessionMetadata.Continues

variable {metadata later last : SessionMetadata}

theorem refl (metadata : SessionMetadata) : metadata.Continues metadata :=
  ⟨rfl, rfl, rfl, rfl, rfl, rfl, rfl, Nat.le_refl _⟩

theorem markUsed (metadata : SessionMetadata) (now : SystemTime) :
    metadata.Continues (metadata.markUsed now) :=
  ⟨rfl, rfl, rfl, rfl, rfl, rfl, rfl, Nat.le_succ _⟩

theorem setStatus (metadata : SessionMetadata) (now : SystemTime) (status : SessionStatus) :
    metadata.Continues (metadata.setStatus now status) :=
  ⟨rfl, rfl, rfl, rfl, rfl, rfl, rfl, Nat.le_refl _⟩

theorem trans (h : metadata.Continues later) (h' : later.Continues last) :
    metadata.Continues last where
  id := h'.id.trans h.id
  name := h'.name.trans h.name
  transportConfig := h'.transportConfig.trans h.transportConfig
  priority := h'.priority.trans h.priority
  createdAt := h'.createdAt.trans h.createdAt
  tags := h'.tags.trans h.tags
  description := h'.description.trans h.description
  useCount := h.useCount.trans h'.useCount

end SessionMetadata.Continues

/-! ## One step -/

namespace TaskNote

variable {config : SessionManagerConfig} {ambient : Ambient} {s : ServingHandler}
  {note : TaskNote} {id : SessionId}

/-- A task draws the identifier that its turn offers, or has drawn it before. -/
theorem drawn_after {action : HandlerAction}
    (h : (note.after config action (ServingHandler.exec ambient action s).1).drawn = some id) :
    note.drawn = some id ∨ ambient.freshId = id := by
  cases action with
  | getClient | insertClient | removeClient | send => exact Or.inl h
  | manager action =>
      cases action with
      | ambient => exact Or.inr (Option.some.inj h)
      | register metadata =>
          simp only [after, afterCall] at h
          split at h <;> simp_all
      | unregister | unregisterExpired =>
          exact Or.inl ((unregistered_drawn note _).symm.trans h)
      | get | update | updateStatus | markUsed | listAll | addSession | removeSession
        | findSession | cleanupExpired | recordSessionCreated | recordStatusChange
        | recordConnectionSuccess | recordConnectionFailure | recordSessionUsage
        | recordSessionClosed | cleanupOldHistory => exact Or.inl h

/-- What is registered after a step that is permitted was registered before, unless it is
registered under the identifier the task has drawn. -/
theorem continues_exec {action : HandlerAction} (hpermits : note.Permits action)
    (hdrawn : note.drawn ≠ some id) {later : SessionMetadata}
    (h : (ServingHandler.exec ambient action s).2.registry.get id = some later) :
    ∃ metadata, s.registry.get id = some metadata ∧ metadata.Continues later := by
  cases action with
  | getClient | insertClient | removeClient | send => exact ⟨later, h, .refl later⟩
  | manager action =>
      rcases SessionManager.getSession_exec h with hold | ⟨newMetadata, rfl, rfl, _⟩ | ⟨rfl, _⟩ |
        ⟨metadata, rfl, hold, rfl⟩ | ⟨metadata, status, rfl, hold, rfl⟩
      · exact ⟨later, hold, .refl later⟩
      · exact absurd hpermits.1 hdrawn
      · exact hpermits.elim
      · exact ⟨metadata, hold, .markUsed metadata ambient.now⟩
      · exact ⟨metadata, hold, .setStatus metadata ambient.now status⟩

end TaskNote

/-! ## Every run -/

namespace DaemonTasks

open TaskNote

variable {config : SessionManagerConfig} {past turns : List DaemonTurn} {notes : List TaskNote}
  {s : DaemonTasks}

/-- What is registered under the identifier after these turns. -/
abbrev registeredAfter (config : SessionManagerConfig) (turns : List DaemonTurn)
    (id : SessionId) : Option SessionMetadata :=
  (run (step config) (new config) turns).shared.registry.get id

/-- A session that was registered after `earlier` is the same one now, or it is gone, and it
is gone now if it was gone at any time since. -/
structure Remembers (config : SessionManagerConfig) (earlier : List DaemonTurn)
    (past : List DaemonTurn) (s : DaemonTasks) : Prop where
  same : ∀ id metadata later, registeredAfter config earlier id = some metadata →
    s.shared.registry.get id = some later → metadata.Continues later
  gone : ∀ id metadata middle, earlier <+: middle → middle <+: past →
    registeredAfter config earlier id = some metadata →
    registeredAfter config middle id = none → s.shared.registry.get id = none

/-- The state with its history. -/
structure Recalled (config : SessionManagerConfig) (past : List DaemonTurn)
    (notes : List TaskNote) (s : DaemonTasks) : Prop where
  state : s = run (step config) (new config) past
  placed : Placed (issuedIds past) notes s.shared
  undrawn : ∀ earlier, earlier <+: past → ∀ id metadata,
    registeredAfter config earlier id = some metadata →
    id ∈ issuedIds past ∧ ∀ note ∈ notes, note.drawn ≠ some id
  remembers : ∀ earlier, earlier <+: past → Remembers config earlier past s

theorem recalled_new (config : SessionManagerConfig) : Recalled config [] [] (new config) where
  state := rfl
  placed := Placed.new config
  undrawn earlier hearlier id metadata h := by
    obtain rfl := List.prefix_nil.mp hearlier
    exact absurd ((Placed.new config).registered id metadata h).1 List.not_mem_nil
  remembers earlier hearlier := by
    obtain rfl := List.prefix_nil.mp hearlier
    constructor
    · intro id metadata later h _
      exact absurd ((Placed.new config).registered id metadata h).1 List.not_mem_nil
    · intro id metadata middle _ _ h _
      exact absurd ((Placed.new config).registered id metadata h).1 List.not_mem_nil

theorem drawn_ne_of_tally {id : SessionId} (h : tally (draws id) notes = 0) :
    ∀ note ∈ notes, note.drawn ≠ some id := by
  intro note hmem hdrawn
  have hzero := tally_eq_zero_iff.mp h note hmem
  simp [draws, hdrawn] at hzero

/-- The history goes on with a turn that registers nothing under an identifier that no task
has drawn, and draws none that a session had. -/
theorem Recalled.concat (h : Recalled config past notes s) {turn : DaemonTurn}
    {notes' : List TaskNote} {s' : DaemonTasks}
    (hstate : s' = run (step config) (new config) (past ++ [turn]))
    (hplaced : Placed (issuedIds (past ++ [turn])) notes' s'.shared)
    (hissued : ∀ id ∈ issuedIds past, id ∈ issuedIds (past ++ [turn]))
    (hdrawn : ∀ id ∈ issuedIds past, (∀ note ∈ notes, note.drawn ≠ some id) →
      ∀ note ∈ notes', note.drawn ≠ some id)
    (hget : ∀ id later, (∀ note ∈ notes, note.drawn ≠ some id) →
      s'.shared.registry.get id = some later →
      ∃ metadata, s.shared.registry.get id = some metadata ∧ metadata.Continues later) :
    Recalled config (past ++ [turn]) notes' s' where
  state := hstate
  placed := hplaced
  undrawn earlier hearlier id metadata hregistered := by
    rcases List.prefix_concat_iff.mp hearlier with rfl | hpast
    · obtain ⟨hnew, hzero⟩ := hplaced.registered id metadata (hstate ▸ hregistered)
      exact ⟨hnew, drawn_ne_of_tally hzero⟩
    · obtain ⟨hold, hundrawn⟩ := h.undrawn earlier hpast id metadata hregistered
      exact ⟨hissued id hold, hdrawn id hold hundrawn⟩
  remembers earlier hearlier := by
    rcases List.prefix_concat_iff.mp hearlier with rfl | hpast
    · constructor
      · intro id metadata later hregistered hlater
        rw [hstate] at hlater
        obtain rfl := Option.some.inj (hregistered.symm.trans hlater)
        exact .refl metadata
      · intro id metadata middle hmiddle hmiddle' hregistered hnone
        obtain rfl := hmiddle.eq_of_length_le hmiddle'.length_le
        cases hregistered.symm.trans hnone
    · have hundrawn := fun id metadata hregistered =>
        (h.undrawn earlier hpast id metadata hregistered).2
      constructor
      · intro id metadata later hregistered hlater
        obtain ⟨before, hbefore, hcontinues⟩ :=
          hget id later (hundrawn id metadata hregistered) hlater
        exact ((h.remembers earlier hpast).same id metadata before hregistered hbefore).trans
          hcontinues
      · intro id metadata middle hmiddle hmiddle' hregistered hnone
        rcases List.prefix_concat_iff.mp hmiddle' with rfl | hmiddlePast
        · rw [hstate]
          exact hnone
        · have hgone := (h.remembers earlier hpast).gone id metadata middle hmiddle hmiddlePast
            hregistered hnone
          by_contra hsome
          obtain ⟨later, hlater⟩ := Option.ne_none_iff_exists'.mp hsome
          obtain ⟨before, hbefore, _⟩ := hget id later (hundrawn id metadata hregistered) hlater
          cases hgone.symm.trans hbefore

theorem exists_recalled (config : SessionManagerConfig) (hfresh : (issuedIds turns).Nodup) :
    ∀ past, past <+: turns → ∃ notes,
      Calls.Monitored (TaskNote.tasks config) Settled notes (run (step config) (new config) past) ∧
        Recalled config past notes (run (step config) (new config) past) := by
  refine Calls.exists_notes (J := fun past notes s => Recalled config past notes s)
    (DaemonInput.follows_program config) (along_offersNew config hfresh) (recalled_new config)
    ?_ ?_ ?_
  · intro past notes s input h
    refine h.concat ?_ ?_ ?_ ?_ ?_
    · rw [h.state, run_append]
      rfl
    · rw [issuedIds_start]
      exact h.placed.start
    · intro id hid
      rwa [issuedIds_start]
    · intro id _ hundrawn note hmem
      rcases List.mem_append.mp hmem with hold | hnew
      · exact hundrawn note hold
      · rw [List.mem_singleton.mp hnew]
        exact nofun
    · exact fun id later _ hlater => ⟨later, hlater, .refl later⟩
  · intro past notes s i ambient h hsame
    refine h.concat ?_ ?_ ?_ ?_ ?_
    · rw [run_append, ← h.state]
      exact hsame.symm
    · rw [issuedIds_advance]
      exact h.placed.mono ambient.freshId
    · intro id hid
      rw [issuedIds_advance]
      exact List.mem_append_left _ hid
    · exact fun id _ hundrawn => hundrawn
    · exact fun id later _ hlater => ⟨later, hlater, .refl later⟩
  · intro past notes s i ambient note action h hnew hnote hpermits hshared
    have hmem := List.mem_of_getElem? hnote
    refine h.concat ?_ ?_ ?_ ?_ ?_
    · rw [h.state, run_append]
      rfl
    · rw [hshared, issuedIds_advance]
      exact h.placed.advance hnote hpermits (hnew i ambient rfl)
    · intro id hid
      rw [issuedIds_advance]
      exact List.mem_append_left _ hid
    · intro id hid hundrawn note' hmem' hdrawn
      rcases List.mem_or_eq_of_mem_set hmem' with hold | rfl
      · exact hundrawn note' hold hdrawn
      · rcases drawn_after hdrawn with hbefore | rfl
        · exact hundrawn note hmem hbefore
        · exact hnew i ambient rfl hid
    · intro id later hundrawn hlater
      rw [hshared] at hlater
      exact continues_exec hpermits (hundrawn note hmem) hlater

/-- In whatever order the tasks take their steps, a session that is registered stays the same
until it is gone, and it never comes back. -/
theorem remembers_sessions (config : SessionManagerConfig) (turns : List DaemonTurn)
    (hfresh : (issuedIds turns).Nodup) :
    ∀ earlier, earlier <+: turns →
      Remembers config earlier turns (run (step config) (new config) turns) := by
  intro earlier hearlier
  obtain ⟨notes, _, hrecalled⟩ := exists_recalled config hfresh turns (List.prefix_refl turns)
  exact hrecalled.remembers earlier hearlier

theorem remembers_sessions_createdTogether :
    Remembers {} (createdTogether.take 20) createdTogether
      (run (step {}) (new {}) createdTogether) :=
  remembers_sessions {} createdTogether (by decide) _ (List.take_prefix 20 createdTogether)

end DaemonTasks

end Yuha
