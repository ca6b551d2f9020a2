import Yuha.Core.Session.RegistryCalls

/-!
# The limit on the number of sessions

`register` checks the limit in one critical section and inserts the session in a later one,
so another call can insert in between. The check is enough exactly as long as no call takes
the last place while another one that has passed its check is still to take a place.
-/

namespace Yuha

open Library Library.Execution

namespace RegistryCalls

open RegistryCall Interleaved

/-- No more sessions are registered than the configuration allows. -/
def WithinLimit (config : SessionRegistryConfig) (s : RegistryCalls) : Prop :=
  s.shared.registry.count ≤ config.maxSessions

/-- The limit holds, and no call exceeds it in its next section. -/
def StaysWithinLimit (config : SessionRegistryConfig) (s : RegistryCalls) : Prop :=
  s.WithinLimit config ∧ ∀ i, (step s (.advance i)).WithinLimit config

/-- Where the event registers one session more, and with it the last that is allowed, no other
call that has passed its check is to register one more. -/
def TakesLastAlone (config : SessionRegistryConfig) (s : RegistryCalls)
    (event : RegistryEvent) : Prop :=
  ∀ i metadata, event = .advance i → s.calls[i]? = some (.inserting metadata) →
    s.shared.writer = none → s.get metadata.id = none →
    config.maxSessions ≤ s.shared.registry.count + 1 →
    ∀ other, .inserting other ∈ s.calls → s.get other.id = none → other.id = metadata.id

variable {s : RegistryCalls}

theorem count_insertSession (registry : SessionRegistry) (metadata : SessionMetadata) :
    (registry.insertSession metadata).count =
      if (registry.get metadata.id).isSome then registry.count else registry.count + 1 := by
  have hsize := HashMap.size_insert registry.sessions metadata.id metadata
  cases hget : registry.sessions.lookup metadata.id <;>
    simpa [SessionRegistry.count, SessionRegistry.insertSession, SessionRegistry.get, hget]
      using hsize

theorem count_removeSession_le (registry : SessionRegistry) (sessionId : SessionId) :
    (registry.removeSession sessionId).count ≤ registry.count := by
  have hsize := HashMap.size_erase_add registry.sessions sessionId
  simp only [SessionRegistry.count, SessionRegistry.removeSession]
  omega

/-- There is a place for every session that a call is to register in its next section. -/
structure KeepsPlaces (config : SessionRegistryConfig) (s : RegistryCalls) : Prop where
  guarded : s.Guarded
  config_eq : s.shared.registry.config = config
  within : s.WithinLimit config
  place : ∀ metadata, .inserting metadata ∈ s.calls → s.get metadata.id = none →
    s.shared.registry.count < config.maxSessions

theorem keepsPlaces_new (config : SessionRegistryConfig) : (new config).KeepsPlaces config where
  guarded := guarded_new config
  config_eq := rfl
  within := Nat.zero_le _
  place := fun _ hmem => absurd hmem List.not_mem_nil

variable {config : SessionRegistryConfig} {i : Nat} {call call' : RegistryCall}
  {shared : GuardedRegistry}

/-- A section registers no session for which there is no place. -/
theorem KeepsPlaces.count_le (h : s.KeepsPlaces config) (hcall : s.calls[i]? = some call)
    (hmoves : Moves i call s.shared call' shared) :
    shared.registry.count ≤ config.maxSessions := by
  have hwithin : s.shared.registry.count ≤ config.maxSessions := h.within
  cases hmoves with
  | @insert _ metadata hfree =>
      rw [count_insertSession]
      split
      · exact hwithin
      · next hnew =>
          exact h.place metadata (List.mem_of_getElem? hcall)
            (Option.not_isSome_iff_eq_none.mp hnew)
  | remove hfree hsome => exact (count_removeSession_le _ _).trans hwithin
  | store =>
      rw [count_insertSession, if_pos (h.guarded i _ hcall).2]
      exact hwithin
  | reject | accept | indexConnection | missing | unindexConnection | refuse | enter =>
      exact hwithin
  | indexName | unindexName | moveConnection | moveName =>
      simpa [SessionRegistry.count] using hwithin

theorem KeepsPlaces.staysWithinLimit (h : s.KeepsPlaces config) : s.StaysWithinLimit config := by
  refine ⟨h.within, fun i => ?_⟩
  rcases s.step_cases begins RegistryCall.move (.advance i) with
    ⟨task, hevent, _⟩ | ⟨j, call, call', shared, _, hcall, hmove, hstep⟩ | hstep
  · cases hevent
  · exact (congrArg (WithinLimit config) hstep).mpr (h.count_le hcall (moves_of_move hmove))
  · exact (congrArg (WithinLimit config) hstep).mpr h.within

theorem count_removeSession_lt {registry : SessionRegistry} {metadata : SessionMetadata}
    {sessionId : SessionId} (hget : registry.get sessionId = some metadata) :
    (registry.removeSession sessionId).count < registry.count := by
  have hsize := HashMap.size_erase_add registry.sessions sessionId
  have hlookup : registry.sessions.lookup sessionId = some metadata := hget
  rw [hlookup] at hsize
  simp only [SessionRegistry.count, SessionRegistry.removeSession]
  simp at hsize
  omega

/-- The session of a call that stands before its insertion, after the section of a call. -/
theorem inserting_of_set {metadata : SessionMetadata}
    (hmem : .inserting metadata ∈ s.calls.set i call') :
    .inserting metadata ∈ s.calls ∨ call' = .inserting metadata := by
  obtain hold | hnew := List.mem_or_eq_of_mem_set hmem
  · exact .inl hold
  · exact .inr hnew.symm

/-- A check lets a call pass only where there is a place, and an insertion takes the last
place from no one. -/
theorem KeepsPlaces.place_move (h : s.KeepsPlaces config) (hcall : s.calls[i]? = some call)
    (hmoves : Moves i call s.shared call' shared)
    (halone : s.TakesLastAlone config (.advance i)) (metadata : SessionMetadata)
    (hmem : .inserting metadata ∈ s.calls.set i call')
    (hnew : shared.registry.get metadata.id = none) :
    shared.registry.count < config.maxSessions := by
  cases hmoves with
  | accept hfree hcheck =>
      exact h.config_eq ▸ ((SessionRegistry.checkRegister_eq_ok_iff _ _).mp hcheck).1
  | @insert _ inserted hfree =>
      have hbefore := (inserting_of_set hmem).resolve_right nofun
      simp only [SessionRegistry.get_insertSession] at hnew
      split at hnew
      · cases hnew
      · next hother =>
          rw [count_insertSession]
          split
          · exact h.place metadata hbefore hnew
          · next hinserted =>
              by_contra hfull
              exact hother (halone i inserted rfl hcall hfree
                (Option.not_isSome_iff_eq_none.mp hinserted) (not_lt.mp hfull) metadata hbefore
                hnew)
  | remove hfree hget => exact (count_removeSession_lt hget).trans_le h.within
  | store =>
      have hbefore := (inserting_of_set hmem).resolve_right nofun
      simp only [SessionRegistry.get_insertSession] at hnew
      split at hnew
      · cases hnew
      · rw [count_insertSession, if_pos (h.guarded i _ hcall).2]
        exact h.place metadata hbefore hnew
  | reject | indexConnection | missing | unindexConnection | refuse | enter =>
      exact h.place metadata ((inserting_of_set hmem).resolve_right nofun) hnew
  | indexName | unindexName | moveConnection | moveName =>
      have hplace := h.place metadata ((inserting_of_set hmem).resolve_right nofun)
        (by simpa using hnew)
      simpa [SessionRegistry.count] using hplace

theorem KeepsPlaces.step (h : s.KeepsPlaces config) {event : RegistryEvent}
    (halone : s.TakesLastAlone config event) : (step s event).KeepsPlaces config := by
  rcases s.step_cases begins RegistryCall.move event with
    ⟨task, _, hstep⟩ | ⟨i, call, call', shared, rfl, hcall, hmove, hstep⟩ | hstep
  · apply (congrArg (KeepsPlaces config) hstep).mpr
    refine ⟨h.guarded.start task, h.config_eq, h.within, fun metadata hmem => ?_⟩
    obtain hold | hnew := List.mem_append.mp hmem
    · exact h.place metadata hold
    · cases task <;> cases List.mem_singleton.mp hnew
  · have hmoves := moves_of_move hmove
    refine (congrArg (KeepsPlaces config) hstep).mpr ⟨h.guarded.move hcall hmoves, ?_, ?_, ?_⟩
    · exact (config_of_moves hmoves).trans h.config_eq
    · exact h.count_le hcall hmoves
    · exact h.place_move hcall hmoves halone
  · exact (congrArg (KeepsPlaces config) hstep).mpr h

/-- What an insertion does, when it finds the sessions free. -/
theorem step_inserting {metadata : SessionMetadata}
    (hcall : s.calls[i]? = some (.inserting metadata)) (hfree : s.shared.writer = none) :
    RegistryCalls.step s (.advance i) =
      { shared := { s.shared with registry := s.shared.registry.insertSession metadata }
        calls := s.calls.set i (.indexingName metadata) } := by
  simp [RegistryCalls.step, Interleaved.step, hcall, RegistryCall.move, whenFree, hfree]

/-- A call that has lost its place exceeds the limit in its next section. -/
theorem not_staysWithinLimit_step {event : RegistryEvent} (h : ¬ s.TakesLastAlone config event) :
    ¬ (RegistryCalls.step s event).StaysWithinLimit config := by
  simp only [TakesLastAlone, not_forall] at h
  obtain ⟨i, metadata, rfl, hcall, hfree, hnew, hfull, other, hmem, hother, hne⟩ := h
  obtain ⟨j, hj⟩ := List.mem_iff_getElem?.mp hmem
  have hij : i ≠ j := by
    rintro rfl
    obtain rfl := RegistryCall.inserting.inj (Option.some.inj (hj.symm.trans hcall))
    exact hne rfl
  have hstep := step_inserting hcall hfree
  generalize RegistryCalls.step s (.advance i) = t at hstep ⊢
  have hregistry : t.shared.registry = s.shared.registry.insertSession metadata := by rw [hstep]
  have hj' : t.calls[j]? = some (.inserting other) := by
    rw [hstep]
    exact (List.getElem?_set_ne hij).trans hj
  have hfree' : t.shared.writer = none := by
    rw [hstep]
    exact hfree
  rintro ⟨-, hnext⟩
  have hexceeds := hnext j
  rw [step_inserting hj' hfree', WithinLimit, count_insertSession, hregistry,
    SessionRegistry.get_insertSession, if_neg hne, count_insertSession] at hexceeds
  simp only [hother, hnew, Option.isSome_none, Bool.false_eq_true, if_false] at hexceeds
  omega

/-- Throughout a run the limit holds and no call exceeds it in its next section, exactly if no
call takes the last place while another is still to take one. -/
theorem staysWithinLimit_iff_takesLastAlone (config : SessionRegistryConfig)
    (events : List RegistryEvent) :
    Always step (StaysWithinLimit config) (new config) events ↔
      Along step (fun _ s event => s.TakesLastAlone config event) (new config) events := by
  refine always_iff_along (A := fun _ _ _ => True) (I := fun _ s => s.KeepsPlaces config)
    (fun _ _ _ => trivial) (keepsPlaces_new config) (fun _ _ h => h.staysWithinLimit) ?_ ?_
  · exact fun _ s event h _ halone => h.step halone
  · exact fun _ s event _ _ halone => not_staysWithinLimit_step halone

/-- Both calls check the limit before either inserts. -/
def bothChecked : List RegistryEvent :=
  [.start (.register (.new 0 ⟨1⟩ "build" {} [] none)),
    .start (.register (.new 0 ⟨2⟩ "test" {} [] none)),
    .advance 0, .advance 1, .advance 0, .advance 1]

/-- Two sessions are registered where one is allowed. -/
theorem withinLimit_false :
    ¬ Always step (WithinLimit { maxSessions := 1 }) (new { maxSessions := 1 }) bothChecked := by
  intro h
  exact absurd h.last (by unfold WithinLimit; decide)

end RegistryCalls

end Yuha
