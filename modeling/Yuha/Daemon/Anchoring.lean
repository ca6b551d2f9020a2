import Yuha.Daemon.Simulation

/-!
# Clients and registered sessions

Requests change the registry and `active_clients` together; the cleanup callback only
knows the registry. A client outlives its session exactly when a cleanup expires a
session that is in use.
-/

namespace Yuha

open Library Execution

namespace RequestHandler

/-- Every id in `active_clients` is a registered session. -/
def ClientsRegistered (handler : RequestHandler) : Prop :=
  ∀ id ∈ handler.activeClients, ∃ metadata,
    handler.sessionManager.getSession id = some metadata

theorem clientsRegistered_iff_anchored {handler : RequestHandler} :
    handler.ClientsRegistered ↔ handler.table.Anchored := by
  simp only [ClientsRegistered, SessionTable.Anchored, registered_iff]
  rfl

/-- A command succeeds on registered sessions only. -/
def ExecutesRegistered (start : RequestHandler) (events : List DaemonEvent) : Prop :=
  ∀ past event client id command result, past ++ [event] <+: events →
    event.input = .request client (.executeCommand id command) →
    (run step start past).respond event = some (.commandSuccess result) →
    ∃ metadata, (run step start past).sessionManager.getSession id = some metadata

/-- The cleanup tick, if the event is one, finds no session with a client due to expire. -/
def SparesClients (handler : RequestHandler) (event : DaemonEvent) : Prop :=
  event.input = .cleanup →
    ∀ id ∈ handler.activeClients, ¬ handler.sessionManager.Expires event.ambient.now id

theorem sparesClients_iff {handler : RequestHandler} {event : DaemonEvent} :
    handler.SparesClients event ↔
      ∀ ids, handler.move event = .expire ids → ∀ id ∈ handler.table.connected, id ∉ ids := by
  constructor
  · intro h ids hexpire
    rcases handler.move_cases event with
      ⟨name, transportConfig, tags, description, hmove⟩ | hmove | ⟨_, _, hmove⟩ |
        ⟨hcleanup, hmove⟩
    · rw [hmove] at hexpire
      rcases handler.createMove_cases event.ambient name transportConfig tags description with
        ⟨_, hcreate⟩ | hcreate | hcreate
      all_goals rw [hcreate] at hexpire; cases hexpire
    · rw [hmove] at hexpire
      cases hexpire
    · rw [hmove] at hexpire
      cases hexpire
    · rw [hmove] at hexpire
      cases hexpire
      exact h hcleanup
  · intro h hcleanup
    exact h {id | handler.sessionManager.Expires event.ambient.now id} (by simp [move, hcleanup])

theorem clientsRegistered_step_iff {issued : List SessionId} {handler : RequestHandler}
    (h : handler.Consistent issued) (hclients : handler.ClientsRegistered)
    {event : DaemonEvent} (hfresh : event.ambient.freshId ∉ issued) :
    (handler.step event).ClientsRegistered ↔ handler.SparesClients event := by
  rw [clientsRegistered_iff_anchored, (step_spec h event hfresh).2,
    SessionMove.anchored_apply (clientsRegistered_iff_anchored.mp hclients),
    sparesClients_iff]

/-- In a run of a fresh handler every client belongs to a registered session, and
commands succeed on registered sessions only, exactly if no cleanup tick of the run finds
a session with a client due to expire. -/
theorem clientsRegistered_iff_sparesClients (config : SessionManagerConfig)
    (events : List DaemonEvent) (hfresh : (issuedIds events).Nodup) :
    (Always step ClientsRegistered (new (.new config)) events ∧
        ExecutesRegistered (new (.new config)) events) ↔
      Along step (fun _ handler event => handler.SparesClients event)
        (new (.new config)) events := by
  have hexecutes : Always step ClientsRegistered (new (.new config)) events →
      ExecutesRegistered (new (.new config)) events := by
    intro h past event client id command result hp hinput hrespond
    rcases (run step (new (.new config)) past).handleExecuteCommand_eq
        event.ambient id command with ⟨hid, _⟩ | ⟨_, heq⟩
    · exact h past ((List.prefix_append past [event]).trans hp) id hid
    · simp [respond, hinput, handleRequest, heq] at hrespond
  rw [and_iff_left_of_imp hexecutes]
  apply always_iff_along_of_step_iff config hfresh (fun id hid => by simp [new] at hid)
  intro issued handler event hconsistent hclients hnew
  exact clientsRegistered_step_iff hconsistent hclients hnew

/-! ## Two runs -/

/-- Create a session and use it between two cleanup ticks that leave it alone. -/
def sparedEvents : List DaemonEvent :=
  [.atSeconds 0 1 (.request 1 (.createSession "build" {} [] none)),
    .atSeconds 60 2 .cleanup,
    .atSeconds 61 3 (.request 1 (.executeCommand ⟨1⟩ .getClipboard))]

theorem clientsRegistered_iff_sparesClients_spared :
    Always step ClientsRegistered (new (.new (DaemonConfig.sessionConfig {}))) sparedEvents ∧
      ExecutesRegistered (new (.new (DaemonConfig.sessionConfig {}))) sparedEvents := by
  apply (clientsRegistered_iff_sparesClients _ sparedEvents (by decide)).mpr
  refine along_cons.mpr ⟨nofun, along_cons.mpr ⟨fun _ => ?_,
    along_cons.mpr ⟨nofun, along_nil⟩⟩⟩
  simp only [AList.mem_keys]
  decide

/-- A session that is in use when it reaches its maximum lifetime. -/
def expiryEvents : List DaemonEvent :=
  [.atSeconds 0 1 (.request 1 (.createSession "build" {} [] none)),
    .atSeconds 3601 2 .cleanup,
    .atSeconds 3602 3 (.request 1 (.executeCommand ⟨1⟩ .getClipboard))]

/-- The tick unregisters the session and leaves its client, on which a command succeeds. -/
theorem clientsRegistered_expiry_false :
    (issuedIds expiryEvents).Nodup ∧
      ¬ Always step ClientsRegistered (new (.new (DaemonConfig.sessionConfig {})))
        expiryEvents ∧
      ¬ ExecutesRegistered (new (.new (DaemonConfig.sessionConfig {}))) expiryEvents := by
  have hgone : (run step (new (.new (DaemonConfig.sessionConfig {})))
      (expiryEvents.take 2)).sessionManager.getSession ⟨1⟩ = none := by decide
  refine ⟨by decide, fun h => ?_, fun h => ?_⟩
  · obtain ⟨metadata, hget⟩ := h (expiryEvents.take 2) (List.take_prefix _ _) ⟨1⟩ (by decide)
    exact absurd (hgone.symm.trans hget) nofun
  · obtain ⟨metadata, hget⟩ := h (expiryEvents.take 2) expiryEvents[2] 1 ⟨1⟩ .getClipboard
      (.clipboardContent "Clipboard content placeholder") (List.prefix_refl _) rfl (by decide)
    exact absurd (hgone.symm.trans hget) nofun

end RequestHandler

end Yuha
