import Yuha.Daemon.HandlerCalls
import Yuha.Library.Serial

/-!
# The tasks of the daemon

Each request is handled in the task of its client, next to the requests of other clients
and the cleanup. Served one after the other, the tasks go through the states of the handler
that does each of them in one go.
-/

namespace Yuha

open Library Library.Program Library.Execution

/-- The tasks in progress. -/
abbrev DaemonTasks := Calls ServingHandler HandlerAction HandlerAction.Answer

abbrev DaemonTurn := Turn DaemonInput Ambient

namespace ServingHandler

def new (config : SessionManagerConfig) : ServingHandler where
  handler := .new (.new config)

variable {config : SessionManagerConfig}

theorem BuiltFrom.step {s : ServingHandler} (h : s.handler.sessionManager.BuiltFrom config)
    (event : DaemonEvent) : (s.step event).handler.sessionManager.BuiltFrom config := by
  rw [← run_program h]
  exact HandlerProgram.builtFrom_run event.ambient h _

end ServingHandler

namespace DaemonTasks

variable (config : SessionManagerConfig)

def new : DaemonTasks := ⟨.new config, []⟩

abbrev step (s : DaemonTasks) (turn : DaemonTurn) : DaemonTasks :=
  Calls.step (DaemonInput.program config) ServingHandler.exec s turn

/-- The event whose task is served. -/
def event (served : Calls.Served DaemonInput Ambient) : DaemonEvent where
  input := served.operation
  ambient := served.environment

variable {config}

theorem run_carryOut {s : ServingHandler} (h : s.handler.sessionManager.BuiltFrom config)
    (served : List (Calls.Served DaemonInput Ambient)) :
    run (Calls.carryOut (DaemonInput.program config) ServingHandler.exec) s served =
      run ServingHandler.step s (served.map event) := by
  induction served generalizing s with
  | nil => rfl
  | cons first more ih =>
      have hfirst : Calls.carryOut (DaemonInput.program config) ServingHandler.exec s first =
          s.step (event first) := ServingHandler.run_program h (event first)
      rw [run_cons, List.map_cons, run_cons, hfirst]
      exact ih (ServingHandler.BuiltFrom.step h (event first))

variable (config)

/-- Tasks that are served one after the other leave the handler, and send the responses,
that the handler does in one go for each event; and every list of events is served so. -/
theorem serves_in_one_go :
    (∀ served, Along (step config) (fun _ s turn => s.StartsAlone turn) (new config)
          (Calls.serialTurns 0 served) →
        (run (step config) (new config) (Calls.serialTurns 0 served)).Quiescent →
        (run (step config) (new config) (Calls.serialTurns 0 served)).shared =
          run ServingHandler.step (.new config) (served.map event)) ∧
      ∀ events : List DaemonEvent, ∃ served, served.map event = events ∧
        Along (step config) (fun _ s turn => s.StartsAlone turn) (new config)
          (Calls.serialTurns 0 served) ∧
        (run (step config) (new config) (Calls.serialTurns 0 served)).Quiescent := by
  constructor
  · intro served halone hended
    calc
      (run (step config) (new config) (Calls.serialTurns 0 served)).shared =
          run (Calls.carryOut (DaemonInput.program config) ServingHandler.exec) (.new config)
            served := Calls.shared_run_serialTurns (s := new config) (n := 0) rfl halone hended
      _ = run ServingHandler.step (.new config) (served.map event) :=
          run_carryOut (SessionManager.builtFrom_new config) served
  · intro events
    obtain ⟨served, hserved, halone, hended⟩ := Calls.exists_serialTurns
      (DaemonInput.program config) ServingHandler.exec
      (events.map fun event => (event.input, event.ambient)) (s := new config) (n := 0)
      (fun p hp => absurd hp List.not_mem_nil) rfl
    refine ⟨served, ?_, halone, hended⟩
    calc
      served.map event = (served.map fun one => (one.operation, one.environment)).map
          fun one => ⟨one.1, one.2⟩ := by rw [List.map_map]; rfl
      _ = events := by rw [hserved]; simp [Function.comp_def]

end DaemonTasks

end Yuha
