import Yuha.Daemon.Admission
import Yuha.Daemon.Answering

/-!
# After a shutdown request

A shutdown request sets a flag. The accept loop reads it before it waits for a connection
and not after, and the tasks of the connections only write it. So the server serves on
until the loop comes round to its check, and each open connection for as long as its
client likes.
-/

namespace Yuha

open Library Library.Execution

/-- The task will go on to read another request, if its client sends one. -/
def ClientTask.StaysOpen (task : ClientTask) : Prop :=
  match task.phase with
  | .receiving => True
  | .replying payload last => last = false ∧ payload.length ≤ maxPayload
  | .closed => False

namespace DaemonServer

variable (codec : DaemonCodec) (server : DaemonServer)

/-- The event is a shutdown request that is read on the `i`-th served connection. -/
def ReadsShutdown (i : Nat) (frame : Payload) : Prop :=
  ∃ task, server.tasks[i]? = some task ∧ task.phase = .receiving ∧
    codec.requestFromSlice frame.val = .ok .shutdown

/-- The event is another request, and `handle_request` is called for it. -/
def Passes (event : ServerEvent) : Prop :=
  ∃ i frame ambient task request, event = .receive i frame ambient ∧
    server.tasks[i]? = some task ∧ task.phase = .receiving ∧
    codec.requestFromSlice frame.val = .ok request ∧ request ≠ .shutdown

/-- The event neither starts to serve a connection nor passes on a request. -/
def Refrains (event : ServerEvent) : Prop :=
  (step codec server event).tasks.length = server.tasks.length ∧
    ¬ server.Passes codec event

/-- No connection but the `i`-th is open, and none can be accepted and served before the
accept loop reads the flag. -/
structure WindsDown (i : Nat) : Prop where
  acceptor : server.acceptor = .accepting →
    server.config.maxClients < server.clientCount + 1
  others : ∀ j task, server.tasks[j]? = some task → j ≠ i → ¬ task.StaysOpen

/-- The flag is set, and nothing is left that could be served. -/
structure WoundDown : Prop where
  shutdown : server.shutdown = true
  acceptor : server.acceptor = .accepting →
    server.config.maxClients < server.clientCount + 1
  tasks : ∀ (j : Nat) task, server.tasks[j]? = some task → ¬ task.StaysOpen

variable {codec server}

/-- The session state changes by the cleanup and by the requests that are passed on. -/
theorem requestHandler_step_of_not_passes {event : ServerEvent}
    (h : ¬ server.Passes codec event) (hcleanup : ∀ ambient, event ≠ .cleanup ambient) :
    (step codec server event).requestHandler = server.requestHandler := by
  cases event with
  | cleanup ambient => exact absurd rfl (hcleanup ambient)
  | checkShutdown | acceptFailed =>
      simp only [step]
      split <;> rfl
  | accept =>
      simp only [step, acceptConnection]
      split
      · split <;> rfl
      · rfl
  | hangUp i | reply i _ =>
      simp only [step]
      repeat' split
      all_goals rfl
  | receive i frame ambient =>
      simp only [step]
      split
      · next task htask =>
          split
          · next hphase =>
              simp only [handleFrame]
              split
              · rfl
              · split <;> rfl
              · next request hshutdown hrequest =>
                  exact absurd ⟨i, frame, ambient, task, request, rfl, htask, hphase, hrequest,
                    hshutdown⟩ h
          · rfl
      · rfl

/-! ## What a wound-down server does -/

theorem phase_replied (task : ClientTask) (payload : Bytes) (last : Bool)
    (interruption : Option Interruption) :
    (replied task payload last interruption).phase = .closed ∨
      last = false ∧ payload.length ≤ maxPayload := by
  unfold replied
  rw [send_outcome]
  by_cases hlong : maxPayload < payload.length
  · simp [hlong]
  · cases last with
    | true => exact Or.inl (by split <;> rfl)
    | false => exact Or.inr ⟨rfl, Nat.le_of_not_lt hlong⟩

theorem not_staysOpen_of_closed {task : ClientTask} (h : task.phase = .closed) :
    ¬ task.StaysOpen := by
  simp [ClientTask.StaysOpen, h]

/-- A task that will read no request will read none later. -/
theorem not_staysOpen_taskStep {i : Nat} {task : ClientTask} (h : ¬ task.StaysOpen)
    (event : ServerEvent) : ¬ (taskStep codec server i task event).StaysOpen := by
  have hnot : task.phase ≠ .receiving := by
    intro hreceiving
    exact h (by simp [ClientTask.StaysOpen, hreceiving])
  obtain hsame | ⟨_, _, _, hphase, _⟩ | ⟨_, hphase, _⟩ |
    ⟨payload, last, interruption, _, hphase, hnext⟩ := taskStep_cases codec server i task event
  · rwa [hsame]
  · exact absurd hphase hnot
  · exact absurd hphase hnot
  · rw [hnext]
    obtain hclosed | hopen := phase_replied task payload last interruption
    · exact not_staysOpen_of_closed hclosed
    · exact absurd (by simpa [ClientTask.StaysOpen, hphase] using hopen) h

theorem WoundDown.length_step (codec : DaemonCodec) (h : server.WoundDown) (event : ServerEvent) :
    (step codec server event).tasks.length = server.tasks.length := by
  by_cases haccept : event = .accept
  · subst haccept
    simp only [DaemonServer.step]
    split
    · next hacceptor => simp [acceptConnection, h.acceptor hacceptor]
    · rfl
  · exact (counts_step_of_ne_accept codec server haccept).2.2.2

theorem WoundDown.refrains (h : server.WoundDown) (event : ServerEvent) :
    server.Refrains codec event := by
  refine ⟨h.length_step codec event, ?_⟩
  rintro ⟨i, frame, ambient, task, request, rfl, htask, hphase, _⟩
  exact h.tasks i task htask (by simp [ClientTask.StaysOpen, hphase])

theorem handleFrame_acceptor (codec : DaemonCodec) (server : DaemonServer) (ambient : Ambient)
     (task : ClientTask) (frame : Payload) :
    (handleFrame codec server ambient task frame).1.acceptor = server.acceptor ∧
      (server.shutdown = true →
        (handleFrame codec server ambient task frame).1.shutdown = true) := by
  unfold handleFrame
  repeat' split
  all_goals exact ⟨rfl, fun h => by first | rfl | exact h⟩

/-- The flag stays set, and the accept loop does not go back to wait for a connection. -/
theorem acceptor_step (codec : DaemonCodec) (h : server.shutdown = true) (event : ServerEvent) :
    (DaemonServer.step codec server event).shutdown = true ∧
      ((DaemonServer.step codec server event).acceptor = .accepting →
        event ≠ .accept ∧ server.acceptor = .accepting) := by
  cases event with
  | checkShutdown =>
      simp only [DaemonServer.step]
      split
      · simp [h]
      · next hacceptor => exact ⟨h, fun haccepting => ⟨by rintro ⟨⟩, haccepting⟩⟩
  | accept =>
      simp only [DaemonServer.step, acceptConnection]
      repeat' split
      · exact ⟨h, by rintro ⟨⟩⟩
      · exact ⟨h, by rintro ⟨⟩⟩
      · next hacceptor => exact ⟨h, fun haccepting => absurd haccepting hacceptor⟩
  | acceptFailed =>
      simp only [DaemonServer.step]
      split
      · exact ⟨h, by rintro ⟨⟩⟩
      · exact ⟨h, fun haccepting => ⟨by rintro ⟨⟩, haccepting⟩⟩
  | receive i frame ambient =>
      simp only [DaemonServer.step]
      repeat' split
      · next task _ _ _ =>
          obtain ⟨hacceptor, hshutdown⟩ :=
            handleFrame_acceptor codec server ambient task frame
          exact ⟨hshutdown h, fun haccepting => ⟨by rintro ⟨⟩, hacceptor ▸ haccepting⟩⟩
      all_goals exact ⟨h, fun haccepting => ⟨by rintro ⟨⟩, haccepting⟩⟩
  | hangUp i | reply i _ | cleanup _ =>
      simp only [DaemonServer.step]
      repeat' split
      all_goals exact ⟨h, fun haccepting => ⟨by rintro ⟨⟩, haccepting⟩⟩

theorem WoundDown.step (h : server.WoundDown) (event : ServerEvent) :
    (DaemonServer.step codec server event).WoundDown := by
  obtain ⟨hshutdown, hacceptor⟩ := acceptor_step codec h.shutdown event
  refine ⟨hshutdown, fun haccepting => ?_, fun j task htask => ?_⟩
  · obtain ⟨hne, hbefore⟩ := hacceptor haccepting
    obtain ⟨hconfig, hcount, _⟩ := counts_step_of_ne_accept codec server hne
    rw [hconfig, hcount]
    exact h.acceptor hbefore
  · have hlt : j < server.tasks.length := by
      rw [← h.length_step codec event]
      exact (List.getElem?_eq_some_iff.mp htask).1
    have hbefore := List.getElem?_eq_getElem hlt
    obtain rfl := Option.some.inj ((getElem?_step_of_some codec hbefore event).symm.trans htask)
    exact not_staysOpen_taskStep (h.tasks j _ hbefore) event

/-! ## The shutdown request -/

/-- The task that reads a shutdown request answers it, and reads no other request. -/
theorem handleFrame_shutdown (server : DaemonServer) {frame : Payload}
    (h : codec.requestFromSlice frame.val = .ok .shutdown) (ambient : Ambient)
    (task : ClientTask) :
    (handleFrame codec server ambient task frame).1 = { server with shutdown := true } ∧
      ¬ (handleFrame codec server ambient task frame).2.StaysOpen := by
  unfold handleFrame
  rw [h]
  dsimp only
  split <;> exact ⟨rfl, by simp [ClientTask.StaysOpen]⟩

theorem step_receive_shutdown {i : Nat} {frame : Payload}
    (h : server.ReadsShutdown codec i frame) (ambient : Ambient) :
    ∃ task, ¬ task.StaysOpen ∧
      step codec server (.receive i frame ambient) =
        { server with shutdown := true, tasks := server.tasks.set i task } := by
  obtain ⟨task, htask, hphase, hrequest⟩ := h
  obtain ⟨hserver, hopen⟩ := handleFrame_shutdown server hrequest ambient task
  refine ⟨_, hopen, ?_⟩
  simp only [step, htask, hphase, hserver]

theorem woundDown_receive {i : Nat} {frame : Payload} (h : server.ReadsShutdown codec i frame)
    (hdown : server.WindsDown i) (ambient : Ambient) :
    (step codec server (.receive i frame ambient)).WoundDown := by
  obtain ⟨task, hopen, hstep⟩ := step_receive_shutdown h ambient
  rw [hstep]
  refine ⟨rfl, hdown.acceptor, fun j task' htask' => ?_⟩
  by_cases hj : j = i
  · subst hj
    obtain ⟨_, rfl⟩ : _ ∧ task = task' := by simpa [List.getElem?_set] using htask'
    exact hopen
  · refine hdown.others j task' ?_ hj
    rwa [List.getElem?_set_ne (Ne.symm hj)] at htask'

/-- A task that stays open comes to read a ping, and the ping is passed on. -/
theorem exists_passes {frame : Payload} (hping : codec.requestFromSlice frame.val = .ok .ping)
    {j : Nat} {task : ClientTask} (htask : server.tasks[j]? = some task) (h : task.StaysOpen)
    (ambient : Ambient) :
    ∃ events, ¬ Along (step codec) (fun _ server event => server.Refrains codec event)
      server events := by
  have hpasses : ∀ (server : DaemonServer) task, server.tasks[j]? = some task →
      task.phase = .receiving → server.Passes codec (.receive j frame ambient) :=
    fun _ task htask hphase => ⟨j, frame, ambient, task, .ping, rfl, htask, hphase, hping, by
      rintro ⟨⟩⟩
  cases hphase : task.phase with
  | receiving =>
      refine ⟨[.receive j frame ambient], fun hrefrains => ?_⟩
      exact (along_cons.mp hrefrains).1.2 (hpasses server task htask hphase)
  | replying payload last =>
      obtain ⟨rfl, hfits⟩ : last = false ∧ payload.length ≤ maxPayload := by
        simpa [ClientTask.StaysOpen, hphase] using h
      refine ⟨[.reply j none, .receive j frame ambient], fun hrefrains => ?_⟩
      have hreplied := getElem?_step_of_some codec htask (.reply j none)
      refine (along_cons.mp (along_cons.mp hrefrains).2).1.2 (hpasses _ _ hreplied ?_)
      simp [taskStep, hphase, replied, send_outcome, Nat.not_lt.mpr hfits]
  | closed =>
      simp [ClientTask.StaysOpen, hphase] at h

/-- After a shutdown request no connection is served and no request passed on, whatever
happens, exactly if the server was about to wind down when it read the request. -/
theorem refrains_iff_windsDown (hping : ∃ frame : Payload,
      codec.requestFromSlice frame.val = .ok .ping)
    {i : Nat} {frame : Payload} (h : server.ReadsShutdown codec i frame) (ambient : Ambient) :
    (∀ events, Along (step codec) (fun _ server event => server.Refrains codec event)
        (step codec server (.receive i frame ambient)) events) ↔
      server.WindsDown i := by
  constructor
  · intro hrefrains
    obtain ⟨ended, _, hstep⟩ := step_receive_shutdown h ambient
    refine ⟨fun haccepting => ?_, fun j task htask hj hopen => ?_⟩
    · by_contra hroom
      have haccept := (along_cons.mp (hrefrains [.accept])).1.1
      rw [hstep] at haccept
      simp [step, haccepting, acceptConnection, hroom] at haccept
    · obtain ⟨pinged, hpinged⟩ := hping
      have hother : (step codec server (.receive i frame ambient)).tasks[j]? = some task := by
        rw [hstep, List.getElem?_set_ne (Ne.symm hj), htask]
      obtain ⟨events, hnot⟩ := exists_passes hpinged hother hopen ambient
      exact hnot (hrefrains events)
  · intro hdown events
    refine fun past event hp => ?_
    have hwound := (show Along (step codec) (fun _ _ _ => True) _ events from
      fun _ _ _ => trivial).invariant (I := fun _ server => server.WoundDown)
      (woundDown_receive h hdown ambient) (fun _ _ event hserver _ => hserver.step event) past
      ((List.prefix_append past [event]).trans hp)
    exact hwound.refrains event

/-! ## A shutdown with one client and with two -/

/-- The texts `serde_json` reads and writes for a ping and for a shutdown. -/
def shutdownCodec : DaemonCodec where
  requestFromSlice bytes :=
    if bytes = ascii "\"Shutdown\"" then .ok .shutdown else pingCodec.requestFromSlice bytes
  responseToVec := pingCodec.responseToVec

def shutdownFrame : Payload := ⟨ascii "\"Shutdown\"", by decide⟩

/-- One client is connected, and the accept loop has not come to its check again. -/
def oneClient : DaemonServer := run (step shutdownCodec) (new {}) [.checkShutdown, .accept]

theorem refrains_iff_windsDown_oneClient :
    oneClient.ReadsShutdown shutdownCodec 0 shutdownFrame ∧
      ∀ events, Along (step shutdownCodec)
        (fun _ server event => server.Refrains shutdownCodec event)
        (step shutdownCodec oneClient (.receive 0 shutdownFrame idleAmbient)) events := by
  have hreads : oneClient.ReadsShutdown shutdownCodec 0 shutdownFrame := ⟨_, rfl, rfl, by decide⟩
  refine ⟨hreads, (refrains_iff_windsDown ⟨pingFrame, by decide⟩ hreads idleAmbient).mpr
    ⟨by decide, fun j task htask hj => ?_⟩⟩
  have hlt : j < 1 := (List.getElem?_eq_some_iff.mp htask).1
  omega

/-- Two clients are connected, and the accept loop waits for a third. -/
def twoClients : DaemonServer :=
  run (step shutdownCodec) (new {})
    [.checkShutdown, .accept, .checkShutdown, .accept, .checkShutdown]

/-- The first client shuts the daemon down. Then a third is served, or the second has its
request handled. -/
theorem refrains_twoClients_false :
    twoClients.ReadsShutdown shutdownCodec 0 shutdownFrame ∧
      ¬ Along (step shutdownCodec) (fun _ server event => server.Refrains shutdownCodec event)
        (step shutdownCodec twoClients (.receive 0 shutdownFrame idleAmbient)) [.accept] ∧
      ¬ Along (step shutdownCodec) (fun _ server event => server.Refrains shutdownCodec event)
        (step shutdownCodec twoClients (.receive 0 shutdownFrame idleAmbient))
        [.receive 1 pingFrame idleAmbient] := by
  refine ⟨⟨_, rfl, rfl, by decide⟩, fun h => ?_, fun h => ?_⟩
  · exact absurd (along_cons.mp h).1.1 (by decide)
  · exact (along_cons.mp h).1.2 ⟨1, pingFrame, idleAmbient, _, .ping, rfl, rfl, rfl, by decide,
      by rintro ⟨⟩⟩

end DaemonServer

end Yuha
