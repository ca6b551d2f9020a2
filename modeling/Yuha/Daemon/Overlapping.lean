import Yuha.Daemon.Listing
import Yuha.Daemon.Telling

/-!
# Clients whose requests overlap

The tasks of a daemon take their turns in any order, so that requests of several clients are
handled at the same time. Each client is told what the programs of its own requests answered,
in their order.
-/

namespace Yuha

open Library Library.Program Execution DaemonServer

/-- The event is not one that ends a call of the client early, or writes in its place. -/
def DaemonSystemEvent.Keeps (i : Nat) : DaemonSystemEvent → Prop
  | .stop j _ => j ≠ i
  | .write j _ => j ≠ i
  | _ => True

/-- The connection that the event is on. -/
def DaemonSystemEvent.connection : DaemonSystemEvent → Option Nat
  | .checkShutdown | .accept | .acceptFailed | .tick | .sweep _ => none
  | .take i | .handle i _ | .reply i _ | .hangUp i | .call i _ _ | .receive i | .closed i
  | .stop i _ | .write i _ => some i

/-- The task goes on to send the response, or to the next frame if it cannot be written; if that
of a shutdown cannot, it ends. -/
theorem ClientTask.phase_answer (codec : DaemonCodec) (handling : Handling)
    (response : DaemonResponse) (task : ClientTask) :
    (∃ written last, codec.responseToVec response = .ok written ∧
        (task.answer codec handling response).phase = .replying written last) ∨
      (task.answer codec handling response).phase = task.phase ∨
      (task.answer codec handling response).phase = .closed := by
  unfold ClientTask.answer
  dsimp only
  split
  · next hpayload _ => exact .inl ⟨_, true, hpayload, rfl⟩
  · next hpayload _ => exact .inl ⟨_, false, hpayload, rfl⟩
  · exact .inr (.inr rfl)
  · exact .inr (.inl rfl)

namespace DaemonServer

variable {codec : DaemonCodec} {server : DaemonServer} {i j : Nat}

/-- The event is of the accept loop, or of an await of a task after its `receive` has returned
no frame. -/
def Quiet : ServerEvent → Prop
  | .receive _ _ _ | .cleanup _ => False
  | _ => True

/-- The handler and the configuration are what they were. -/
theorem step_of_quiet {event : ServerEvent} (h : Quiet event) :
    (step codec server event).requestHandler = server.requestHandler ∧
      (step codec server event).config = server.config := by
  cases event with
  | receive | cleanup => exact h.elim
  | accept =>
      simp only [step, acceptConnection]
      repeat' split
      all_goals exact ⟨rfl, rfl⟩
  | checkShutdown | acceptFailed | hangUp | reply =>
      simp only [step]
      repeat' split
      all_goals exact ⟨rfl, rfl⟩

theorem phaseAt_modify_of_ne (h : j ≠ i) (change : ClientTask → ClientTask) :
    phaseAt { server with tasks := server.tasks.modify j change } i = server.phaseAt i := by
  simp only [phaseAt, List.getElem?_modify_ne _ _ h]

theorem phaseAt_modify_self (change : ClientTask → ClientTask) :
    phaseAt { server with tasks := server.tasks.modify i change } i =
      ((server.tasks[i]?).map fun task => (change task).phase).getD .receiving := by
  simp [phaseAt, Function.comp_def]

end DaemonServer

namespace DaemonSystem

variable {codec : DaemonCodec} {client : DaemonClientCodec} {s t : DaemonSystem} {i j : Nat}
  {answers : List (DaemonRequest × DaemonResponse)} {started : List DaemonInput}

/-! ## What the tasks share -/

@[simp] theorem links_setLink_self (s : DaemonSystem) (i : Nat) (link : DaemonLink) :
    (s.setLink i link).links i = link := Function.update_self ..

theorem links_setLink_of_ne (h : i ≠ j) (s : DaemonSystem) (link : DaemonLink) :
    (s.setLink j link).links i = s.links i := Function.update_of_ne h ..

@[simp] theorem tasks_setLink (s : DaemonSystem) (i : Nat) (link : DaemonLink) :
    (s.setLink i link).tasks = s.tasks := rfl

@[simp] theorem tasks_onTasks (s : DaemonSystem) (turn : DaemonTurn) : (s.onTasks turn).tasks =
    DaemonTasks.step s.server.config.sessionConfig s.tasks turn := rfl

@[simp] theorem tasks_raiseFlag (s : DaemonSystem) (request : DaemonRequest) :
    (s.raiseFlag request).tasks = s.tasks := by
  cases request <;> rfl

@[simp] theorem config_raiseFlag (s : DaemonSystem) (request : DaemonRequest) :
    (s.raiseFlag request).server.config = s.server.config := by
  cases request <;> rfl

theorem tasks_onServer {event : ServerEvent} (h : Quiet event) (s : DaemonSystem) :
    (s.onServer codec event).tasks = s.tasks := by
  simp only [tasks, onServer, (step_of_quiet h).1]

/-- The tasks do what the turn of a step says. -/
theorem tasks_step (s : DaemonSystem) (event : DaemonSystemEvent) :
    (s.step codec client event).tasks =
      run (DaemonTasks.step s.server.config.sessionConfig) s.tasks (s.turn codec event).toList := by
  cases event with
  | checkShutdown | accept | acceptFailed =>
      simp only [step, turn]
      exact tasks_onServer (by trivial) s
  | tick =>
      simp only [step, tick, turn]
      split
      · rfl
      · split <;> rfl
  | sweep ambient =>
      simp only [step, turn]
      cases s.cleanup <;> rfl
  | take j =>
      simp only [step, turn]
      cases s.arriving j with
      | none => rfl
      | some p =>
          simp only [tasks_setLink, taken]
          cases codec.requestFromSlice p.1.val with
          | error e => rfl
          | ok request =>
              show ((s.raiseFlag request).onTasks (.start (.request j request))).tasks = _
              simp
  | handle j ambient =>
      simp only [step, turn]
      cases s.handling j with
      | none => rfl
      | some handling =>
          simp only [handled]
          split <;> rfl
  | reply j interruption =>
      simp only [step, turn]
      cases s.leaving j with
      | none => rfl
      | some payload =>
          simp only [tasks_setLink]
          exact tasks_onServer (by trivial) s
  | hangUp j =>
      simp only [step, turn]
      cases s.handling j with
      | none => exact tasks_onServer (by trivial) s
      | some handling => rfl
  | call | receive | closed | stop | write =>
      simp only [step, turn]
      repeat' split
      all_goals rfl

theorem config_step (s : DaemonSystem) (event : DaemonSystemEvent) :
    (s.step codec client event).server.config = s.server.config := by
  cases event with
  | checkShutdown | accept | acceptFailed =>
      simp only [step, onServer]
      exact (step_of_quiet (by trivial)).2
  | tick =>
      simp only [step, tick]
      repeat' split
      all_goals rfl
  | sweep ambient =>
      simp only [step]
      split <;> rfl
  | take j =>
      simp only [step]
      split
      · simp only [taken]
        split
        · rfl
        · exact config_raiseFlag s _
      · rfl
  | handle j ambient =>
      simp only [step]
      split
      · simp only [handled]
        split <;> rfl
      · rfl
  | reply j interruption =>
      simp only [step, onServer]
      split
      · exact (step_of_quiet (by trivial)).2
      · rfl
  | hangUp j =>
      simp only [step, onServer]
      split
      · exact (step_of_quiet (by trivial)).2
      · rfl
  | call | receive | closed | stop | write =>
      simp only [step]
      repeat' split
      all_goals rfl

/-! ## Whose programs they are -/

/-- The requests in the tasks, and the last tick, are where their programs were started. -/
structure Placed (started : List DaemonInput) (s : DaemonSystem) : Prop where
  length : s.calls.length = started.length
  handling : ∀ i handling, s.handling i = some handling →
    started[handling.call]? = some (.request i handling.request)
  cleanup : ∀ call, s.cleanup = some call → started[call]? = some .cleanup

theorem placed_new (config : DaemonConfig) : (new config).Placed [] where
  length := rfl
  handling _ _ h := nomatch h
  cleanup _ h := nomatch h

/-- Nothing was started, and no task is handling another request. -/
theorem Placed.of_handling (h : s.Placed started) (hlength : t.calls.length = s.calls.length)
    (hhandling : ∀ i handling, t.handling i = some handling → s.handling i = some handling)
    (hcleanup : t.cleanup = s.cleanup) : t.Placed started where
  length := hlength.trans h.length
  handling i handling hi := h.handling i handling (hhandling i handling hi)
  cleanup call hcall := h.cleanup call (hcleanup.symm.trans hcall)

theorem Placed.of_eq (h : s.Placed started) (hlength : t.calls.length = s.calls.length)
    (hhandling : t.handling = s.handling) (hcleanup : t.cleanup = s.cleanup) :
    t.Placed started :=
  h.of_handling hlength (fun _ _ hi => hhandling ▸ hi) hcleanup

theorem length_calls_advance (s : DaemonSystem) (call : Nat) (ambient : Ambient) :
    (s.onTasks (.advance call ambient)).calls.length = s.calls.length :=
  Calls.length_step_advance _ _ s.tasks call ambient

theorem calls_start (s : DaemonSystem) (input : DaemonInput) :
    (s.onTasks (.start input)).calls =
      s.calls ++ [input.program s.server.config.sessionConfig] := rfl

theorem Placed.getElem?_append {call : Nat} {input : DaemonInput}
    (h : started[call]? = some input) (more : List DaemonInput) :
    (started ++ more)[call]? = some input := by
  rw [List.getElem?_append_left (List.getElem?_eq_some_iff.mp h).1, h]

/-- The program of a request is started. -/
theorem Placed.take (h : s.Placed started) {frame : Payload} {request : DaemonRequest}
    (hdecodes : codec.requestFromSlice frame.val = .ok request) (i : Nat) :
    (s.taken codec i frame).Placed (started ++ [.request i request]) := by
  have hcalls : (s.raiseFlag request).calls = s.calls := congrArg Calls.calls (tasks_raiseFlag s _)
  have hhandling : (s.raiseFlag request).handling = s.handling := by cases request <;> rfl
  have hcleanup : (s.raiseFlag request).cleanup = s.cleanup := by cases request <;> rfl
  simp only [taken, hdecodes]
  constructor
  · show ((s.raiseFlag request).onTasks (.start (.request i request))).calls.length = _
    rw [calls_start, hcalls, List.length_append, List.length_append, h.length]
    rfl
  · intro j handling hj
    simp only [Function.update_apply] at hj
    split at hj
    · next hji =>
        obtain rfl := Option.some.inj hj
        rw [hji, h.length]
        exact List.getElem?_concat_length
    · exact getElem?_append (h.handling j handling (hhandling ▸ hj)) _
  · intro call hcall
    exact getElem?_append (h.cleanup call (hcleanup ▸ hcall)) _

theorem Placed.tick (h : s.Placed started) {call : Nat} (hcall : call = s.calls.length) :
    Placed (started ++ [.cleanup]) { s.onTasks (.start .cleanup) with cleanup := some call } := by
  constructor
  · show (s.onTasks (.start .cleanup)).calls.length = _
    rw [calls_start, List.length_append, List.length_append, h.length]
    rfl
  · exact fun i handling hi => getElem?_append (h.handling i handling hi) _
  · intro call' hcall'
    obtain rfl := Option.some.inj hcall'
    rw [hcall, h.length]
    exact List.getElem?_concat_length

theorem Placed.handled (h : s.Placed started) {handling : Handling}
    (ambient : Ambient) : (s.handled codec i handling ambient).Placed started := by
  have hafter : (s.onTasks (.advance handling.call ambient)).Placed started :=
    h.of_eq (length_calls_advance s _ _) rfl rfl
  simp only [DaemonSystem.handled]
  split
  · refine hafter.of_handling rfl (fun j other hj => ?_) rfl
    simp only [Function.update_apply] at hj
    split at hj
    · cases hj
    · exact hj
  · exact hafter

theorem Placed.step (h : s.Placed started) (event : DaemonSystemEvent) :
    (s.step codec client event).Placed
      (started ++ DaemonTasks.started (s.turn codec event).toList) := by
  have hsame : ∀ {t : DaemonSystem}, t.Placed started →
      t.Placed (started ++ DaemonTasks.started []) := fun ht => (List.append_nil started).symm ▸ ht
  cases event with
  | checkShutdown | accept | acceptFailed => exact hsame (h.of_eq rfl rfl rfl)
  | tick =>
      simp only [DaemonSystem.step, DaemonSystem.tick, turn]
      split
      · exact hsame h
      · split
        · exact hsame h
        · exact h.tick rfl
  | sweep ambient =>
      simp only [DaemonSystem.step, turn]
      cases s.cleanup with
      | none => exact hsame h
      | some call => exact hsame (h.of_eq (length_calls_advance s call ambient) rfl rfl)
  | take j =>
      simp only [DaemonSystem.step, turn]
      cases s.arriving j with
      | none => exact hsame h
      | some p =>
          cases hdecodes : codec.requestFromSlice p.1.val with
          | error e =>
              simp only [taken, hdecodes]
              exact hsame (h.of_eq rfl rfl rfl)
          | ok request =>
              simp only [hdecodes]
              exact (h.take hdecodes j).of_eq rfl rfl rfl
  | handle j ambient =>
      simp only [DaemonSystem.step, turn]
      cases s.handling j with
      | none => exact hsame h
      | some handling => exact hsame (h.handled ambient)
  | reply j interruption =>
      simp only [DaemonSystem.step, turn]
      cases s.leaving j <;> exact hsame (h.of_eq rfl rfl rfl)
  | hangUp j =>
      simp only [DaemonSystem.step, turn]
      cases s.handling j <;> exact hsame (h.of_eq rfl rfl rfl)
  | call | receive | closed | stop | write =>
      simp only [DaemonSystem.step, turn]
      repeat' split
      all_goals exact hsame (h.of_eq rfl rfl rfl)

/-! ## One connection among others -/

def placeAt (s : DaemonSystem) (i : Nat) : TaskPlace where
  phase := s.server.phaseAt i
  handling := (s.handling i).map fun handling => (handling.request, s.calls[handling.call]?)

/-- What corresponds on one of the connections. -/
abbrev CorrespondsAt (codec : DaemonCodec) (i : Nat) (s : DaemonSystem)
    (answers : List (DaemonRequest × DaemonResponse)) : Prop :=
  (s.links i).Corresponds codec (s.placeAt i) answers

theorem placeAt_eq (hphase : t.server.phaseAt i = s.server.phaseAt i)
    (hhandling : t.handling i = s.handling i)
    (hcalls : ∀ handling, s.handling i = some handling →
      t.calls[handling.call]? = s.calls[handling.call]?) : t.placeAt i = s.placeAt i := by
  simp only [placeAt, hphase, hhandling]
  cases hi : s.handling i with
  | none => rfl
  | some handling => rw [Option.map_some, Option.map_some, hcalls handling hi]

theorem placeAt_of_none (h : s.handling i = none) :
    s.placeAt i = .await (s.server.phaseAt i) := by
  simp only [placeAt, h, Option.map_none]

theorem placeAt_of_some {handling : Handling} (h : s.handling i = some handling) :
    s.placeAt i =
      ⟨s.server.phaseAt i, some (handling.request, s.calls[handling.call]?)⟩ := by
  simp only [placeAt, h, Option.map_some]

/-- The program of a task stays where it is when another one is started, -/
theorem placeAt_start (h : s.Placed started) (input : DaemonInput) (i : Nat) :
    (s.onTasks (.start input)).placeAt i = s.placeAt i := by
  refine placeAt_eq rfl rfl fun handling hi => ?_
  have hlt := (List.getElem?_eq_some_iff.mp (h.handling i handling hi)).1
  rw [calls_start, List.getElem?_append_left (h.length ▸ hlt)]

/-- and when another one goes on. -/
theorem placeAt_advance (h : s.Placed started) {call : Nat} {input : DaemonInput}
    (hcall : started[call]? = some input) (hother : ∀ request, input ≠ .request i request)
    (ambient : Ambient) : (s.onTasks (.advance call ambient)).placeAt i = s.placeAt i := by
  refine placeAt_eq rfl rfl fun handling hi => ?_
  have hne : handling.call ≠ call := by
    rintro rfl
    exact hother handling.request (Option.some.inj (hcall.symm.trans (h.handling i handling hi)))
  exact Calls.getElem?_step_advance_of_ne _ _ hne s.tasks ambient

theorem placeAt_modifyTask (hne : j ≠ i) (s : DaemonSystem) (change : ClientTask → ClientTask) :
    (s.modifyTask j change).placeAt i = s.placeAt i :=
  placeAt_eq (phaseAt_modify_of_ne hne change) rfl fun _ _ => rfl

theorem placeAt_raiseFlag (s : DaemonSystem) (request : DaemonRequest) (i : Nat) :
    (s.raiseFlag request).placeAt i = s.placeAt i := by
  cases request <;> rfl

theorem arriving_eq_some {payload : Payload} {rest : List Payload}
    (h : s.arriving i = some (payload, rest)) : ∃ task, s.server.tasks[i]? = some task ∧
      task.phase = .receiving ∧ s.handling i = none ∧ (s.links i).toDaemon = payload :: rest := by
  unfold arriving at h
  split at h
  · next task payload' rest' htask hhandling htoDaemon =>
      split at h
      · next hphase =>
          cases h
          exact ⟨task, htask, hphase, hhandling, htoDaemon⟩
      · cases h
  · cases h

theorem leaving_eq_some {payload : Bytes} (h : s.leaving i = some payload) :
    ∃ task last, s.server.tasks[i]? = some task ∧ task.phase = .replying payload last := by
  unfold leaving at h
  cases htask : s.server.tasks[i]? with
  | none => rw [htask] at h; cases h
  | some task =>
      rw [htask] at h
      cases hphase : task.phase with
      | receiving | closed => simp [hphase] at h
      | replying payload' last =>
          obtain rfl : payload' = payload := by simpa [hphase] using h
          exact ⟨task, last, rfl, hphase⟩

/-- The frame that a task receives changes nothing on another connection. -/
theorem taken_elsewhere (codec : DaemonCodec) (hplaced : s.Placed started) (hne : j ≠ i)
    (frame : Payload) : (s.taken codec j frame).links i = s.links i ∧
      (s.taken codec j frame).placeAt i = s.placeAt i := by
  cases hdecodes : codec.requestFromSlice frame.val with
  | error e =>
      simp only [taken, hdecodes]
      exact ⟨rfl, placeAt_modifyTask hne s _⟩
  | ok request =>
      simp only [taken, hdecodes]
      have hflag : (s.raiseFlag request).Placed started := by
        cases request <;> exact hplaced.of_eq rfl rfl rfl
      refine ⟨by cases request <;> rfl, ?_⟩
      refine Eq.trans ?_ ((placeAt_start hflag (.request j request) i).trans
        (placeAt_raiseFlag s request i))
      exact placeAt_eq rfl (Function.update_of_ne hne.symm ..) fun _ _ => rfl

/-- The handling of a request changes nothing on another connection. -/
theorem handled_elsewhere (codec : DaemonCodec) (hplaced : s.Placed started) (hne : j ≠ i)
    {handling : Handling} (hhandling : s.handling j = some handling) (ambient : Ambient) :
    (s.handled codec j handling ambient).links i = s.links i ∧
      (s.handled codec j handling ambient).placeAt i = s.placeAt i := by
  have hafter := placeAt_advance hplaced (hplaced.handling j handling hhandling)
    (fun request heq => hne (DaemonInput.request.inj heq).1) ambient
  simp only [handled]
  split
  · next response _ _ =>
      refine ⟨rfl, Eq.trans ?_ ((placeAt_modifyTask hne _
        (ClientTask.answer codec handling response)).trans hafter)⟩
      exact placeAt_eq rfl (Function.update_of_ne hne.symm ..) fun _ _ => rfl
  · exact ⟨rfl, hafter⟩

/-- The program of a task answers nothing to another client. -/
theorem answerTo_elsewhere (hplaced : s.Placed started) (hne : j ≠ i) {handling : Handling}
    (hhandling : s.handling j = some handling) (ambient : Ambient) :
    s.tasks.answerTo i started (.advance handling.call ambient) = [] := by
  simp only [DaemonTasks.answerTo, hplaced.handling j handling hhandling]
  split
  · next heq _ =>
      obtain ⟨rfl, rfl⟩ := DaemonInput.request.inj (Option.some.inj heq)
      exact if_neg hne
  · rfl

/-- An event that is not on a connection changes nothing there, and answers nothing to its
client. -/
theorem step_elsewhere (codec : DaemonCodec) (client : DaemonClientCodec)
    (hplaced : s.Placed started) {event : DaemonSystemEvent} (h : event.connection ≠ some i) :
    (s.step codec client event).links i = s.links i ∧
      (s.step codec client event).placeAt i = s.placeAt i ∧
      (s.turn codec event).toList.flatMap (s.tasks.answerTo i started) = [] := by
  have hlinks : ∀ {t : DaemonSystem} {j : Nat} (link : DaemonLink), some j ≠ some i →
      (t.setLink j link).links i = t.links i :=
    fun link hj => links_setLink_of_ne (fun hij => hj (congrArg some hij.symm)) _ link
  have htask : ∀ {j : Nat} {p : Prop}, some j ≠ some i → ¬ (j = i ∧ p) :=
    fun hj hhere => hj (congrArg some hhere.1)
  cases event with
  | checkShutdown | accept | acceptFailed =>
      exact ⟨rfl, placeAt_eq (phaseAt_step fun _ _ => rfl) rfl fun _ _ => rfl, rfl⟩
  | tick =>
      simp only [step, tick, turn]
      split
      · exact ⟨rfl, rfl, rfl⟩
      · split
        · exact ⟨rfl, rfl, rfl⟩
        · exact ⟨rfl, placeAt_start hplaced .cleanup i, rfl⟩
  | sweep ambient =>
      simp only [step, turn]
      cases hcleanup : s.cleanup with
      | none => exact ⟨rfl, rfl, rfl⟩
      | some call =>
          have hcall := hplaced.cleanup call hcleanup
          refine ⟨rfl, placeAt_advance hplaced hcall (fun _ heq => by cases heq) ambient, ?_⟩
          simp [DaemonTasks.answerTo, hcall]
  | take j =>
      simp only [step, turn]
      cases s.arriving j with
      | none => exact ⟨rfl, rfl, rfl⟩
      | some p =>
          have hsame := taken_elsewhere codec hplaced (fun hji => h (congrArg some hji)) p.1
          refine ⟨(hlinks _ h).trans hsame.1, hsame.2, ?_⟩
          cases hdecodes : codec.requestFromSlice p.1.val with
          | error e => simp [hdecodes]
          | ok request => simp [hdecodes, DaemonTasks.answerTo]
  | handle j ambient =>
      simp only [step, turn]
      cases hhandling : s.handling j with
      | none => exact ⟨rfl, rfl, rfl⟩
      | some handling =>
          have hne : j ≠ i := fun hji => h (congrArg some hji)
          have hsame := handled_elsewhere codec hplaced hne hhandling ambient
          refine ⟨hsame.1, hsame.2, ?_⟩
          simpa using answerTo_elsewhere hplaced hne hhandling ambient
  | reply j interruption =>
      simp only [step, turn]
      cases s.leaving j with
      | none => exact ⟨rfl, rfl, rfl⟩
      | some payload =>
          refine ⟨hlinks _ h, placeAt_eq (phaseAt_step fun _ _ => if_neg fun hji => ?_) rfl
            fun _ _ => rfl, rfl⟩
          exact h (congrArg some hji)
  | hangUp j =>
      simp only [step, turn]
      cases s.handling j with
      | none =>
          exact ⟨rfl, placeAt_eq (phaseAt_step fun _ _ => if_neg (htask h)) rfl fun _ _ => rfl, rfl⟩
      | some handling => exact ⟨rfl, rfl, rfl⟩
  | write j payload => exact ⟨hlinks _ h, rfl, rfl⟩
  | call j call failure =>
      simp only [step]
      split
      · exact ⟨hlinks _ h, rfl, rfl⟩
      · exact ⟨rfl, rfl, rfl⟩
  | receive j | stop j =>
      simp only [step]
      split <;> first | exact ⟨hlinks _ h, rfl, rfl⟩ | exact ⟨rfl, rfl, rfl⟩
  | closed j =>
      simp only [step]
      split
      · split
        · exact ⟨hlinks _ h, rfl, rfl⟩
        · exact ⟨rfl, rfl, rfl⟩
      · exact ⟨rfl, rfl, rfl⟩

/-! ## The moves of a connection -/

theorem correspondsAt_setLink {link : DaemonLink}
    (h : link.Corresponds codec (s.placeAt i) answers) :
    (s.setLink i link).CorrespondsAt codec i answers := by
  rw [CorrespondsAt, links_setLink_self]
  exact h

/-- On a connection whose task is handling no request. -/
theorem correspondsAt_of_none (h : s.handling i = none) : s.CorrespondsAt codec i answers ↔
    (s.links i).Corresponds codec (.await (s.server.phaseAt i)) answers := by
  rw [CorrespondsAt, placeAt_of_none h]

theorem corresponds_hangUp (h : s.CorrespondsAt codec i answers) :
    (s.step codec client (.hangUp i)).CorrespondsAt codec i answers := by
  simp only [step]
  cases hhandling : s.handling i with
  | some handling => exact h
  | none =>
      have hbefore := (correspondsAt_of_none hhandling).mp h
      have hafter : (s.onServer codec (.hangUp i)).handling i = none := hhandling
      refine (correspondsAt_of_none hafter).mpr ?_
      show (s.links i).Corresponds codec (.await ((s.server.step codec (.hangUp i)).phaseAt i)) _
      cases htask : s.server.tasks[i]? with
      | none => rwa [phaseAt_step fun task hsome => nomatch htask.symm.trans hsome]
      | some task =>
          rw [phaseAt_step_of_some htask, taskStep]
          rw [phaseAt_of_some htask] at hbefore
          split
          · next hhere => exact hbefore.hangUp (congrArg TaskPlace.await hhere.2)
          · exact hbefore

section Taken

variable {frame : Payload} {request : DaemonRequest}

theorem handling_taken (hdecodes : codec.requestFromSlice frame.val = .ok request) :
    (s.taken codec i frame).handling i = some ⟨frame, request, s.calls.length⟩ := by
  simp only [taken, hdecodes, Function.update_self]

theorem getElem?_calls_taken (hdecodes : codec.requestFromSlice frame.val = .ok request) :
    (s.taken codec i frame).calls[s.calls.length]? =
      some ((DaemonInput.request i request).program s.server.config.sessionConfig) := by
  have hcalls : (s.raiseFlag request).calls = s.calls :=
    congrArg Calls.calls (tasks_raiseFlag s request)
  simp only [taken, hdecodes, calls_start, hcalls, config_raiseFlag, List.getElem?_concat_length]

theorem placeAt_taken (hdecodes : codec.requestFromSlice frame.val = .ok request)
    (hphase : s.server.phaseAt i = .receiving) :
    (s.taken codec i frame).placeAt i = ⟨.receiving, some (request,
      some ((DaemonInput.request i request).program s.server.config.sessionConfig))⟩ := by
  have hsame : (s.raiseFlag request).server.phaseAt i = s.server.phaseAt i := by
    cases request <;> rfl
  rw [placeAt_of_some (handling_taken hdecodes), getElem?_calls_taken hdecodes]
  simp only [taken, hdecodes]
  exact congrArg (fun phase => TaskPlace.mk phase _) (hsame.trans hphase)

end Taken

/-- The request of a frame is handled from then on. -/
theorem corresponds_take (h : s.CorrespondsAt codec i answers) :
    (s.step codec client (.take i)).CorrespondsAt codec i answers := by
  simp only [step]
  cases harriving : s.arriving i with
  | none => exact h
  | some p =>
      obtain ⟨payload, rest⟩ := p
      obtain ⟨task, htask, hreceiving, hhandling, htoDaemon⟩ := arriving_eq_some harriving
      have hphase := (phaseAt_of_some htask).trans hreceiving
      have hplace := (placeAt_of_none hhandling).trans (congrArg TaskPlace.await hphase)
      obtain ⟨request, hdecodes, htake⟩ := h.take htoDaemon hplace
      refine (congrArg₂ (fun link place => DaemonLink.Corresponds codec link place answers)
        (links_setLink_self _ i _) (placeAt_taken hdecodes hphase)).mpr ?_
      exact htake _ (DaemonInput.replies_program _ i request)

section Handled

variable {handling : Handling} {action : HandlerAction}
  {next : action.Answer → HandlerProgram Unit}

theorem handled_of_send {receiver : ClientId} {response : DaemonResponse}
    {next : Unit → HandlerProgram Unit}
    (hprogram : s.calls[handling.call]? = some (.call (.send receiver response) next))
    (i : Nat) (ambient : Ambient) : s.handled codec i handling ambient =
      { (s.onTasks (.advance handling.call ambient)).modifyTask i
          (ClientTask.answer codec handling response) with
        handling := Function.update s.handling i none } := by
  simp only [handled, hprogram]
  rfl

theorem handled_of_ne_send (hprogram : s.calls[handling.call]? = some (.call action next))
    (hsend : ∀ receiver response, action ≠ .send receiver response) (i : Nat)
    (ambient : Ambient) :
    s.handled codec i handling ambient = s.onTasks (.advance handling.call ambient) := by
  cases action with
  | send receiver response => exact absurd rfl (hsend receiver response)
  | manager | getClient | insertClient | removeClient => simp only [handled, hprogram]

theorem answerTo_of_send {receiver : ClientId} {response : DaemonResponse}
    {next : Unit → HandlerProgram Unit} {request : DaemonRequest} {call : Nat}
    (hcall : started[call]? = some (.request i request))
    (hprogram : s.calls[call]? = some (.call (.send receiver response) next))
    (ambient : Ambient) :
    s.tasks.answerTo i started (.advance call ambient) = [(request, response)] := by
  have hsome : s.tasks.calls[call]? = some (.call (.send receiver response) next) := hprogram
  simp only [DaemonTasks.answerTo, hcall, hsome, if_true]

theorem answerTo_of_ne_send {call : Nat}
    (hprogram : s.calls[call]? = some (.call action next))
    (hsend : ∀ receiver response, action ≠ .send receiver response) (i : Nat)
    (ambient : Ambient) : s.tasks.answerTo i started (.advance call ambient) = [] := by
  have hsome : s.tasks.calls[call]? = some (.call action next) := hprogram
  simp only [DaemonTasks.answerTo, hsome]
  cases action with
  | send receiver response => exact absurd rfl (hsend receiver response)
  | manager | getClient | insertClient | removeClient =>
      split
      · next heq => cases heq
      · rfl

/-- The task of a connection that waited for a frame, after it has a response. -/
theorem phaseAt_answer {server : DaemonServer} (hphase : server.phaseAt i = .receiving)
    (handling : Handling) (response : DaemonResponse) {after : TaskPhase}
    (hafter : phaseAt { server with
      tasks := server.tasks.modify i (ClientTask.answer codec handling response) } i = after) :
    (∃ written last, codec.responseToVec response = .ok written ∧
      after = .replying written last) ∨ after = .receiving ∨ after = .closed := by
  subst hafter
  rw [phaseAt_modify_self]
  cases htask : server.tasks[i]? with
  | none => exact .inr (.inl rfl)
  | some task =>
      have hanswer := task.phase_answer codec handling response
      rwa [(phaseAt_of_some htask).symm.trans hphase] at hanswer

end Handled

/-- The program of a request goes on, and answers at its end. -/
theorem corresponds_handle (hplaced : s.Placed started) (h : s.CorrespondsAt codec i answers)
    (ambient : Ambient) : (s.step codec client (.handle i ambient)).CorrespondsAt codec i
      (answers ++ (s.turn codec (.handle i ambient)).toList.flatMap
        (s.tasks.answerTo i started)) := by
  simp only [step, turn]
  cases hhandling : s.handling i with
  | none => simpa using h
  | some handling =>
      have hplace := placeAt_of_some hhandling
      have hcall := hplaced.handling i handling hhandling
      obtain ⟨hphase, program, hprogram, hreplies⟩ := h.replies hplace
      simp only [Option.map_some, Option.toList_some, List.flatMap_singleton]
      obtain ⟨receiver, response, next, rfl, hfits⟩ | ⟨action, next, rfl, hsend, hnext⟩ :=
        hreplies.cases
      · rw [handled_of_send hprogram, answerTo_of_send hcall hprogram]
        refine (correspondsAt_of_none (Function.update_self ..)).mpr ?_
        exact h.answer hplace hfits (phaseAt_answer hphase handling response rfl)
      · rw [handled_of_ne_send hprogram hsend, answerTo_of_ne_send hprogram hsend,
          List.append_nil]
        have hgone : (s.onTasks (.advance handling.call ambient)).calls[handling.call]? =
            some (next _) := Calls.getElem?_step_advance (s := s.tasks) hprogram ambient
        have hnow : (s.onTasks (.advance handling.call ambient)).placeAt i = _ :=
          placeAt_of_some hhandling
        rw [CorrespondsAt, hnow]
        exact (congrArg (fun p => (s.links i).Corresponds codec
          ⟨s.server.phaseAt i, some (handling.request, p)⟩ answers) hgone).mpr
            (h.goesOn hplace (hnext _))

theorem corresponds_reply (h : s.CorrespondsAt codec i answers)
    (interruption : Option Interruption) :
    (s.step codec client (.reply i interruption)).CorrespondsAt codec i answers := by
  simp only [step]
  cases hleaving : s.leaving i with
  | none => exact h
  | some payload =>
      obtain ⟨task, last, htask, hphase⟩ := leaving_eq_some hleaving
      have hat := (phaseAt_of_some htask).trans hphase
      have hnone : s.handling i = none :=
        Option.map_eq_none_iff.mp (congrArg TaskPlace.handling
          (h.await_phase (by rw [placeAt, hat]; exact fun heq => by cases heq)))
      have hbefore := (correspondsAt_of_none hnone).mp h
      have hreply := hbefore.reply task (congrArg TaskPlace.await hat) interruption
      have hafter : (s.onServer codec (.reply i interruption)).handling i = none := hnone
      have hnow : (s.server.step codec (.reply i interruption)).phaseAt i =
          (replied task payload last interruption).phase := by
        rw [phaseAt_step_of_some htask, taskStep, if_pos rfl, hphase]
      refine correspondsAt_setLink ?_
      rw [placeAt_of_none hafter]
      exact hnow ▸ hreply

theorem corresponds_call (hagrees : client.Agrees codec) (h : s.CorrespondsAt codec i answers)
    (call : DaemonCall) (failure : Option String) :
    (s.step codec client (.call i call failure)).CorrespondsAt codec i answers := by
  simp only [step]
  split
  · next hwaiting =>
      exact correspondsAt_setLink (h.start hagrees hwaiting call failure)
  · exact h

theorem corresponds_receive (hagrees : client.Agrees codec)
    (h : s.CorrespondsAt codec i answers) :
    (s.step codec client (.receive i)).CorrespondsAt codec i answers := by
  simp only [step]
  split
  · next call payload rest hwaiting htoClient =>
      exact correspondsAt_setLink (h.receive hagrees hwaiting htoClient)
  · exact h

theorem corresponds_closed (h : s.CorrespondsAt codec i answers) :
    (s.step codec client (.closed i)).CorrespondsAt codec i answers := by
  simp only [step]
  split
  · next call hwaiting htoClient =>
      split
      · next hclosed =>
          obtain ⟨task, htask, hphase⟩ := Option.map_eq_some_iff.mp hclosed
          have hat := (phaseAt_of_some htask).trans hphase
          have hplace : s.placeAt i = .await .closed :=
            (h.await_phase (by rw [placeAt, hat]; exact fun heq => by cases heq)).trans
              (congrArg TaskPlace.await hat)
          exact correspondsAt_setLink (h.endOfStream call hplace htoClient)
      · exact h
  · exact h

/-- What an event means for a connection: nothing, or one of the moves of the connection. -/
theorem corresponds_step (hagrees : client.Agrees codec) (hplaced : s.Placed started)
    (h : s.CorrespondsAt codec i answers) {event : DaemonSystemEvent} (hkeeps : event.Keeps i) :
    (s.step codec client event).CorrespondsAt codec i
      (answers ++ (s.turn codec event).toList.flatMap (s.tasks.answerTo i started)) := by
  by_cases hhere : event.connection = some i
  · cases event with
    | checkShutdown | accept | acceptFailed | tick | sweep => cases hhere
    | stop j | write j => exact absurd (Option.some.inj hhere) hkeeps
    | take j =>
        obtain rfl := Option.some.inj hhere
        have hnone : (s.turn codec (.take j)).toList.flatMap (s.tasks.answerTo j started) = [] := by
          simp only [turn]
          repeat' split
          all_goals rfl
        rw [hnone, List.append_nil]
        exact corresponds_take h
    | handle j ambient =>
        obtain rfl := Option.some.inj hhere
        exact corresponds_handle hplaced h ambient
    | reply j interruption =>
        obtain rfl := Option.some.inj hhere
        simpa [turn] using corresponds_reply h interruption
    | hangUp j =>
        obtain rfl := Option.some.inj hhere
        simpa [turn] using corresponds_hangUp h
    | call j call failure =>
        obtain rfl := Option.some.inj hhere
        simpa [turn] using corresponds_call hagrees h call failure
    | receive j =>
        obtain rfl := Option.some.inj hhere
        simpa [turn] using corresponds_receive hagrees h
    | closed j =>
        obtain rfl := Option.some.inj hhere
        simpa [turn] using corresponds_closed h
  · obtain ⟨hlink, hplace, hnothing⟩ := step_elsewhere codec client hplaced hhere
    rw [CorrespondsAt, hlink, hplace, hnothing, List.append_nil]
    exact h

/-! ## Every run -/

variable (codec client)

/-- The tasks of the daemon take their turns, and its clients are told of it: each, whatever
the others do, what the programs of its own requests answer, in their order, and by the method
it called. -/
structure TellsClients (config : DaemonConfig) (events : List DaemonSystemEvent)
    (s : DaemonSystem) (turns : List DaemonTurn) : Prop where
  tasks : s.tasks =
    run (DaemonTasks.step config.sessionConfig) (.new config.sessionConfig) turns
  told : ∀ i, (∀ event ∈ events, event.Keeps i) → ∃ answered unread,
    DaemonTasks.answersTo config.sessionConfig i (.new config.sessionConfig) [] turns =
        answered ++ unread ∧
      unread.length ≤ 1 ∧ List.Forall₂ DaemonLink.Tells answered (s.links i).told
  untold : ∀ i, (∀ event ∈ events, event.Keeps i) → ∀ returned ∈ (s.links i).returned,
    ¬ DaemonClient.Told returned.2 → ∃ error, returned.2 = .error error ∧ error.OnTheWay

variable {codec client}

theorem config_run (config : DaemonConfig) (events : List DaemonSystemEvent) :
    (run (step codec client) (new config) events).server.config = config := by
  induction events using List.reverseRecOn with
  | nil => rfl
  | append_singleton events event ih =>
      rw [run_append, run_cons, run_nil, config_step, ih]

theorem tasks_run (config : DaemonConfig) (events : List DaemonSystemEvent) :
    (run (step codec client) (new config) events).tasks =
      run (DaemonTasks.step config.sessionConfig) (.new config.sessionConfig)
        ((new config).turns codec client events) := by
  induction events using List.reverseRecOn with
  | nil => rfl
  | append_singleton events event ih =>
      rw [run_append, run_cons, run_nil, tasks_step, config_run, turns_concat, run_append, ih]

theorem placed_run (config : DaemonConfig) (events : List DaemonSystemEvent) :
    (run (step codec client) (new config) events).Placed
      (DaemonTasks.started ((new config).turns codec client events)) := by
  induction events using List.reverseRecOn with
  | nil => exact placed_new config
  | append_singleton events event ih =>
      rw [run_append, turns_concat, DaemonTasks.started_append]
      exact ih.step event

theorem corresponds_run (hagrees : client.Agrees codec) (config : DaemonConfig)
    {events : List DaemonSystemEvent} (hkeeps : ∀ event ∈ events, event.Keeps i) :
    (run (step codec client) (new config) events).CorrespondsAt codec i
      (DaemonTasks.answersTo config.sessionConfig i (.new config.sessionConfig) []
        ((new config).turns codec client events)) := by
  induction events using List.reverseRecOn with
  | nil =>
      refine ⟨⟨[], [], rfl, .nil, .idle rfl rfl rfl rfl⟩, fun returned hmem => ?_⟩
      cases hmem
  | append_singleton events event ih =>
      have hbefore := ih fun e he => hkeeps e (List.mem_append_left _ he)
      have hstep := corresponds_step hagrees (placed_run config events) hbefore
        (hkeeps event (List.mem_append_right _ (List.mem_singleton_self event)))
      rw [tasks_run] at hstep
      rw [turns_concat, run_append]
      cases hturn : (run (step codec client) (new config) events).turn codec event with
      | none => simpa [hturn] using hstep
      | some turn => simpa [hturn, DaemonTasks.answersTo_concat] using hstep

open ServingHandler (exec)

theorem shared_advance {call : Nat} {action : HandlerAction}
    {next : action.Answer → HandlerProgram Unit}
    (hprogram : s.calls[call]? = some (.call action next)) (ambient : Ambient) :
    (s.onTasks (.advance call ambient)).tasks.shared = (exec ambient action s.tasks.shared).2 := by
  have hsome : s.tasks.calls[call]? = some (.call action next) := hprogram
  rw [tasks_onTasks, DaemonTasks.step, Calls.step, hsome]

/-- The program of a request goes on to its end with nothing in between. -/
theorem exists_run_handle {P : DaemonResponse → Prop} {p : HandlerProgram DaemonResponse}
    (hreturns : p.Returns P) {handling : Handling} (hhandling : s.handling i = some handling)
    (hprogram : s.calls[handling.call]? =
      some (p >>= fun response => (HandlerAction.send i response).await)) (ambient : Ambient) :
    ∃ n, (run (step codec client) s (List.replicate n (.handle i ambient))).server =
      { s.server with
        requestHandler := (p.run (exec ambient) s.tasks.shared).2.handler
        tasks := s.server.tasks.modify i
          (ClientTask.answer codec handling (p.run (exec ambient) s.tasks.shared).1) } := by
  have hstep : ∀ t : DaemonSystem, t.handling i = some handling →
      t.step codec client (.handle i ambient) = t.handled codec i handling ambient := by
    intro t ht
    simp only [step, ht]
  induction p generalizing s with
  | done response =>
      refine ⟨1, ?_⟩
      have hshared := shared_advance hprogram ambient
      have hhandler : (s.onTasks (.advance handling.call ambient)).server.requestHandler =
          s.server.requestHandler := congrArg ServingHandler.handler hshared
      rw [List.replicate_one, run_cons, run_nil, hstep s hhandling, handled_of_send hprogram]
      exact congrArg (fun requestHandler => ({ s.server with
        requestHandler := requestHandler
        tasks := s.server.tasks.modify i (ClientTask.answer codec handling response) } :
          DaemonServer)) hhandler
  | call action next ih =>
      obtain ⟨hsend, hnext⟩ := HandlerProgram.returns_call_iff.mp hreturns
      have hshared := shared_advance hprogram ambient
      have hgone : (s.onTasks (.advance handling.call ambient)).calls[handling.call]? =
          some (next _ >>= fun response => (HandlerAction.send i response).await) :=
        Calls.getElem?_step_advance (s := s.tasks) hprogram ambient
      have hsame : (s.onTasks (.advance handling.call ambient)).handling i = some handling :=
        hhandling
      obtain ⟨n, hrun⟩ := ih _ (hnext _) hsame hgone
      refine ⟨n + 1, ?_⟩
      rw [List.replicate_succ, run_cons, hstep s hhandling, handled_of_ne_send hprogram hsend, hrun,
        hshared, run_call]
      rfl

theorem shared_taken {frame : Payload} {request : DaemonRequest}
    (hdecodes : codec.requestFromSlice frame.val = .ok request) :
    (s.taken codec i frame).tasks.shared = s.tasks.shared := by
  simp only [taken, hdecodes]
  show ((s.raiseFlag request).onTasks (.start (.request i request))).tasks.shared = _
  rw [tasks_onTasks, tasks_raiseFlag]
  rfl

theorem server_taken {frame : Payload} {request : DaemonRequest}
    (hdecodes : codec.requestFromSlice frame.val = .ok request) :
    (s.taken codec i frame).server = { s.server with
      shutdown := s.server.shutdown || decide (request = .shutdown) } := by
  simp only [taken, hdecodes]
  cases request <;> simp [raiseFlag, onTasks, DaemonTasks.step, Calls.step, tasks]

/-- What `handle_client` makes of a request in one go. -/
theorem handleFrame_eq_answer (server : DaemonServer) (ambient : Ambient) (task : ClientTask)
    {frame : Payload} {request : DaemonRequest}
    (hdecodes : codec.requestFromSlice frame.val = .ok request) (call : Nat) :
    handleFrame codec server ambient task frame =
      ({ server with
          requestHandler := (server.requestHandler.handleRequest ambient request).2
          shutdown := server.shutdown || decide (request = .shutdown) },
        task.answer codec ⟨frame, request, call⟩
          (server.requestHandler.handleRequest ambient request).1) := by
  unfold handleFrame ClientTask.answer
  rw [hdecodes]
  cases request with
  | shutdown =>
      cases hresponse : codec.responseToVec .shuttingDown <;>
        simp [RequestHandler.handleRequest, hresponse]
  | ping | createSession | connectSession | disconnectSession | listSessions | getSessionInfo
    | executeCommand =>
      simp only [reduceCtorEq, decide_false, Bool.or_false]
      split <;> simp_all

theorem modify_eq_set {α : Type*} {l : List α} {i : Nat} {a : α} (h : l[i]? = some a)
    (f : α → α) : l.modify i f = l.set i (f a) := by
  apply List.ext_getElem?
  intro j
  rw [List.getElem?_modify, List.getElem?_set]
  by_cases hij : i = j
  · subst hij
    obtain ⟨hlt, rfl⟩ := List.getElem?_eq_some_iff.mp h
    simp [hlt]
  · simp [hij]

/-- A request that is handled with nothing in between leaves the server where it is after
`handle_client` has handled the frame in one go. -/
theorem exists_server_take_handle {payload : Payload} {rest : List Payload}
    (hbuilt : s.server.requestHandler.sessionManager.BuiltFrom s.server.config.sessionConfig)
    (harriving : s.arriving i = some (payload, rest)) (ambient : Ambient) :
    ∃ n, (run (step codec client) s (.take i :: List.replicate n (.handle i ambient))).server =
      s.server.step codec (.receive i payload ambient) := by
  obtain ⟨task, htask, hphase, -⟩ := arriving_eq_some harriving
  have htake : s.step codec client (.take i) = (s.taken codec i payload).setLink i
      { s.links i with toDaemon := rest } := by
    simp only [step, harriving]
  have hserver : s.server.step codec (.receive i payload ambient) =
      { (handleFrame codec s.server ambient task payload).1 with
        tasks := (handleFrame codec s.server ambient task payload).1.tasks.set i
          (handleFrame codec s.server ambient task payload).2 } := by
    simp only [DaemonServer.step, htask, hphase]
  rw [hserver]
  cases hdecodes : codec.requestFromSlice payload.val with
  | error e =>
      refine ⟨0, ?_⟩
      rw [List.replicate_zero, run_cons, run_nil, htake]
      simp only [handleFrame, hdecodes, taken]
      exact congrArg (fun tasks => ({ s.server with tasks := tasks } : DaemonServer))
        (modify_eq_set htask _)
  | ok request =>
      have halone : (HandlerProgram.handleRequest s.server.config.sessionConfig request).run
          (exec ambient) s.tasks.shared = _ :=
        HandlerProgram.run_handleRequest ambient hbuilt request
      obtain ⟨n, hrun⟩ := exists_run_handle (s := (s.taken codec i payload).setLink i
          { s.links i with toDaemon := rest })
        (HandlerProgram.returns_handleRequest s.server.config.sessionConfig request)
        (handling_taken hdecodes) (getElem?_calls_taken hdecodes) ambient
      refine ⟨n, ?_⟩
      rw [run_cons, htake, hrun, tasks_setLink, shared_taken hdecodes,
        handleFrame_eq_answer s.server ambient task hdecodes s.calls.length]
      simp only [halone, HandlerProgram.alone]
      have hserver : ((s.taken codec i payload).setLink i
          { s.links i with toDaemon := rest }).server = _ := server_taken hdecodes
      rw [hserver, modify_eq_set htask]

/-! ## Two clients that connect to one session at the same time -/

def createdText (sessionId : SessionId) : Bytes :=
  Json.object [("SessionCreated", Json.object [
    ("session_id", Json.string sessionId.toString), ("reused", ascii "false")])]

/-- The texts `serde_json` reads and writes at the daemon. -/
def overlapCodec : DaemonCodec where
  requestFromSlice := listingCodec.requestFromSlice
  responseToVec
    | .sessionCreated ⟨1⟩ false => .ok (createdText ⟨1⟩)
    | .sessionCreated ⟨2⟩ false => .ok (createdText ⟨2⟩)
    | _ => .error "unsupported"

/-- The texts `serde_json` writes and reads at the clients. -/
def overlapClientCodec : DaemonClientCodec where
  requestToVec request :=
    if request = .connectSession (nameOf 5) unlisted then .ok (connectText 5)
    else .error "unsupported"
  responseFromSlice bytes :=
    if bytes = createdText ⟨1⟩ then .ok (.sessionCreated ⟨1⟩ false)
    else if bytes = createdText ⟨2⟩ then .ok (.sessionCreated ⟨2⟩ false)
    else .error "expected value at line 1 column 1"

theorem agrees_overlapClientCodec : overlapClientCodec.Agrees overlapCodec where
  request_read request payload h := by
    simp only [overlapClientCodec] at h
    split at h
    · next hrequest =>
        rw [hrequest, ← Except.ok.inj h]
        simp only [overlapCodec, requestFromSlice_connectText]
    · cases h
  response_read response payload h := by
    simp only [overlapCodec] at h
    split at h
    · obtain rfl := Except.ok.inj h
      decide +kernel
    · obtain rfl := Except.ok.inj h
      decide +kernel
    · cases h

/-- The second client's request is handled between two actions of that of the first one. -/
def overlapEvents : List DaemonSystemEvent :=
  [.checkShutdown, .accept, .checkShutdown, .accept,
    .call 0 (.connectSession (nameOf 5) unlisted) none,
    .call 1 (.connectSession (nameOf 5) unlisted) none, .take 0, .take 1,
    .handle 0 idleAmbient, .handle 0 idleAmbient] ++
  List.replicate 20 (.handle 1 idleAmbient) ++
  List.replicate 20 (.handle 0 { idleAmbient with freshId := ⟨2⟩ }) ++
  [.reply 0 none, .reply 1 none, .receive 0, .receive 1]

/-- Each has a new session, as no order of the two requests would give them. -/
example :
    ((run (step overlapCodec overlapClientCodec) (new {}) overlapEvents).links 0).told =
        [(.connectSession (nameOf 5) unlisted, .ok (.session ⟨2⟩ false))] ∧
      ((run (step overlapCodec overlapClientCodec) (new {}) overlapEvents).links 1).told =
        [(.connectSession (nameOf 5) unlisted, .ok (.session ⟨1⟩ false))] := by
  decide +kernel

end DaemonSystem

end Yuha
