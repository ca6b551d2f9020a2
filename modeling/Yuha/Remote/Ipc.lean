import Yuha.Remote.Pending

/-!
# Messages from the shell

The process that runs a remote server also answers shell commands, on a socket of its own.
`SendToClient` puts a message on a channel that `main` has made; the task that copies
messages to the response buffer reads a channel that `run_with_ipc` has made. A
`RemoteProcess` is the server with both channels and the connections to the socket.

## Implementation notes

A step of an IPC connection reads a line and handles its command, or writes the response.
`main` holds `_ipc_rx` until `run_with_ipc` returns, and `run_with_ipc` holds `_tx`; neither is
used, so no event puts a message on the one channel or takes one off the other.
`answered` is not in the code: it records which messages were answered `Success`.
-/

namespace Yuha

open Library Library.Execution

inductive IpcCommand
  | getClipboard
  | setClipboard (content : String)
  | openBrowser (url : String)
  | sendToClient (message : String)
  | status
  | ping
  deriving DecidableEq, Repr

inductive IpcResponse
  | success (data : Option String)
  | error (message : String)
  | status (uptime : Nat) (connectedClients activePortForwards : UInt32)
  | pong
  deriving DecidableEq, Repr

/-- What `read_line` returns, and what the line says. -/
inductive IpcLine
  | eof
  | failed
  | malformed (e : String)
  | command (command : IpcCommand)

/-- The await at which a connection to the socket is. -/
inductive IpcStage
  /-- In `read_line`. -/
  | reading
  /-- In `send_response`. A message was sent to this place of the channel. -/
  | answering (response : IpcResponse) (place : Option Nat)
  | closed
  deriving DecidableEq, Repr

structure RemoteProcess where
  server : RemoteServer := {}
  ipcListening : Bool := true
  /-- `main` calls `set_client_sender` before it starts the IPC server. -/
  clientSender : Bool := true
  connections : List IpcStage := []
  /-- The channel that `main` has made. -/
  ipcRx : List String := []
  /-- The channel that `run_with_ipc` has made. -/
  rx : List String := []
  /-- The message for which the message handler waits for the response buffer. -/
  handling : Option String := none
  answered : List Nat := []

inductive ProcessEvent
  | server (event : RemoteEvent)
  | ipcAccept
  | ipcAcceptFailed
  | ipcRead (i : Nat) (line : IpcLine) (surroundings : Surroundings) (uptime : Nat)
  | ipcWrite (i : Nat) (failed : Bool)
  /-- The message handler receives a message. -/
  | receiveMessage
  /-- The message handler obtains the response buffer. -/
  | addMessage

/-- The item that the message handler makes of a message. -/
def ipcItem (message : String) : ResponseItem := .clipboardContent s!"IPC: {message}"

namespace RemoteProcess

/-- `sender.send(message)`: the receiver is dropped when `run_with_ipc` has returned. -/
def sendIpc (s : RemoteProcess) (message : String) : Except String RemoteProcess :=
  match s.server.mainLoop with
  | .ended _ => .error "channel closed"
  | _ => .ok { s with ipcRx := s.ipcRx ++ [message] }

/-- The response, and the place to which a message was sent. -/
def handleCommand (s : RemoteProcess) (surroundings : Surroundings) (uptime : Nat) :
    IpcCommand → RemoteProcess × IpcResponse × Option Nat
  | .getClipboard =>
      match surroundings.clipboard with
      | .ok content => (s, .success (some content), none)
      | .error e => (s, .error s!"Failed to get clipboard: {e}", none)
  | .setClipboard _ =>
      match surroundings.setClipboard with
      | .ok () => (s, .success none, none)
      | .error e => (s, .error s!"Failed to set clipboard: {e}", none)
  | .openBrowser _ =>
      match surroundings.openUrl with
      | .ok () => (s, .success none, none)
      | .error e => (s, .error s!"Failed to open browser: {e}", none)
  | .sendToClient message =>
      if s.clientSender then
        match s.sendIpc message with
        | .ok after => (after, .success none, some s.ipcRx.length)
        | .error e => (s, .error s!"Failed to send to client: {e}", none)
      else
        (s, .error "No client connected", none)
  | .status => (s, .status uptime (if s.clientSender then 1 else 0) 0, none)
  | .ping => (s, .pong, none)

def setConnection (s : RemoteProcess) (i : Nat) (stage : IpcStage) : RemoteProcess :=
  { s with connections := s.connections.set i stage }

/-- The loop of `handle_connection`, from a line to the next await. -/
def readLine (s : RemoteProcess) (i : Nat) (surroundings : Surroundings) (uptime : Nat) :
    IpcLine → RemoteProcess
  | .eof | .failed => s.setConnection i .closed
  | .malformed e =>
      s.setConnection i (.answering (.error s!"Invalid command format: {e}") none)
  | .command command =>
      let (s, response, place) := s.handleCommand surroundings uptime command
      s.setConnection i (.answering response place)

/-- `send_response`, and the next turn of the loop or its end. -/
def writeResponse (s : RemoteProcess) (i : Nat) (response : IpcResponse) (place : Option Nat)
    (failed : Bool) : RemoteProcess :=
  if failed then s.setConnection i .closed
  else
    match response, place with
    | .success _, some k =>
        { s.setConnection i .reading with answered := s.answered ++ [k] }
    | _, _ => s.setConnection i .reading

def step (s : RemoteProcess) : ProcessEvent → RemoteProcess
  | .server event => { s with server := s.server.step event }
  | .ipcAccept =>
      if s.ipcListening then { s with connections := s.connections ++ [.reading] } else s
  | .ipcAcceptFailed => { s with ipcListening := false }
  | .ipcRead i line surroundings uptime =>
      match s.connections[i]? with
      | some .reading => s.readLine i surroundings uptime line
      | _ => s
  | .ipcWrite i failed =>
      match s.connections[i]? with
      | some (.answering response place) => s.writeResponse i response place failed
      | _ => s
  | .receiveMessage =>
      match s.handling, s.rx with
      | none, message :: rx => { s with handling := some message, rx := rx }
      | _, _ => s
  | .addMessage =>
      match s.handling with
      | some message => { s with
          handling := none
          server := s.server.add .ipcHandler (ipcItem message) }
      | none => s

/-- The messages that were answered `Success`, in the order in which they were sent. -/
def accepted (s : RemoteProcess) : List String :=
  (s.ipcRx.zipIdx.filter fun message => decide (message.2 ∈ s.answered)).map Prod.fst

/-- What the client has polled, or the next poll will bring. -/
def visible (s : RemoteProcess) : List ResponseItem :=
  s.server.polled ++ s.server.responseBuffer.items

/-- Every accepted message is there, in order, and no message more often than it was sent. -/
structure Delivered (s : RemoteProcess) : Prop where
  present : (s.accepted.map ipcItem).Sublist s.visible
  once : ∀ message, s.visible.count (ipcItem message) ≤ s.ipcRx.count message

/-- No task that handles a message has a step left to take. -/
structure Settled (s : RemoteProcess) : Prop where
  handled : s.rx = [] ∧ s.handling = none
  answered : ∀ response place, .answering response place ∉ s.connections
  sent : ∀ request response, s.server.mainLoop ≠ .sending request response

/-- No answer `Success` to a `SendToClient` is written. -/
def AcceptsNone (s : RemoteProcess) : ProcessEvent → Prop
  | .ipcWrite i false => ∀ data k, s.connections[i]? ≠ some (.answering (.success data) (some k))
  | _ => True

variable {s : RemoteProcess}

/-! ## What a run keeps -/

/-- The message handler gets no message, so the client is told of connections only. -/
structure Idle (s : RemoteProcess) : Prop where
  rx : s.rx = []
  handling : s.handling = none
  reached : ∀ item ∈ s.server.reached, item.connection.isSome
  places : ∀ response k, IpcStage.answering response (some k) ∈ s.connections →
    k < s.ipcRx.length
  answered : ∀ k ∈ s.answered, k < s.ipcRx.length

/-- A command puts at most its own message on the channel, at the place it reports. -/
theorem handleCommand_spec (s : RemoteProcess) (surroundings : Surroundings) (uptime : Nat)
    (command : IpcCommand) : ∃ messages,
      (s.handleCommand surroundings uptime command).1 =
        { s with ipcRx := s.ipcRx ++ messages } ∧
      ∀ k, (s.handleCommand surroundings uptime command).2.2 = some k →
        k < (s.ipcRx ++ messages).length := by
  have hnone : ∀ response : IpcResponse, ∃ messages,
      (s, response, (none : Option Nat)).1 = { s with ipcRx := s.ipcRx ++ messages } ∧
      ∀ k, (s, response, (none : Option Nat)).2.2 = some k → k < (s.ipcRx ++ messages).length := by
    intro response
    refine ⟨[], by rw [List.append_nil], fun k hk => ?_⟩
    cases hk
  cases command with
  | getClipboard =>
      simp only [handleCommand]
      cases surroundings.clipboard <;> exact hnone _
  | setClipboard content =>
      simp only [handleCommand]
      cases surroundings.setClipboard <;> exact hnone _
  | openBrowser url =>
      simp only [handleCommand]
      cases surroundings.openUrl <;> exact hnone _
  | sendToClient message =>
      simp only [handleCommand, sendIpc]
      split
      · cases s.server.mainLoop with
        | ended error => exact hnone _
        | receiving | waiting | stopping | sending =>
            refine ⟨[message], rfl, ?_⟩
            rintro k ⟨⟩
            simp
      · exact hnone _
  | status => exact hnone _
  | ping => exact hnone _

/-- A connection goes on to another await. -/
theorem Idle.setConnection (h : s.Idle) (i : Nat) {stage : IpcStage} (messages : List String)
    (hstage : ∀ response k, stage = .answering response (some k) →
      k < (s.ipcRx ++ messages).length) :
    (setConnection { s with ipcRx := s.ipcRx ++ messages } i stage).Idle := by
  have hgrows : s.ipcRx.length ≤ (s.ipcRx ++ messages).length := by simp
  refine ⟨h.rx, h.handling, h.reached, fun response k hmem => ?_, fun k hk => ?_⟩
  · rcases List.mem_or_eq_of_mem_set hmem with hother | heq
    · exact (h.places response k hother).trans_le hgrows
    · exact hstage response k heq.symm
  · exact (h.answered k hk).trans_le hgrows

theorem Idle.step (h : s.Idle) (e : ProcessEvent) : (s.step e).Idle := by
  have hmoves : ∀ i stage, (∀ response k, stage = IpcStage.answering response (some k) →
      k < s.ipcRx.length) → (s.setConnection i stage).Idle := by
    intro i stage hstage
    have hidle := h.setConnection i [] fun response k heq => by
      rw [List.append_nil]
      exact hstage response k heq
    rwa [List.append_nil] at hidle
  cases e with
  | server event =>
      refine ⟨h.rx, h.handling, fun item hmem => ?_, h.places, h.answered⟩
      rcases s.server.reached_step event hmem with hold | hrelevant
      · exact h.reached item hold
      · exact hrelevant
  | ipcAccept =>
      simp only [RemoteProcess.step]
      split
      · refine ⟨h.rx, h.handling, h.reached, fun response k hmem => ?_, h.answered⟩
        rcases List.mem_append.mp hmem with hold | hnew
        · exact h.places response k hold
        · cases List.mem_singleton.mp hnew
      · exact h
  | ipcAcceptFailed => exact ⟨h.rx, h.handling, h.reached, h.places, h.answered⟩
  | ipcRead i line surroundings uptime =>
      simp only [RemoteProcess.step]
      split
      · cases line with
        | eof => exact hmoves i .closed fun _ _ heq => by cases heq
        | failed => exact hmoves i .closed fun _ _ heq => by cases heq
        | malformed e => exact hmoves i _ fun _ _ heq => by cases heq
        | command command =>
            obtain ⟨messages, hafter, hplace⟩ := s.handleCommand_spec surroundings uptime command
            simp only [readLine, hafter]
            apply h.setConnection i messages
            rintro response k heq
            exact hplace k (IpcStage.answering.inj heq).2
      · exact h
  | ipcWrite i failed =>
      simp only [RemoteProcess.step]
      split
      · rename_i response place hanswering
        have hreading := hmoves i .reading fun _ _ heq => by cases heq
        unfold writeResponse
        split
        · exact hmoves i .closed fun _ _ heq => by cases heq
        split
        · rename_i data k
          refine ⟨hreading.rx, hreading.handling, hreading.reached, hreading.places, ?_⟩
          intro k' hk'
          rcases List.mem_append.mp hk' with hold | hnew
          · exact h.answered k' hold
          · obtain rfl := List.mem_singleton.mp hnew
            exact h.places _ _ (List.mem_of_getElem? hanswering)
        · exact hreading
      · exact h
  | receiveMessage =>
      simp only [RemoteProcess.step, h.handling, h.rx]
      exact h
  | addMessage =>
      simp only [RemoteProcess.step, h.handling]
      exact h

/-- While the message handler gets nothing, no message that was accepted is there. -/
theorem Idle.delivered_iff (h : s.Idle) : s.Delivered ↔ s.answered = [] := by
  have habsent : ∀ message, ipcItem message ∉ s.visible := by
    intro message hmem
    have hreached : ipcItem message ∈ s.server.reached := by
      rcases List.mem_append.mp hmem with htold | hbuffered
      · exact List.mem_append_left _ htold
      · exact List.mem_append_right _ (List.mem_append_right _ hbuffered)
    cases h.reached _ hreached
  constructor
  · intro hdelivered
    refine List.eq_nil_iff_forall_not_mem.mpr fun k hk => ?_
    have hplace := h.answered k hk
    have haccepted : s.ipcRx[k] ∈ s.accepted := by
      refine List.mem_map.mpr ⟨(s.ipcRx[k], k), ?_, rfl⟩
      refine List.mem_filter.mpr ⟨?_, decide_eq_true hk⟩
      exact List.mem_zipIdx_iff_getElem?.mpr (List.getElem?_eq_getElem hplace)
    exact habsent _ (hdelivered.present.subset (List.mem_map_of_mem haccepted))
  · intro hnone
    have haccepted : s.accepted = [] := by simp [accepted, hnone]
    constructor
    · rw [haccepted]
      exact List.nil_sublist _
    · intro message
      rw [List.count_eq_zero_of_not_mem (habsent message)]
      exact Nat.zero_le _

/-- A step makes a message accepted exactly if it writes its `Success`. -/
theorem answered_step_iff (s : RemoteProcess) (e : ProcessEvent) :
    (s.step e).answered = [] ↔ s.answered = [] ∧ s.AcceptsNone e := by
  have hsame : ∀ t : RemoteProcess, t.answered = s.answered → s.AcceptsNone e →
      (t.answered = [] ↔ s.answered = [] ∧ s.AcceptsNone e) :=
    fun t ht hnone => by rw [ht, and_iff_left hnone]
  cases e with
  | ipcWrite i failed =>
      cases failed with
      | true =>
          refine hsame _ ?_ trivial
          simp only [step]
          split
          · rfl
          · rfl
      | false =>
          by_cases haccepts : ∃ data k,
              s.connections[i]? = some (.answering (.success data) (some k))
          · obtain ⟨data, k, hanswering⟩ := haccepts
            refine iff_of_false ?_ fun hboth => hboth.2 data k hanswering
            simp [step, hanswering, writeResponse]
          · refine hsame _ ?_ fun data k hanswering => haccepts ⟨data, k, hanswering⟩
            simp only [step]
            split
            · rename_i response place hanswering
              simp only [writeResponse]
              split
              · rfl
              split
              · exact absurd ⟨_, _, hanswering⟩ haccepts
              · rfl
            · rfl
  | server event => exact hsame _ rfl trivial
  | ipcAccept =>
      refine hsame _ ?_ trivial
      simp only [step]
      split <;> rfl
  | ipcAcceptFailed => exact hsame _ rfl trivial
  | ipcRead i line surroundings uptime =>
      refine hsame _ ?_ trivial
      simp only [step]
      split
      · cases line with
        | command command =>
            obtain ⟨messages, hafter, _⟩ := s.handleCommand_spec surroundings uptime command
            simp only [readLine, hafter, setConnection]
        | _ => rfl
      · rfl
  | receiveMessage =>
      refine hsame _ ?_ trivial
      simp only [step]
      split <;> rfl
  | addMessage =>
      refine hsame _ ?_ trivial
      simp only [step]
      split <;> rfl

/-- After every run, the messages that were accepted are there exactly if there are none. -/
theorem delivered_iff_acceptsNone (es : List ProcessEvent) :
    (run step {} es).Delivered ↔ Along step (fun _ s e => s.AcceptsNone e) {} es := by
  have hrun : (run step {} es).Idle ∧ ((run step {} es).answered = [] ↔
      Along step (fun _ s e => s.AcceptsNone e) {} es) := by
    induction es using List.reverseRecOn with
    | nil =>
        refine ⟨⟨rfl, rfl, ?_, ?_, ?_⟩, iff_of_true rfl along_nil⟩
        · intro item hmem
          cases hmem
        · intro response k hmem
          cases hmem
        · intro k hmem
          cases hmem
    | append_singleton es e ih =>
        obtain ⟨hidle, hanswered⟩ := ih
        rw [run_append, run_cons, run_nil, along_concat, answered_step_iff, hanswered]
        exact ⟨hidle.step e, Iff.rfl⟩
  exact hrun.1.delivered_iff.trans hrun.2

/-- The shell sends a message, which is answered `Success`. -/
def messageEvents : List ProcessEvent :=
  [.ipcAccept, .ipcRead 0 (.command (.sendToClient "done")) {} 0, .ipcWrite 0 false]

theorem delivered_message_false : (run step {} messageEvents).Settled ∧
    (run step {} messageEvents).accepted = ["done"] ∧
    ¬ (run step {} messageEvents).Delivered := by
  refine ⟨⟨⟨rfl, rfl⟩, ?_, ?_⟩, rfl, ?_⟩
  · intro response place hmem
    cases List.mem_singleton.mp hmem
  · intro request response hsending
    cases hsending
  · intro hdelivered
    have hpresent : [ipcItem "done"].Sublist [] := hdelivered.present
    cases List.sublist_nil.mp hpresent

end RemoteProcess

end Yuha
