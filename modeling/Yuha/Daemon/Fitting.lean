import Yuha.Client.DaemonClient
import Yuha.Daemon.HandlerCalls

/-!
# Answers that fit

Whatever other tasks do to the manager between two actions of a request, its program sends
one response, at its end, and one of those that the request can be answered by.
-/

namespace Yuha

open Library Library.Program

namespace HandlerProgram

/-- Whatever its actions are answered, the program sends nothing, and its result satisfies
`P`. -/
def Returns {α : Type} (P : α → Prop) : HandlerProgram α → Prop
  | .done result => P result
  | .call (.send _ _) _ => False
  | .call _ next => ∀ answer, Returns P (next answer)

/-- Whatever its actions are answered, the program sends one response, last, which satisfies
`P`. -/
def Replies (P : DaemonResponse → Prop) : HandlerProgram Unit → Prop
  | .done _ => False
  | .call (.send _ response) _ => P response
  | .call _ next => ∀ answer, Replies P (next answer)

section

variable {α β : Type} {P : α → Prop}

theorem returns_call_iff {action : HandlerAction} {next : action.Answer → HandlerProgram α} :
    Returns P (.call action next) ↔
      (∀ client response, action ≠ .send client response) ∧ ∀ answer, Returns P (next answer) := by
  cases action with
  | send client response => exact iff_of_false id fun h => h.1 client response rfl
  | manager | getClient | insertClient | removeClient =>
      exact ⟨fun h => ⟨fun _ _ heq => (by cases heq), h⟩, And.right⟩

theorem Returns.mono {p : HandlerProgram α} (h : p.Returns P) {Q : α → Prop}
    (himp : ∀ result, P result → Q result) : p.Returns Q := by
  induction p with
  | done result => exact himp result h
  | call action next ih =>
      obtain ⟨hsend, hnext⟩ := returns_call_iff.mp h
      exact returns_call_iff.mpr ⟨hsend, fun answer => ih answer (hnext answer)⟩

theorem Returns.bind {Q : β → Prop} {p : HandlerProgram β} (h : p.Returns Q)
    {f : β → HandlerProgram α} (hf : ∀ result, Q result → (f result).Returns P) :
    (p >>= f).Returns P := by
  induction p with
  | done result => exact hf result h
  | call action next ih =>
      obtain ⟨hsend, hnext⟩ := returns_call_iff.mp h
      exact returns_call_iff.mpr ⟨hsend, fun answer => ih answer (hnext answer)⟩

/-- A program that sends nothing, and one that goes on with any result of it. -/
theorem returns_bind {p : HandlerProgram β} (h : p.Returns fun _ => True)
    {f : β → HandlerProgram α} (hf : ∀ result, (f result).Returns P) : (p >>= f).Returns P :=
  h.bind fun result _ => hf result

theorem returns_lift (p : ManagerProgram α) : p.lift.Returns fun _ => True := by
  induction p with
  | done result => trivial
  | call action next ih => exact ih

theorem replies_call {P : DaemonResponse → Prop} {action : HandlerAction}
    {next : action.Answer → HandlerProgram Unit}
    (hsend : ∀ client response, action ≠ .send client response)
    (hnext : ∀ answer, Replies P (next answer)) : Replies P (.call action next) := by
  cases action with
  | send client response => exact absurd rfl (hsend client response)
  | manager | getClient | insertClient | removeClient => exact hnext

/-- The response to the result of a program is sent. -/
theorem Returns.replies {P : DaemonResponse → Prop} {p : HandlerProgram DaemonResponse}
    (h : p.Returns P) (client : ClientId) :
    (p >>= fun response => (HandlerAction.send client response).await).Replies P := by
  induction p with
  | done response => exact h
  | call action next ih =>
      obtain ⟨hsend, hnext⟩ := returns_call_iff.mp h
      exact replies_call hsend fun answer => ih answer (hnext answer)

/-- A program that has a response to send goes on by it, or by something else and has it to
send still. -/
theorem Replies.cases {P : DaemonResponse → Prop} {p : HandlerProgram Unit} (h : p.Replies P) :
    (∃ client response next, p = .call (.send client response) next ∧ P response) ∨
      ∃ action next, p = .call action next ∧ (∀ client response, action ≠ .send client response) ∧
        ∀ answer, Replies P (next answer) := by
  cases p with
  | done => exact h.elim
  | call action next =>
      cases action with
      | send client response => exact .inl ⟨client, response, next, rfl, h⟩
      | manager | getClient | insertClient | removeClient =>
          exact .inr ⟨_, next, rfl, fun _ _ heq => (by cases heq), h⟩

end

/-! ## The requests -/

variable (config : SessionManagerConfig)

/-- The responses that tell a client of its session, or why it has none. -/
def GivesSession : DaemonResponse → Prop
  | .sessionCreated _ _ => True
  | .error code _ => code = .maxSessionsReached ∨ code = .connectionFailed
  | _ => False

theorem returns_connectClient (sessionId : SessionId) :
    (connectClient config sessionId).Returns fun _ => True := by
  refine returns_bind (returns_lift _) fun connecting => ?_
  cases connecting with
  | error e => trivial
  | ok =>
      intro _
      refine returns_bind (returns_lift _) fun active => ?_
      cases active <;> trivial

theorem returns_createAndConnect (name : String) (transportConfig : TransportConfig)
    (tags : List String) (description : Option String) :
    (createAndConnect config name transportConfig tags description).Returns GivesSession := by
  refine returns_bind (returns_lift _) fun created => ?_
  cases created with
  | error e => exact .inl rfl
  | ok sessionId =>
      refine returns_bind (returns_connectClient config sessionId) fun connected => ?_
      cases connected with
      | error e => exact returns_bind (returns_lift _) fun _ => .inr rfl
      | ok => trivial

theorem returns_handleCreateSession (name : String) (transportConfig : TransportConfig)
    (tags : List String) (description : Option String) :
    (handleCreateSession config name transportConfig tags description).Returns GivesSession := by
  intro found
  cases found with
  | none => exact returns_createAndConnect config name transportConfig tags description
  | some sessionId =>
      refine returns_bind (returns_lift _) fun used => ?_
      cases used with
      | error e => exact returns_createAndConnect config name transportConfig tags description
      | ok => trivial

theorem returns_useByName (name : String) (sessions : List SessionMetadata) :
    (useByName config name sessions).Returns fun _ => True := by
  induction sessions with
  | nil => trivial
  | cons session sessions ih =>
      unfold useByName
      split
      · refine returns_bind (returns_lift _) fun used => ?_
        cases used with
        | error e => exact ih
        | ok => trivial
      · exact ih

/-- Every request is answered by a response that fits it. -/
theorem returns_handleRequest (request : DaemonRequest) :
    (handleRequest config request).Returns request.Fits := by
  cases request with
  | ping | shutdown => trivial
  | createSession name transportConfig tags description =>
      refine (returns_handleCreateSession config name transportConfig tags description).mono ?_
      intro response h
      cases response <;> exact h
  | connectSession name transportConfig =>
      intro sessions
      refine returns_bind (returns_useByName config name sessions) fun used => ?_
      cases used with
      | some sessionId => trivial
      | none =>
          refine (returns_handleCreateSession config name transportConfig [] none).mono ?_
          intro response h
          cases response <;> exact h
  | disconnectSession sessionId =>
      intro _
      refine returns_bind (returns_lift _) fun idled => ?_
      cases idled with
      | error e => exact rfl
      | ok => trivial
  | listSessions => exact fun _ => trivial
  | getSessionInfo sessionId =>
      intro found
      cases found with
      | none => exact rfl
      | some metadata => trivial
  | executeCommand sessionId command =>
      intro found
      cases found with
      | none => exact rfl
      | some _ =>
          refine returns_bind (returns_lift _) fun _ => ?_
          cases command <;> trivial

end HandlerProgram

/-- The program of a request sends one answer, and it fits. -/
theorem DaemonInput.replies_program (config : SessionManagerConfig) (client : ClientId)
    (request : DaemonRequest) :
    ((DaemonInput.request client request).program config).Replies request.Fits :=
  (HandlerProgram.returns_handleRequest config request).replies client

end Yuha
