import Yuha.Core.Session.CallOrder

/-!
# Reuse while others close

`connect_or_create_session` looks a session up in the pool, and uses it in later calls on
the registry. Meanwhile another operation can unregister the session. Then the call ends
with `NotFound` and creates nothing, where the daemon's handler would go on and create.
-/

namespace Yuha

open Library Library.Execution Library.Program

namespace ManagerProgram

variable {config : SessionManagerConfig} {α : Type}

/-- The program has ended with an error. -/
def Fails (p : ManagerProgram (Except SessionError α)) : Prop := ∃ e, p = .done (.error e)

/-- What a program makes of an answer is an error only if the answer says so. A look-up is
answered by an error only where the program is in `updates`. -/
def FailsAsAnswered (updates : ManagerProgram (Except SessionError α) → Prop) :
    (action : ManagerAction) → (action.Answer → ManagerProgram (Except SessionError α)) → Prop
  | .register _, next => (∀ e, next (.error e) = .done (.error e)) ∧ ∀ id, ¬ Fails (next (.ok id))
  | .markUsed _, next => (∀ e, next (.error e) = .done (.error e)) ∧ ¬ Fails (next (.ok ()))
  | .updateStatus _ status, next =>
      status = .active ∧ (∀ e, next (.error e) = .done (.error e)) ∧ ¬ Fails (next (.ok ()))
  | .get sessionId, next =>
      (∀ answer, ¬ Fails (next answer)) ∨ updates (.call (.get sessionId) next)
  | _, next => ∀ answer, ¬ Fails (next answer)

/-- The calls that cannot make a program fail. -/
def Quiet : ManagerAction → Prop
  | .register _ | .markUsed _ | .updateStatus _ _ => False
  | _ => True

variable {updates : ManagerProgram (Except SessionError α) → Prop}

theorem not_fails_call (action : ManagerAction)
    (next : action.Answer → ManagerProgram (Except SessionError α)) :
    ¬ Fails (.call action next) := by
  rintro ⟨e, h⟩
  cases h

/-- A quiet part of a program does not make the rest of it fail. -/
theorem not_fails_then {β : Type} {p : ManagerProgram Unit} {q : ManagerProgram β}
    {f : β → ManagerProgram (Except SessionError α)} (hq : ¬ Fails (q >>= f)) :
    ¬ Fails ((p >>= fun _ => q) >>= f) := by
  cases p with
  | done result => exact hq
  | call action next => exact not_fails_call action _

theorem failsAsAnswered_then {β : Type} {p : ManagerProgram Unit} {q : ManagerProgram β}
    {f : β → ManagerProgram (Except SessionError α)} (hp : p.Forall fun action _ => Quiet action)
    (hends : ¬ Fails (q >>= f)) (hq : (q >>= f).Forall (FailsAsAnswered updates)) :
    ((p >>= fun _ => q) >>= f).Forall (FailsAsAnswered updates) := by
  induction p with
  | done result => exact hq
  | call action next ih =>
      refine ⟨?_, fun answer => ih answer (hp.2 answer)⟩
      have hquiet : Quiet action := hp.1
      have hnext : ∀ answer, ¬ Fails (((next answer) >>= fun _ => q) >>= f) :=
        fun answer => not_fails_then hends
      cases action with
      | register | markUsed | updateStatus => exact hquiet.elim
      | get sessionId => exact Or.inl hnext
      | ambient | update | listAll | unregister | unregisterExpired | addSession | removeSession
        | findSession | cleanupExpired | recordSessionCreated | recordStatusChange
        | recordConnectionSuccess | recordConnectionFailure | recordSessionUsage
        | recordSessionClosed | cleanupOldHistory => exact hnext

theorem quiet_whenMetrics (config : SessionManagerConfig) {p : ManagerProgram Unit}
    (h : p.Forall fun action _ => Quiet action) :
    (whenMetrics config p).Forall fun action _ => Quiet action := by
  unfold whenMetrics
  split
  · exact h
  · trivial

theorem quiet_recordUsage (sessionId : SessionId) :
    (recordUsage sessionId).Forall fun action _ => Quiet action := by
  refine ⟨trivial, fun found => ?_⟩
  cases found with
  | none => trivial
  | some metadata => exact ⟨trivial, fun _ => trivial⟩

theorem quiet_recordTransition (sessionId : SessionId) (oldStatus status : SessionStatus) :
    (recordTransition sessionId oldStatus status).Forall fun action _ => Quiet action := by
  refine ⟨trivial, fun _ => ?_⟩
  cases status with
  | active | failed =>
      dsimp only
      split
      · exact ⟨trivial, fun _ => trivial⟩
      · trivial
  | creating | connecting | idle | reconnecting | closing | closed => trivial

/-! ## The steps of `connect_or_create_session` -/

/-- What `connect_or_create_session` answers once it used a session. -/
def reuse (sessionId : SessionId) :
    Except SessionError Unit → ManagerProgram (Except SessionError (SessionId × Bool))
  | .error e => return .error e
  | .ok () => return .ok (sessionId, true)

variable (config) in
/-- The rest of `connect_or_create_session` when it makes the session active. -/
def activate (sessionId : SessionId) : ManagerProgram (Except SessionError (SessionId × Bool)) :=
  updateSessionStatus config sessionId .active >>= reuse sessionId

variable (config) in
/-- The registry is about to be asked for the session, which has to be there: to mark it
used, to look it up before it is made active, or to make it active. -/
def Asks (sessionId : SessionId) (p : ManagerProgram (Except SessionError (SessionId × Bool))) :
    Prop :=
  (∃ next, p = .call (.markUsed sessionId) next) ∨ p = activate config sessionId ∨
    ∃ next, p = .call (.updateStatus sessionId .active) next

variable (config) in
/-- The call fails only as the registry answers it. -/
abbrev Answered :
    (action : ManagerAction) →
      (action.Answer → ManagerProgram (Except SessionError (SessionId × Bool))) → Prop :=
  FailsAsAnswered fun p => ∃ sessionId, p = activate config sessionId

theorem not_fails_ok (result : α) :
    ¬ Fails (pure (.ok result) : ManagerProgram (Except SessionError α)) := by
  rintro ⟨e, h⟩
  cases h

theorem answered_activate (config : SessionManagerConfig) (sessionId : SessionId) :
    (activate config sessionId).Forall (Answered config) := by
  refine ⟨Or.inr ⟨sessionId, rfl⟩, fun found => ?_⟩
  cases found with
  | none => trivial
  | some metadata =>
      refine ⟨⟨rfl, fun e => rfl, not_fails_call _ _⟩, fun updated => ?_⟩
      cases updated with
      | error e => trivial
      | ok _ =>
          -- Out of the pool, into the metrics, and done.
          have hends : ¬ Fails (pure (.ok ()) >>= reuse sessionId) :=
            not_fails_ok (sessionId, true)
          have hrest := quiet_whenMetrics config
            (quiet_recordTransition sessionId metadata.status .active)
          exact failsAsAnswered_then (p := poolByStatus sessionId .active)
            ⟨trivial, fun _ => trivial⟩ (not_fails_then hends)
            (failsAsAnswered_then hrest hends trivial)

/-- The last part of `use_session`, which has looked the session up again. -/
def activateIdle (config : SessionManagerConfig) (sessionId : SessionId) :
    Option SessionMetadata → ManagerProgram (Except SessionError Unit)
  | some metadata =>
      if metadata.status = .idle then updateSessionStatus config sessionId .active
      else return .ok ()
  | none => return .ok ()

theorem answered_activateIdle (config : SessionManagerConfig) (sessionId : SessionId)
    (found : Option SessionMetadata) :
    ¬ Fails (activateIdle config sessionId found >>= reuse sessionId) ∧
      (activateIdle config sessionId found >>= reuse sessionId).Forall (Answered config) := by
  cases found with
  | none => exact ⟨not_fails_ok (sessionId, true), trivial⟩
  | some metadata =>
      by_cases hidle : metadata.status = .idle
      · rw [activateIdle, if_pos hidle]
        exact ⟨not_fails_call _ _, answered_activate config sessionId⟩
      · rw [activateIdle, if_neg hidle]
        exact ⟨not_fails_ok (sessionId, true), trivial⟩

theorem answered_useSession (config : SessionManagerConfig) (sessionId : SessionId) :
    (useSession config sessionId >>= reuse sessionId).Forall (Answered config) := by
  refine ⟨⟨fun e => rfl, not_fails_then (not_fails_call _ _)⟩, fun marked => ?_⟩
  cases marked with
  | error e => trivial
  | ok _ =>
      refine failsAsAnswered_then (quiet_whenMetrics config (quiet_recordUsage sessionId))
        (not_fails_call _ _) ⟨Or.inl fun found => ?_, fun found => ?_⟩
      · have hnot := (answered_activateIdle config sessionId found).1
        cases found <;> exact hnot
      · have hanswered := (answered_activateIdle config sessionId found).2
        cases found <;> exact hanswered

theorem answered_connectOrCreateSession (config : SessionManagerConfig) (name : String)
    (transportConfig : TransportConfig) :
    (connectOrCreateSession config name transportConfig).Forall (Answered config) := by
  refine ⟨fun found => ?_, fun found => ?_⟩
  · cases found <;> exact not_fails_call _ _
  cases found with
  | some sessionId => exact answered_useSession config sessionId
  | none =>
      refine ⟨fun ambient => not_fails_call _ _, fun ambient => ⟨⟨fun e => rfl, ?_⟩, ?_⟩⟩
      · intro id
        exact not_fails_then (not_fails_ok _)
      · intro registered
        cases registered with
        | error e => trivial
        | ok id =>
            exact failsAsAnswered_then (quiet_whenMetrics config ⟨trivial, fun _ => trivial⟩)
              (not_fails_ok _) trivial

end ManagerProgram

/-! ## Every run -/

/-- A call of `connect_or_create_session` next to other operations of the manager. -/
abbrev ConnectCall :=
  Watched SessionManager ManagerAction ManagerAction.Answer (Except SessionError (SessionId × Bool))

abbrev ConnectTurn := WatchedTurn ManagerTask Ambient

namespace ConnectCall

open ManagerProgram

/-- The call begins, whatever the others have done and are about to do. -/
def begin (config : SessionManagerConfig) (name : String) (transportConfig : TransportConfig)
    (others : ManagerCalls) : ConnectCall where
  program := connectOrCreateSession config name transportConfig
  others := others

abbrev step (config : SessionManagerConfig) (s : ConnectCall) (turn : ConnectTurn) :
    ConnectCall :=
  Watched.step (ManagerTask.program config) SessionManager.exec s turn

/-- If the turn ends the call with an error, it is the one by which the registry refuses
the new session. -/
def FailsOnlyRefused (config : SessionManagerConfig) (s : ConnectCall) (turn : ConnectTurn) :
    Prop :=
  ∀ ambient e, turn = .own ambient → ¬ Fails s.program →
    (step config s turn).program = .done (.error e) →
    ∃ metadata next, s.program = .call (.register metadata) next ∧
      s.others.shared.registry.checkRegister metadata = .error e

/-- When the call asks the registry for the session to reuse, the session is registered. -/
def FindsRegistered (config : SessionManagerConfig) (s : ConnectCall) (turn : ConnectTurn) :
    Prop :=
  ∀ ambient sessionId, turn = .own ambient → Asks config sessionId s.program →
    (s.others.shared.getSession sessionId).isSome

variable {config : SessionManagerConfig} {s : ConnectCall} {ambient : Ambient}

theorem failsOnlyRefused_of_not_fails (h : ¬ Fails (step config s (.own ambient)).program) :
    FailsOnlyRefused config s (.own ambient) := by
  rintro _ e ⟨⟩ _ hfails
  exact absurd ⟨e, hfails⟩ h

theorem not_failsOnlyRefused {action : ManagerAction}
    {next : action.Answer → ManagerProgram (Except SessionError (SessionId × Bool))}
    (hprogram : s.program = .call action next) {e : SessionError}
    (hfails : (step config s (.own ambient)).program = .done (.error e))
    (haction : ∀ metadata, action ≠ .register metadata) :
    ¬ FailsOnlyRefused config s (.own ambient) := by
  intro h
  obtain ⟨metadata, next', hregister, _⟩ := h ambient e rfl
    (hprogram ▸ not_fails_call action next) hfails
  obtain ⟨rfl, _⟩ := Program.call.inj (hprogram.symm.trans hregister)
  exact haction metadata rfl

/-- The calls on the registry that answer `NotFound` for the session they are about. -/
theorem failsOnlyRefused_iff_isSome {action : ManagerAction}
    {next : action.Answer → ManagerProgram (Except SessionError (SessionId × Bool))}
    (hprogram : s.program = .call action next) (haction : ∀ metadata, action ≠ .register metadata)
    {sessionId : SessionId}
    (hnone : s.others.shared.getSession sessionId = none →
      ∃ e, next (SessionManager.exec ambient action s.others.shared).1 = .done (.error e))
    (hsome : (s.others.shared.getSession sessionId).isSome →
      ¬ Fails (next (SessionManager.exec ambient action s.others.shared).1)) :
    FailsOnlyRefused config s (.own ambient) ↔
      (s.others.shared.getSession sessionId).isSome := by
  have hstep : (step config s (.own ambient)).program = _ := Watched.step_own hprogram
  constructor
  · intro h
    rw [Option.isSome_iff_ne_none]
    intro hmissing
    obtain ⟨e, he⟩ := hnone hmissing
    exact not_failsOnlyRefused hprogram (hstep.trans he) haction h
  · intro h
    exact failsOnlyRefused_of_not_fails (hstep ▸ hsome h)

/-- A call that asks for a session is about that session. -/
theorem asks_cases {action : ManagerAction}
    {next : action.Answer → ManagerProgram (Except SessionError (SessionId × Bool))}
    {sessionId : SessionId} (h : Asks config sessionId (.call action next)) :
    action = .markUsed sessionId ∨ action = .get sessionId ∧
        .call action next = activate config sessionId ∨
      action = .updateStatus sessionId .active := by
  rcases h with ⟨next', hmark⟩ | hactivate | ⟨next', hupdate⟩
  · exact Or.inl (Program.call.inj hmark).1
  · exact Or.inr (Or.inl ⟨(Program.call.inj hactivate).1, hactivate⟩)
  · exact Or.inr (Or.inr (Program.call.inj hupdate).1)

/-- The session that a call asks for is the one its action is about. -/
theorem findsRegistered_iff_isSome {sessionId : SessionId}
    (h : Asks config sessionId s.program)
    (honly : ∀ other, Asks config other s.program → other = sessionId) :
    FindsRegistered config s (.own ambient) ↔
      (s.others.shared.getSession sessionId).isSome := by
  constructor
  · intro hfinds
    exact hfinds ambient sessionId rfl h
  · rintro hsome _ other ⟨⟩ hasks
    exact honly other hasks ▸ hsome

theorem findsRegistered_of_not_asks (h : ∀ sessionId, ¬ Asks config sessionId s.program) :
    FindsRegistered config s (.own ambient) :=
  fun _ sessionId _ hasks => absurd hasks (h sessionId)

/-- A step that cannot fail, of a call that does not ask for a session. -/
theorem iff_of_not_fails {action : ManagerAction}
    {next : action.Answer → ManagerProgram (Except SessionError (SessionId × Bool))}
    (hprogram : s.program = .call action next) (h : ∀ answer, ¬ Fails (next answer))
    (hasks : ∀ sessionId, ¬ Asks config sessionId (.call action next)) :
    FailsOnlyRefused config s (.own ambient) ↔ FindsRegistered config s (.own ambient) := by
  have hstep : (step config s (.own ambient)).program = _ := Watched.step_own hprogram
  exact iff_of_true (failsOnlyRefused_of_not_fails (hstep ▸ h _))
    (findsRegistered_of_not_asks (hprogram ▸ hasks))

theorem failsOnlyRefused_register {metadata : SessionMetadata}
    {next : Except SessionError SessionId →
      ManagerProgram (Except SessionError (SessionId × Bool))}
    (hprogram : s.program = .call (.register metadata) next)
    (hanswered : Answered config (.register metadata) next) :
    FailsOnlyRefused config s (.own ambient) := by
  obtain ⟨herror, hok⟩ := hanswered
  have hstep : (step config s (.own ambient)).program =
      next (s.others.shared.registry.register metadata).1 := Watched.step_own hprogram
  rintro _ e ⟨⟩ _ hfails
  refine ⟨metadata, next, hprogram, ?_⟩
  rw [hstep] at hfails
  cases hcheck : s.others.shared.registry.checkRegister metadata with
  | error e' =>
      rw [SessionRegistry.register_of_error hcheck, herror] at hfails
      cases hfails
      rfl
  | ok _ =>
      rw [SessionRegistry.register_fst_of_ok hcheck] at hfails
      exact absurd ⟨e, hfails⟩ (hok metadata.id)

/-- A change of a session answers `NotFound` exactly if the session is not registered. -/
theorem failsOnlyRefused_modify {action : ManagerAction} {sessionId : SessionId}
    {f : SessionMetadata → SessionMetadata}
    {next : action.Answer → ManagerProgram (Except SessionError (SessionId × Bool))}
    {after : Except SessionError Unit → ManagerProgram (Except SessionError (SessionId × Bool))}
    (hprogram : s.program = .call action next) (haction : ∀ metadata, action ≠ .register metadata)
    (hafter : next (SessionManager.exec ambient action s.others.shared).1 =
      after (s.others.shared.registry.modify sessionId f).1)
    (herror : ∀ e, after (.error e) = .done (.error e)) (hok : ¬ Fails (after (.ok ()))) :
    FailsOnlyRefused config s (.own ambient) ↔
      (s.others.shared.getSession sessionId).isSome := by
  refine failsOnlyRefused_iff_isSome hprogram haction (fun hnone => ?_) fun hsome => ?_
  · refine ⟨.notFound sessionId.toString, ?_⟩
    rw [hafter, SessionRegistry.modify_of_none hnone, herror]
  · obtain ⟨metadata, hget⟩ := Option.isSome_iff_exists.mp hsome
    rw [hafter, SessionRegistry.modify_fst_of_some hget]
    exact hok

/-- The look-up before a session is made active is answered `NotFound` likewise. -/
theorem failsOnlyRefused_activate {sessionId : SessionId}
    (hprogram : s.program = activate config sessionId) :
    FailsOnlyRefused config s (.own ambient) ↔
      (s.others.shared.getSession sessionId).isSome := by
  obtain ⟨next, hactivate, hnone, hsome⟩ : ∃ next : Option SessionMetadata → _,
      activate config sessionId = .call (.get sessionId) next ∧
        next none = .done (.error (.notFound sessionId.toString)) ∧
        ∀ metadata, ¬ Fails (next (some metadata)) :=
    ⟨_, rfl, rfl, fun _ => not_fails_call _ _⟩
  apply failsOnlyRefused_iff_isSome (hprogram.trans hactivate) fun _ => by rintro ⟨⟩
  · intro hmissing
    exact ⟨_, (congrArg next hmissing).trans hnone⟩
  · intro hregistered
    obtain ⟨metadata, hget⟩ := Option.isSome_iff_exists.mp hregistered
    exact fun hfails => hsome metadata (congrArg next hget ▸ hfails)

/-- A call that has ended neither fails again nor asks for a session. -/
theorem iff_of_done {result : Except SessionError (SessionId × Bool)}
    (hprogram : s.program = .done result) :
    FailsOnlyRefused config s (.own ambient) ↔ FindsRegistered config s (.own ambient) := by
  refine iff_of_true ?_ (findsRegistered_of_not_asks fun sessionId hasks => ?_)
  · rintro _ e ⟨⟩ hnot hfails
    exact absurd ⟨e, by simpa only [Watched.step, hprogram] using hfails⟩ hnot
  · rw [hprogram] at hasks
    obtain ⟨_, hmark⟩ | hactivate | ⟨_, hupdate⟩ := hasks
    · cases hmark
    · cases hactivate
    · cases hupdate

/-- A look-up is the one before a session is made active, or its answer cannot fail the
call. -/
theorem iff_of_get {sessionId : SessionId}
    {next : Option SessionMetadata → ManagerProgram (Except SessionError (SessionId × Bool))}
    (hprogram : s.program = .call (.get sessionId) next)
    (hanswered : Answered config (.get sessionId) next) :
    FailsOnlyRefused config s (.own ambient) ↔ FindsRegistered config s (.own ambient) := by
  obtain hnot | ⟨other, hactivate⟩ := hanswered
  · refine iff_of_not_fails hprogram hnot fun other hasks => ?_
    obtain hwrong | ⟨_, hactivate⟩ | hwrong := asks_cases hasks
    · cases hwrong
    · -- Its answer to a missing session would be `NotFound`.
      obtain ⟨_, hnext⟩ := Program.call.inj hactivate
      obtain rfl := eq_of_heq hnext
      exact hnot none ⟨_, rfl⟩
    · cases hwrong
  · have hprogram' : s.program = activate config other := hprogram.trans hactivate
    refine (failsOnlyRefused_activate hprogram').trans
      (findsRegistered_iff_isSome (Or.inr (Or.inl hprogram')) fun other' hasks => ?_).symm
    have hid := ManagerAction.get.inj (Program.call.inj hactivate).1
    obtain hwrong | ⟨hsame, _⟩ | hwrong := asks_cases (hprogram ▸ hasks)
    · cases hwrong
    · exact (ManagerAction.get.inj hsame).symm.trans hid
    · cases hwrong

/-- A call that follows the registry's answers fails by a refusal only, exactly if it finds
registered what it asks for. -/
theorem failsOnlyRefused_iff_findsRegistered (h : s.program.Forall (Answered config))
    (turn : ConnectTurn) :
    FailsOnlyRefused config s turn ↔ FindsRegistered config s turn := by
  cases turn with
  | other turn => exact iff_of_true (by rintro _ _ ⟨⟩) (by rintro _ _ ⟨⟩)
  | own ambient =>
  cases hprogram : s.program with
  | done result => exact iff_of_done hprogram
  | call action next =>
  rw [hprogram] at h
  obtain ⟨hanswered, -⟩ := h
  have honly : ∀ other, Asks config other s.program → action = .markUsed other ∨
      action = .get other ∧ .call action next = activate config other ∨
      action = .updateStatus other .active := fun other hasks => asks_cases (hprogram ▸ hasks)
  cases action with
  | register metadata =>
      refine iff_of_true (failsOnlyRefused_register hprogram hanswered)
        (findsRegistered_of_not_asks fun sessionId hasks => ?_)
      rcases honly sessionId hasks with hwrong | ⟨hwrong, _⟩ | hwrong <;> cases hwrong
  | markUsed sessionId =>
      obtain ⟨herror, hok⟩ := hanswered
      refine (failsOnlyRefused_modify hprogram (fun _ => by rintro ⟨⟩) rfl herror hok).trans
        (findsRegistered_iff_isSome (Or.inl ⟨next, hprogram⟩) fun other hasks => ?_).symm
      rcases honly other hasks with hsame | ⟨hwrong, _⟩ | hwrong
      · exact (ManagerAction.markUsed.inj hsame).symm
      · cases hwrong
      · cases hwrong
  | updateStatus sessionId status =>
      obtain ⟨rfl, herror, hok⟩ := hanswered
      refine (failsOnlyRefused_modify hprogram (fun _ => by rintro ⟨⟩) rfl herror hok).trans
        (findsRegistered_iff_isSome (Or.inr (Or.inr ⟨next, hprogram⟩)) fun other hasks => ?_).symm
      rcases honly other hasks with hwrong | ⟨hwrong, _⟩ | hsame
      · cases hwrong
      · cases hwrong
      · exact (ManagerAction.updateStatus.inj hsame).1.symm
  | get sessionId => exact iff_of_get hprogram hanswered
  | ambient | update | listAll | unregister | unregisterExpired | addSession | removeSession
    | findSession | cleanupExpired | recordSessionCreated | recordStatusChange
    | recordConnectionSuccess | recordConnectionFailure | recordSessionUsage
    | recordSessionClosed | cleanupOldHistory =>
      refine iff_of_not_fails hprogram hanswered fun sessionId hasks => ?_
      rcases asks_cases hasks with hwrong | ⟨hwrong, _⟩ | hwrong <;> cases hwrong

/-- Whatever happens meanwhile, the call fails by a refusal of the registry only, exactly if
it finds the session to reuse registered each time it asks for it. -/
theorem failsOnlyRefused_iff (config : SessionManagerConfig) (name : String)
    (transportConfig : TransportConfig) (others : ManagerCalls) (turns : List ConnectTurn) :
    Along (step config) (fun _ => FailsOnlyRefused config)
        (begin config name transportConfig others) turns ↔
      Along (step config) (fun _ => FindsRegistered config)
        (begin config name transportConfig others) turns := by
  refine along_congr (A := fun _ _ _ => True) (I := fun _ s => s.program.Forall (Answered config))
    (fun _ _ _ => trivial) (answered_connectOrCreateSession config name transportConfig) ?_ ?_
  · exact fun _ s turn h _ => Watched.forall_step h turn
  · exact fun _ s turn h _ => failsOnlyRefused_iff_findsRegistered h turn

/-- A session was created and left idle. -/
def restingCalls : ManagerCalls :=
  run (ManagerCalls.step {}) (ManagerCalls.new {})
    ([.start (.createSession "build" {} [] none)] ++ ManagerCalls.turnsOf 0 0 3 ++
      [.start (.updateSessionStatus ⟨1⟩ .idle)] ++ ManagerCalls.turnsOf 0 1 5)

/-- A time in seconds, and what a turn would draw at it. -/
def atSeconds (secs : Nat) : Ambient where
  now := Duration.fromSecs secs
  freshId := ⟨2⟩
  rank := fun _ => 0

/-- The session is found in the pool. Before it is marked used, it is closed. -/
def closedBeforeUse : List ConnectTurn :=
  [.own (atSeconds 10), .other (.start (.closeSession ⟨1⟩))] ++
    List.replicate 8 (.other (.advance 2 (atSeconds 11)))

/-- The call ends with `NotFound`, although the registry has room. -/
theorem failsOnlyRefused_false :
    ¬ Along (step {}) (fun _ => FailsOnlyRefused {}) (begin {} "deploy" {} restingCalls)
      (closedBeforeUse ++ [.own (atSeconds 12)]) := by
  intro h
  have hrefused := h closedBeforeUse _ (List.prefix_refl _) (atSeconds 12)
    (.notFound (SessionId.toString ⟨1⟩)) rfl (not_fails_call _ _) rfl
  obtain ⟨metadata, next, hregister, _⟩ := hrefused
  cases hregister

end ConnectCall

end Yuha
