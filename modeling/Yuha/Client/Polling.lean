import Yuha.Remote.Pending
import Yuha.Remote.Replying

/-!
# Who gets the buffered items

Every call of a `Client` goes through `send_request`, one call after the other. Two kinds of
requests empty the response buffer of the server, and `Data` comes back to three kinds of
calls. A `ClientSession` follows the calls next to the server and records the items that
callers of `poll_data` and handlers of polling loops were given.

## Implementation notes

A call is one event, from the channel's mutex to the handling of its request; what comes
back to it is handed over when the server has sent it. A polling loop takes the mutex anew
for each poll, so that its polls are calls of their own. `handed` is not in the code.
-/

namespace Yuha

open Library Library.Execution

/-- The items about connections. -/
def relevant (items : List ResponseItem) : List ResponseItem :=
  items.filter fun item => item.connection.isSome

@[simp] theorem relevant_append (items items' : List ResponseItem) :
    relevant (items ++ items') = relevant items ++ relevant items' :=
  List.filter_append ..

/-- A running `start_polling_loop`. The handler may keep state, so its answer depends on all
the items it has been given. -/
structure PollingLoop where
  handler : List ResponseItem → Bool
  seen : List ResponseItem := []
  returned : Bool := false

namespace PollingLoop

/-- One batch of items: those the handler is given, and the loop afterwards. -/
def feed (loop : PollingLoop) : List ResponseItem → List ResponseItem × PollingLoop
  | [] => ([], loop)
  | item :: items =>
      let given := { loop with seen := loop.seen ++ [item] }
      if given.handler given.seen then
        let (more, loop) := given.feed items
        (item :: more, loop)
      else ([item], { given with returned := true })

/-- Wherever the handler declines an item of a batch, no item about a connection is behind. -/
def DeclinesLate (loop : PollingLoop) (items : List ResponseItem) : Prop :=
  ∀ front item rest, items = front ++ item :: rest →
    loop.handler (loop.seen ++ (front ++ [item])) = false → relevant rest = []

/-- The items of a batch that come after the one at which the handler stops. -/
def leftover (loop : PollingLoop) (items : List ResponseItem) : List ResponseItem :=
  items.drop (loop.feed items).1.length

theorem leftover_cons (loop : PollingLoop) (item : ResponseItem) (items : List ResponseItem) :
    loop.leftover (item :: items) =
      if loop.handler (loop.seen ++ [item]) then
        { loop with seen := loop.seen ++ [item] }.leftover items
      else items := by
  unfold leftover
  by_cases hgoes : loop.handler (loop.seen ++ [item]) = true
  · simp [feed, hgoes]
  · simp [feed, hgoes]

theorem feed_append_leftover (loop : PollingLoop) (items : List ResponseItem) :
    (loop.feed items).1 ++ loop.leftover items = items := by
  induction items generalizing loop with
  | nil => rfl
  | cons item items ih =>
      have hmore := ih { loop with seen := loop.seen ++ [item] }
      rw [leftover_cons]
      by_cases hgoes : loop.handler (loop.seen ++ [item]) = true
      · simpa [feed, hgoes] using hmore
      · simp [feed, hgoes]

/-- What is lost with the end of a loop, in terms of its handler. -/
theorem relevant_leftover_iff (loop : PollingLoop) (items : List ResponseItem) :
    relevant (loop.leftover items) = [] ↔ loop.DeclinesLate items := by
  induction items generalizing loop with
  | nil =>
      refine iff_of_true rfl fun front item rest hitems => ?_
      simp at hitems
  | cons item items ih =>
      rw [leftover_cons]
      by_cases hgoes : loop.handler (loop.seen ++ [item]) = true
      · rw [if_pos hgoes, ih]
        constructor
        · rintro hlate (_ | ⟨first, front⟩) declined rest hitems hdeclined
          · obtain ⟨rfl, rfl⟩ := List.cons.inj hitems
            exact absurd hgoes (by simpa using hdeclined)
          · obtain ⟨rfl, rfl⟩ := List.cons.inj hitems
            exact hlate front declined rest rfl (by simpa using hdeclined)
        · rintro hlate front declined rest rfl hdeclined
          exact hlate (item :: front) declined rest rfl (by simpa using hdeclined)
      · rw [if_neg hgoes]
        constructor
        · rintro hnone (_ | ⟨first, front⟩) declined rest hitems _
          · obtain ⟨rfl, rfl⟩ := List.cons.inj hitems
            exact hnone
          · obtain ⟨rfl, rfl⟩ := List.cons.inj hitems
            have hall : relevant ((front ++ [declined]) ++ rest) = [] :=
              List.append_cons front declined rest ▸ hnone
            exact (List.append_eq_nil_iff.mp ((relevant_append _ _).symm.trans hall)).2
        · exact fun hlate => hlate [] item items rfl (by simpa using hgoes)

end PollingLoop

inductive ClientCall
  | pollData
  /-- The next poll of a polling loop. -/
  | pollingLoop (k : Nat)
  | getClipboard
  | setClipboard (content : String)
  | openBrowser (url : String)
  | startPortForward (localPort : UInt16) (remoteHost : String) (remotePort : UInt16)
  | stopPortForward (localPort : UInt16)
  | sendPortForwardData (connectionId : UInt32) (data : Bytes)

def ClientCall.request : ClientCall → ProtocolRequest
  | .pollData | .pollingLoop _ => .pollData
  | .getClipboard => .getClipboard
  | .setClipboard content => .setClipboard content
  | .openBrowser url => .openBrowser url
  | .startPortForward localPort remoteHost remotePort =>
      .startPortForward localPort remoteHost remotePort
  | .stopPortForward localPort => .stopPortForward localPort
  | .sendPortForwardData connectionId data => .portForwardData connectionId data

structure ClientSession where
  server : RemoteServer := {}
  /-- The call that waits for its response. -/
  holder : Option ClientCall := none
  loops : List PollingLoop := []
  handed : List ResponseItem := []

inductive SessionEvent
  | startPollingLoop (handler : List ResponseItem → Bool)
  | call (call : ClientCall) (surroundings : Surroundings)
  /-- Any other step of the server. -/
  | server (event : RemoteEvent)

namespace ClientSession

/-- A polling loop polls until it has returned. -/
def Ready (s : ClientSession) : ClientCall → Prop
  | .pollingLoop k => ∃ loop ∈ s.loops[k]?, loop.returned = false
  | _ => True

instance (s : ClientSession) (call : ClientCall) : Decidable (s.Ready call) :=
  match call with
  | .pollingLoop k =>
      match h : s.loops[k]? with
      | some loop =>
          decidable_of_iff (loop.returned = false) (by simp [Ready, h])
      | none => isFalse (by simp [Ready, h])
  | .pollData | .getClipboard | .setClipboard _ | .openBrowser _ | .startPortForward .. |
    .stopPortForward _ | .sendPortForwardData .. => isTrue trivial

def call (s : ClientSession) (call : ClientCall) (surroundings : Surroundings) : ClientSession :=
  match s.holder, s.server.mainLoop with
  | none, .receiving =>
      if s.Ready call then
        { s with
          server := s.server.step (.request call.request surroundings)
          holder := some call }
      else s
  | _, _ => s

/-- What the call does with the response. `get_clipboard` returns the first content among
the items, and the other calls look at no items. -/
def receive (s : ClientSession) (response : ProtocolResponse) : ClientSession :=
  match s.holder, response with
  | some .pollData, .data items => { s with holder := none, handed := s.handed ++ items }
  | some (.pollingLoop k), .data items =>
      match s.loops[k]? with
      | some loop =>
          let (given, loop) := loop.feed items
          { s with holder := none, loops := s.loops.set k loop, handed := s.handed ++ given }
      | none => { s with holder := none }
  | _, _ => { s with holder := none }

/-- The server sends its response, and the call that waits receives it. -/
def sent (s : ClientSession) (failure : Option String) : ClientSession :=
  match s.server.mainLoop with
  | .sending _ response =>
      let server := s.server.step (.send failure)
      match server.mainLoop with
      | .receiving => { s with server := server }.receive response
      | _ => { s with server := server }
  | _ => s

def step (s : ClientSession) : SessionEvent → ClientSession
  | .startPollingLoop handler => { s with loops := s.loops ++ [⟨handler, [], false⟩] }
  | .call call surroundings => s.call call surroundings
  | .server (.request _ _) => s
  | .server (.send failure) => s.sent failure
  | .server event => { s with server := s.server.step event }

end ClientSession

namespace ClientSession

/-- Every item about a connection that was added was handed over, once and in order, or is
on its way to a poll or in the buffer. -/
def HandsOver (s : ClientSession) : Prop :=
  relevant s.server.added = relevant s.handed ++ relevant s.server.undelivered

/-- `get_clipboard` finds nothing else in the buffer; a polled batch can be sent, and no
handler stops before the end of one. -/
def KeepsItems (s : ClientSession) : SessionEvent → Prop
  | .call .getClipboard surroundings => s.holder = none → s.server.mainLoop = .receiving →
      ∀ content, surroundings.clipboard = .ok content → relevant s.server.responseBuffer.items = []
  | .server (.send failure) => ∀ items, s.server.mainLoop = .sending .pollData (.data items) →
      (relevant items ≠ [] → dataSize items ≤ maxPayload ∧ failure = none) ∧
      ∀ k loop, s.holder = some (.pollingLoop k) → s.loops[k]? = some loop →
        loop.DeclinesLate items
  | _ => True

end ClientSession

namespace ClientSession

open RemoteServer

variable {s : ClientSession}

/-- The request that the server is at is the one of the call that waits, and a polling loop
that waits is there. -/
def Waiting (s : ClientSession) : Prop :=
  ∀ request, s.server.mainLoop.request = some request →
    ∃ call, s.holder = some call ∧ call.request = request ∧ s.Ready call

/-- The items `lost` are missing from what was handed over and from what is still to come. -/
theorem handsOver_iff_nil {added handed given lost rest : List ResponseItem}
    (h : added = handed ++ (given ++ lost) ++ rest) :
    added = handed ++ given ++ rest ↔ lost = [] := by
  constructor
  · intro h'
    have hlength := congrArg List.length (h.symm.trans h')
    simp only [List.length_append] at hlength
    exact List.length_eq_zero_iff.mp (by omega)
  · rintro rfl
    simpa using h

theorem HandsOver.of_server (h : s.HandsOver) {server : RemoteServer}
    (holder : Option ClientCall) {items : List ResponseItem}
    (hadded : server.added = s.server.added ++ items)
    (hundelivered : server.undelivered = s.server.undelivered ++ items) :
    HandsOver { s with server := server, holder := holder } := by
  have hbefore : relevant s.server.added = relevant s.handed ++ relevant s.server.undelivered := h
  show relevant server.added = relevant s.handed ++ relevant server.undelivered
  simp only [hadded, hundelivered, relevant_append, hbefore, List.append_assoc]

/-- A call's request is handled. Only `get_clipboard` can lose items by that. -/
theorem handsOver_call (h : s.HandsOver) (hholder : s.holder = none)
    (ready : s.server.mainLoop = .receiving) (call : ClientCall) (surroundings : Surroundings) :
    HandsOver { s with
      server := s.server.handleRequest surroundings call.request
      holder := some call } ↔ s.KeepsItems (.call call surroundings) := by
  obtain ⟨_, hkeeps⟩ := handleRequest_keeps ready surroundings call.request
  by_cases hclipboard : call.request = .getClipboard
  · have hcall : call = .getClipboard := by
      cases call <;> first | rfl | simp [ClientCall.request] at hclipboard
    subst hcall
    have hbefore : relevant s.server.added =
        relevant s.handed ++ relevant s.server.responseBuffer.items := by
      simpa [HandsOver, undelivered, inTransit, ready] using h
    simp only [KeepsItems, ClientCall.request, handleRequest]
    cases hos : surroundings.clipboard with
    | ok content =>
        have hadded : relevant ((s.server.add .mainLoop (.clipboardContent content)).takeItems
            .getClipboard).added = relevant s.server.added := by
          have hall := added_add s.server .mainLoop (.clipboardContent content)
          exact (congrArg relevant hall).trans (by simp [relevant, ResponseItem.connection])
        have hafter : HandsOver { s with
            server := s.server.getClipboard (.ok content)
            holder := some .getClipboard } ↔
            relevant s.server.added = relevant s.handed ++ [] ++ [] := by
          show relevant ((s.server.add .mainLoop (.clipboardContent content)).takeItems
            .getClipboard).added = relevant s.handed ++ relevant [] ↔ _
          rw [hadded, List.append_nil]
          rfl
        have hlost := hafter.trans (handsOver_iff_nil
          (by rw [hbefore, List.nil_append, List.append_nil]))
        constructor
        · intro h' _ _ _ _
          exact hlost.mp h'
        · intro hkept
          exact hlost.mpr (hkept hholder ready content rfl)
    | error e =>
        refine iff_of_true ?_ fun _ _ content hok => by cases hok
        have hundelivered : (s.server.getClipboard (.error e)).undelivered =
            s.server.undelivered := by
          simp [undelivered, inTransit, ready, getClipboard, respond]
        exact h.of_server (some .getClipboard) (List.append_nil _).symm
          (hundelivered.trans (List.append_nil _).symm)
  · obtain ⟨hadded, hundelivered⟩ := hkeeps hclipboard
    have hafter : HandsOver { s with
        server := s.server.handleRequest surroundings call.request
        holder := some call } :=
      h.of_server (some call) (hadded.trans (List.append_nil _).symm)
        (hundelivered.trans (List.append_nil _).symm)
    apply iff_of_true hafter
    cases call with
    | getClipboard => exact absurd rfl hclipboard
    | _ => trivial

/-- The response is sent and received, or the main loop ends. -/
theorem sent_cases {request : ProtocolRequest} {response : ProtocolResponse}
    (sending : s.server.mainLoop = .sending request response) (failure : Option String) :
    (response.encodedSize ≤ maxPayload ∧ failure = none) ∧
      s.sent failure = receive { s with server := { s.server with
        mainLoop := .receiving
        exchanges := s.server.exchanges ++ [(request, response)] } } response ∨
    ¬ (response.encodedSize ≤ maxPayload ∧ failure = none) ∧
      ∃ error, s.sent failure =
        { s with server := { s.server with mainLoop := .ended error } } := by
  rcases sendResponse_cases sending failure with ⟨hfits, hsent⟩ | ⟨hfails, error, hsent⟩
  · refine .inl ⟨hfits, ?_⟩
    simp only [sent, sending, RemoteServer.step, hsent]
  · refine .inr ⟨hfails, error, ?_⟩
    simp only [sent, sending, RemoteServer.step, hsent]

theorem receive_server (s : ClientSession) (response : ProtocolResponse) :
    (s.receive response).server = s.server := by
  unfold receive
  split
  · rfl
  · split <;> rfl
  · rfl

/-- While nothing is sent, no step of the server's send happens. -/
theorem sent_of_ne (failure : Option String)
    (hquiet : ¬ ∃ request response, s.server.mainLoop = .sending request response) :
    s.sent failure = s := by
  unfold sent
  split
  · exact absurd ⟨_, _, ‹_›⟩ hquiet
  · rfl

/-- A response without items for a poll is received. -/
theorem handsOver_receive_other (h : s.HandsOver) {response : ProtocolResponse}
    (hother : ∀ call items, s.holder = some call → response = .data items →
      call.request ≠ .pollData) : (s.receive response).HandsOver := by
  unfold receive
  split
  · exact absurd rfl (hother _ _ ‹_› rfl)
  · exact absurd rfl (hother _ _ ‹_› rfl)
  · exact h

/-- The batch of a poll is received. -/
theorem handsOver_receive_data {call : ClientCall} {items rest : List ResponseItem}
    (hbefore : relevant s.server.added = relevant s.handed ++ relevant items ++ relevant rest)
    (hrest : s.server.undelivered = rest) (hholder : s.holder = some call)
    (hpoll : call.request = .pollData) (hready : s.Ready call) :
    (s.receive (.data items)).HandsOver ↔
      ∀ k loop, s.holder = some (.pollingLoop k) → s.loops[k]? = some loop →
        loop.DeclinesLate items := by
  cases call with
  | pollData =>
      have hafter : (s.receive (.data items)).HandsOver := by
        simp only [receive, hholder, HandsOver, relevant_append, hrest]
        exact hbefore
      refine iff_of_true hafter fun k loop hloop => ?_
      cases hholder.symm.trans hloop
  | pollingLoop k =>
      obtain ⟨loop, hloop, hgoes⟩ := hready
      have hafter : (s.receive (.data items)).HandsOver ↔ relevant s.server.added =
          relevant s.handed ++ relevant (loop.feed items).1 ++ relevant rest := by
        simp only [receive, hholder, Option.mem_def.mp hloop, HandsOver, relevant_append, hrest]
      have hlost := hafter.trans (handsOver_iff_nil (by
        rw [hbefore, ← relevant_append (loop.feed items).1, loop.feed_append_leftover]))
      rw [loop.relevant_leftover_iff] at hlost
      constructor
      · intro h' k' loop' hholder' hloop'
        obtain rfl := ClientCall.pollingLoop.inj (Option.some.inj (hholder.symm.trans hholder'))
        obtain rfl := Option.some.inj (hloop.symm.trans hloop')
        exact hlost.mp h'
      · intro hkept
        exact hlost.mpr (hkept k loop hholder hloop)
  | _ => cases hpoll

/-- The response to a poll cannot be sent, and its batch is lost with the connection. -/
theorem handsOver_lost {items rest : List ResponseItem} {error : YuhaError}
    (hbefore : relevant s.server.added = relevant s.handed ++ relevant items ++ relevant rest)
    (hrest : s.server.responseBuffer.items = rest) :
    HandsOver { s with server := { s.server with mainLoop := .ended error } } ↔
      relevant items = [] := by
  have hafter : HandsOver { s with server := { s.server with mainLoop := .ended error } } ↔
      relevant s.server.added = relevant s.handed ++ [] ++ relevant rest := by
    rw [List.append_nil, ← hrest]
    rfl
  exact hafter.trans (handsOver_iff_nil hbefore)

/-- The response to a poll is sent. A batch is lost with the connection, and a handler that
stops loses what comes after. -/
theorem handsOver_sent_data (h : s.HandsOver) (hwaiting : s.Waiting) {items : List ResponseItem}
    (sending : s.server.mainLoop = .sending .pollData (.data items)) (failure : Option String) :
    (s.sent failure).HandsOver ↔
      (relevant items ≠ [] → dataSize items ≤ maxPayload ∧ failure = none) ∧
        ∀ k loop, s.holder = some (.pollingLoop k) → s.loops[k]? = some loop →
          loop.DeclinesLate items := by
  have hbefore : relevant s.server.added = relevant s.handed ++ relevant items ++
      relevant s.server.responseBuffer.items := by
    simpa [HandsOver, undelivered, inTransit, sending] using h
  rcases sent_cases sending failure with ⟨hfits, hsent⟩ | ⟨hfails, error, hsent⟩
  · obtain ⟨call, hholder, hcall, hready⟩ := hwaiting .pollData (by
      rw [sending, MainLoop.request])
    rw [hsent]
    refine Iff.trans (handsOver_receive_data hbefore rfl hholder hcall hready) ?_
    exact (and_iff_right fun _ => hfits).symm
  · rw [hsent, handsOver_lost hbefore rfl]
    constructor
    · intro hnone
      refine ⟨fun hsome => absurd hnone hsome, fun k loop _ _ => ?_⟩
      have hsplit := congrArg relevant (loop.feed_append_leftover items)
      rw [hnone, relevant_append] at hsplit
      exact (loop.relevant_leftover_iff items).mp (List.append_eq_nil_iff.mp hsplit).2
    · rintro ⟨hfits, _⟩
      exact by_contra fun hsome => hfails (hfits hsome)

/-- No other response has to do with the items of a poll. -/
theorem HandsOver.sent_other (h : s.HandsOver) (hwaiting : s.Waiting) (failure : Option String)
    (hpoll : ¬ ∃ items, s.server.mainLoop = .sending .pollData (.data items)) :
    (s.sent failure).HandsOver := by
  by_cases hsending : ∃ request response, s.server.mainLoop = .sending request response
  · obtain ⟨request, response, sending⟩ := hsending
    have hnone : s.server.inTransit = [] := by
      unfold inTransit
      split
      · exact absurd ⟨_, ‹_›⟩ hpoll
      · rfl
    have hquiet : s.server.undelivered = s.server.responseBuffer.items := by
      rw [undelivered, hnone, List.nil_append]
    have hserver : ∀ server : RemoteServer, server.added = s.server.added →
        server.undelivered = s.server.responseBuffer.items →
        HandsOver { s with server := server } := by
      intro server hadded hundelivered
      apply h.of_server s.holder
      · rw [hadded, List.append_nil]
      · rw [hundelivered, hquiet, List.append_nil]
    rcases sent_cases sending failure with ⟨_, hsent⟩ | ⟨_, error, hsent⟩
    · rw [hsent]
      apply handsOver_receive_other
      · exact hserver _ rfl rfl
      rintro call items hholder rfl hcall
      obtain ⟨call', hholder', hcall', _⟩ := hwaiting request (by rw [sending, MainLoop.request])
      obtain rfl := Option.some.inj (hholder.symm.trans hholder')
      obtain rfl := hcall'.symm.trans hcall
      exact hpoll ⟨items, sending⟩
    · rw [hsent]
      exact hserver _ rfl rfl
  · rw [sent_of_ne failure hsending]
    exact h

theorem handsOver_sent (h : s.HandsOver) (hwaiting : s.Waiting) (failure : Option String) :
    (s.sent failure).HandsOver ↔ s.KeepsItems (.server (.send failure)) := by
  by_cases hpoll : ∃ items, s.server.mainLoop = .sending .pollData (.data items)
  · obtain ⟨items, sending⟩ := hpoll
    rw [handsOver_sent_data h hwaiting sending failure]
    constructor
    · intro hkeep items' sending'
      cases sending.symm.trans sending'
      exact hkeep
    · exact fun hkeep => hkeep items sending
  · exact iff_of_true (h.sent_other hwaiting failure hpoll)
      fun items sending => absurd ⟨items, sending⟩ hpoll

/-- The other steps of the server only add items, behind those that wait already. -/
theorem step_server (s : ClientSession) (e : RemoteEvent) :
    (∃ failure, e = .send failure) ∨ s.step (.server e) = s ∨
    ∃ server items, s.step (.server e) = { s with server := server } ∧
      Adds s.server server items := by
  have hchange := change_step s.server e
  cases e with
  | request request surroundings => exact .inr (.inl rfl)
  | send failure => exact .inl ⟨failure, rfl⟩
  | receiveFailed | mainTurn | accept | acceptFailed | task =>
      obtain ⟨items, hadds⟩ := adds_of_change hchange (fun _ _ heq => by cases heq)
        fun _ heq => by cases heq
      exact .inr (.inr ⟨_, items, rfl, hadds⟩)

/-- Calls keep what the server is at and who waits for it. -/
theorem Waiting.step (h : s.Waiting) (e : SessionEvent) : (s.step e).Waiting := by
  cases e with
  | startPollingLoop handler =>
      intro request hrequest
      obtain ⟨call, hholder, hcall, hready⟩ := h request hrequest
      refine ⟨call, hholder, hcall, ?_⟩
      cases call with
      | pollingLoop k =>
          obtain ⟨loop, hloop, hgoes⟩ := hready
          obtain ⟨hk, _⟩ := List.getElem?_eq_some_iff.mp hloop
          exact ⟨loop, (List.getElem?_append_left hk).trans hloop, hgoes⟩
      | _ => trivial
  | call call surroundings =>
      simp only [ClientSession.step, ClientSession.call]
      split
      · rename_i hholder ready
        split
        · rename_i hready
          intro request hrequest
          have hserver := (handleRequest_keeps ready surroundings call.request).1
          simp only [RemoteServer.step, ready] at hrequest
          exact ⟨call, rfl, Option.some.inj (hserver.symm.trans hrequest), hready⟩
        · exact h
      · exact h
  | server event =>
      rcases s.step_server event with ⟨failure, rfl⟩ | hsame | ⟨server, items, hstep, hadds⟩
      · by_cases hsending : ∃ request response, s.server.mainLoop = .sending request response
        · obtain ⟨request, response, sending⟩ := hsending
          intro request' hrequest
          rcases sent_cases sending failure with ⟨_, hsent⟩ | ⟨_, error, hsent⟩
          · simp only [ClientSession.step, hsent, receive_server, MainLoop.request] at hrequest
            cases hrequest
          · simp only [ClientSession.step, hsent, MainLoop.request] at hrequest
            cases hrequest
        · simp only [ClientSession.step, sent_of_ne failure hsending]
          exact h
      · rw [hsame]
        exact h
      · rw [hstep]
        exact fun request hrequest => h request (hadds.request request hrequest)

/-- A step hands over what it takes from the buffer exactly if it is not one of those. -/
theorem handsOver_step (h : s.HandsOver) (hwaiting : s.Waiting) (e : SessionEvent) :
    (s.step e).HandsOver ↔ s.KeepsItems e := by
  cases e with
  | startPollingLoop handler => exact iff_of_true h trivial
  | call call surroundings =>
      simp only [step, ClientSession.call]
      split
      · rename_i hholder ready
        split
        · simp only [RemoteServer.step, ready]
          exact handsOver_call h hholder ready call surroundings
        · rename_i hreturned
          apply iff_of_true h
          cases call with
          | getClipboard => exact absurd trivial hreturned
          | _ => trivial
      · rename_i hbusy
        apply iff_of_true h
        cases call with
        | getClipboard => exact fun hholder ready => absurd ready (hbusy hholder)
        | _ => trivial
  | server event =>
      by_cases hsend : ∃ failure, event = .send failure
      · obtain ⟨failure, rfl⟩ := hsend
        exact handsOver_sent h hwaiting failure
      · apply iff_of_true
        · rcases s.step_server event with hsends | hsame | ⟨server, items, hstep, hadds⟩
          · exact absurd hsends hsend
          · rw [hsame]
            exact h
          · rw [hstep]
            exact h.of_server s.holder hadds.added hadds.undelivered
        · cases event with
          | send failure => exact absurd ⟨failure, rfl⟩ hsend
          | _ => trivial

/-- Every item about a connection is handed over, or still to come, in every state of a run
exactly if no step of the run loses one. -/
theorem handsOver_iff_keepsItems (es : List SessionEvent) :
    Always step HandsOver {} es ↔ Along step (fun _ s e => s.KeepsItems e) {} es := by
  refine always_iff_along (A := fun _ _ _ => True) (I := fun _ s => HandsOver s ∧ Waiting s)
    ?_ ?_ ?_ ?_ ?_
  · exact fun _ _ _ => trivial
  · exact ⟨rfl, fun request hrequest => by cases hrequest⟩
  · exact fun _ _ h => h.1
  · rintro _ s e ⟨h, hwaiting⟩ _ hkeep
    exact ⟨(handsOver_step h hwaiting e).mpr hkeep, hwaiting.step e⟩
  · rintro _ s e ⟨h, hwaiting⟩ _ hlose
    exact mt (handsOver_step h hwaiting e).mp hlose

/-- A connection is announced, and the next call is `get_clipboard`. -/
theorem handsOver_clipboard_false : ¬ ∀ es, Always step HandsOver {} es := by
  intro h
  have hands : [ResponseItem.newConnection 1 8080] = [] :=
    (h [.call (.startPortForward 8080 "web" 80) {}, .server (.send none), .server (.accept 0),
      .server (.task 0 .lock), .call .getClipboard {}]).last
  cases hands

end ClientSession

end Yuha
