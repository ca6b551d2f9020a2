import Yuha.Client.ClientTransport
import Yuha.Client.Polling
import Yuha.Core.MessageDelivery

/-!
# Whether a polling loop ends

`start_polling_loop` polls, gives the items to its handler and polls again. Only the handler
ends it: an error is logged and the loop goes on at once. So on a closed connection, where
every poll fails, a loop whose handler has declined nothing goes on forever.

## Implementation notes

`answers` are what `send_request` returns to the polls before the connection is closed. A
poll that comes later fails with what `receive` reports of a closed stream.
-/

namespace Yuha

/-- `Client::poll_data`, when `send_request` has returned. -/
def pollData (answer : Except ClientError ProtocolResponse) :
    Except ClientError (List ResponseItem) :=
  match answer with
  | .ok (.data items) => .ok items
  | .ok (.error message) => .error (.remoteExecution message)
  | .ok _ => .error (.channel "Unexpected response type")
  | .error e => .error e

def closedAnswer : Except ClientError ProtocolResponse :=
  .error (Connection.receiveFailed (.protocol .channelClosed))

/-- A stream that has ended with no complete message left is closed for every `receive`. -/
theorem receiveResponse_closed (serde : SerdeJson) {channel : MessageChannel}
    (h : completeMessage channel.readBuffer = none) :
    serde.receiveResponse channel [] = ⟨.err (.protocol .channelClosed), channel, []⟩ := by
  simp [SerdeJson.receiveResponse, receiveMessage, receive, receiveBinary, h, Outcome.andThen]

namespace PollingLoop

/-- One turn of the loop, unless it has returned. -/
def turn (loop : PollingLoop) (answer : Except ClientError ProtocolResponse) : PollingLoop :=
  if loop.returned then loop
  else
    match pollData answer with
    | .ok items => (loop.feed items).2
    | .error _ => loop

/-- The loop after some turns, on a connection that is closed after these answers. -/
def afterTurns (handler : List ResponseItem → Bool)
    (answers : List (Except ClientError ProtocolResponse)) : Nat → PollingLoop
  | 0 => { handler := handler }
  | n + 1 => (afterTurns handler answers n).turn (answers[n]?.getD closedAnswer)

/-- The items that an answer brings. -/
def itemsOf (answer : Except ClientError ProtocolResponse) : List ResponseItem :=
  match answer with
  | .ok (.data items) => items
  | _ => []

/-- The handler declines one of these items, after it was given those before it. -/
def Declines (handler : List ResponseItem → Bool) (seen items : List ResponseItem) : Prop :=
  ∃ front item, front ++ [item] <+: items ∧ handler (seen ++ (front ++ [item])) = false

variable {loop : PollingLoop} {handler : List ResponseItem → Bool}

@[simp] theorem not_declines_nil (seen : List ResponseItem) : ¬ Declines handler seen [] := by
  rintro ⟨front, item, hfront, _⟩
  simp at hfront

theorem declines_cons {seen items : List ResponseItem} {item : ResponseItem} :
    Declines handler seen (item :: items) ↔
      handler (seen ++ [item]) = false ∨ Declines handler (seen ++ [item]) items := by
  constructor
  · rintro ⟨front, last, hfront, hdeclined⟩
    cases front with
    | nil =>
        obtain ⟨rfl, _⟩ := List.cons_prefix_cons.mp hfront
        exact Or.inl hdeclined
    | cons first front =>
        obtain ⟨rfl, hmore⟩ := List.cons_prefix_cons.mp hfront
        exact Or.inr ⟨front, last, hmore, by simpa using hdeclined⟩
  · rintro (hdeclined | ⟨front, last, hfront, hdeclined⟩)
    · exact ⟨[], item, by simp, hdeclined⟩
    · exact ⟨item :: front, last, by simpa using hfront, by simpa using hdeclined⟩

theorem declines_append {seen items items' : List ResponseItem} :
    Declines handler seen (items ++ items') ↔
      Declines handler seen items ∨ Declines handler (seen ++ items) items' := by
  induction items generalizing seen with
  | nil => simp
  | cons item items ih => simp [declines_cons, ih, or_assoc]

/-- A batch ends the loop exactly if the handler declines one of its items. If it does not,
the handler has been given all of them. -/
theorem feed_spec (loop : PollingLoop) (hgoing : loop.returned = false)
    (items : List ResponseItem) :
    (loop.feed items).2.handler = loop.handler ∧
      ((loop.feed items).2.returned = true ↔ Declines loop.handler loop.seen items) ∧
      ((loop.feed items).2.returned = false → (loop.feed items).2.seen = loop.seen ++ items) := by
  induction items generalizing loop with
  | nil => simp [feed, hgoing]
  | cons item items ih =>
      by_cases hgoes : loop.handler (loop.seen ++ [item]) = true
      · obtain ⟨hhandler, hreturned, hseen⟩ := ih { loop with seen := loop.seen ++ [item] } hgoing
        simp only [feed, hgoes, if_true]
        refine ⟨hhandler, ?_, fun h => by rw [hseen h]; simp⟩
        rw [hreturned, declines_cons]
        simp [hgoes]
      · simp [feed, hgoes, declines_cons]

theorem pollData_cases (answer : Except ClientError ProtocolResponse) :
    pollData answer = .ok (itemsOf answer) ∨
      (∃ e, pollData answer = .error e) ∧ itemsOf answer = [] := by
  unfold pollData itemsOf
  split
  · exact Or.inl rfl
  · exact Or.inr ⟨⟨_, rfl⟩, rfl⟩
  · next response hdata _ =>
      refine Or.inr ⟨⟨_, rfl⟩, ?_⟩
      cases response <;> first | rfl | exact absurd rfl (hdata _)
  · exact Or.inr ⟨⟨_, rfl⟩, rfl⟩

theorem turn_spec (loop : PollingLoop) (hgoing : loop.returned = false)
    (answer : Except ClientError ProtocolResponse) :
    (loop.turn answer).handler = loop.handler ∧
      ((loop.turn answer).returned = true ↔ Declines loop.handler loop.seen (itemsOf answer)) ∧
      ((loop.turn answer).returned = false →
        (loop.turn answer).seen = loop.seen ++ itemsOf answer) := by
  unfold turn
  rw [hgoing]
  rcases pollData_cases answer with hok | ⟨⟨e, herror⟩, hnone⟩
  · simpa [hok] using loop.feed_spec hgoing (itemsOf answer)
  · simp [herror, hnone, hgoing]

theorem flatMap_take_succ (answers : List (Except ClientError ProtocolResponse)) (n : Nat) :
    (answers.take (n + 1)).flatMap itemsOf =
      (answers.take n).flatMap itemsOf ++ itemsOf (answers[n]?.getD closedAnswer) := by
  rw [List.take_add_one, List.flatMap_append]
  cases answers[n]? with
  | none => rfl
  | some answer => simp

/-- What the loop has seen after some turns, and whether it has returned. -/
theorem afterTurns_spec (handler : List ResponseItem → Bool)
    (answers : List (Except ClientError ProtocolResponse)) (n : Nat) :
    (afterTurns handler answers n).handler = handler ∧
      ((afterTurns handler answers n).returned = true ↔
        Declines handler [] ((answers.take n).flatMap itemsOf)) ∧
      ((afterTurns handler answers n).returned = false →
        (afterTurns handler answers n).seen = (answers.take n).flatMap itemsOf) := by
  induction n with
  | zero => simp [afterTurns]
  | succ n ih =>
      obtain ⟨hhandler, hreturned, hseen⟩ := ih
      rw [afterTurns, flatMap_take_succ, declines_append, List.nil_append]
      cases hgoing : (afterTurns handler answers n).returned with
      | true =>
          have hdeclines := hreturned.mp hgoing
          simp only [turn, hgoing, if_true, true_iff, Bool.true_eq_false, false_imp_iff, and_true]
          exact ⟨hhandler, Or.inl hdeclines⟩
      | false =>
          have hkept : ¬ Declines handler [] ((answers.take n).flatMap itemsOf) := by
            rw [← hreturned, hgoing]
            decide
          have hturn := turn_spec _ hgoing (answers[n]?.getD closedAnswer)
          rw [hhandler, hseen hgoing] at hturn
          rwa [or_iff_right hkept]

/-- On a connection that is closed after these answers, a polling loop returns after finitely
many turns exactly if its handler declines one of the items they bring. -/
theorem exists_returned_iff (handler : List ResponseItem → Bool)
    (answers : List (Except ClientError ProtocolResponse)) :
    (∃ n : Nat, (afterTurns handler answers n).returned = true) ↔
      Declines handler [] (answers.flatMap itemsOf) := by
  constructor
  · rintro ⟨n, hreturned⟩
    have hdeclines := (afterTurns_spec handler answers n).2.1.mp hreturned
    rw [← List.take_append_drop n answers, List.flatMap_append, declines_append]
    exact Or.inl hdeclines
  · intro hdeclines
    refine ⟨answers.length, (afterTurns_spec handler answers _).2.1.mpr ?_⟩
    rwa [List.take_length]

/-- A handler that declines nothing is never returned from. -/
theorem not_exists_returned :
    ¬ ∃ n : Nat, (afterTurns (fun _ => true)
      [.ok (.data [.clipboardContent "text"])] n).returned = true := by
  rintro ⟨n, hreturned⟩
  obtain ⟨front, item, _, hdeclined⟩ := (afterTurns_spec _ _ n).2.1.mp hreturned
  cases hdeclined

end PollingLoop

end Yuha
