import Yuha.Core.Delivery

/-!
# Interrupted sends

A `send` that stops inside its frame leaves a truncated message on the stream, and
the channel does not remember it: the next call writes its frame behind the
truncated one, and the receiver takes the missing bytes from there. As long as the
call that stopped inside its frame is the last one that writes anything, everything
the receiver returns has been sent.
-/

namespace Yuha

/-- One call of `send`. -/
abbrev Call := Bytes × Option Interruption

/-- The call stops after part of its frame. -/
def Call.cutInside (call : Call) : Bool :=
  decide (call.1.length ≤ maxPayload) &&
    call.2.any fun i => 0 < i.after && i.after < (frame call.1).length

/-- The payload does not fit, or the call stops before its first byte. -/
def Call.silent (call : Call) : Bool :=
  decide (maxPayload < call.1.length) || call.2.any fun i => i.after == 0

/-- Once a call has stopped inside its frame, the channel is not written to again. -/
def Abandoned (calls : List Call) : Prop :=
  calls.Pairwise fun call later => call.cutInside → later.silent

theorem Call.written_of_silent {call : Call} (h : call.silent) :
    (send call.1 call.2).written = [] := by
  obtain ⟨payload, interruption⟩ := call
  rw [send_written]
  split
  · rfl
  · next hfit =>
      cases interruption with
      | none => simp [silent, hfit] at h
      | some i =>
          have hzero : i.after = 0 := by simpa [silent, hfit] using h
          simp [hzero]

/-- What one call can leave on the stream. -/
theorem send_written_cases (call : Call) :
    call.silent ∨
      (call.1.length ≤ maxPayload ∧ (send call.1 call.2).written = frame call.1) ∨
      (call.cutInside ∧ completeMessage (send call.1 call.2).written = none) := by
  obtain ⟨payload, interruption⟩ := call
  by_cases hlen : maxPayload < payload.length
  · exact .inl (by simp [Call.silent, hlen])
  · have hfit : payload.length ≤ maxPayload := Nat.not_lt.mp hlen
    have hwritten := send_written payload interruption
    rw [if_neg hlen] at hwritten
    cases interruption with
    | none => exact .inr (.inl ⟨hfit, hwritten⟩)
    | some i =>
        by_cases hzero : i.after = 0
        · exact .inl (by simp [Call.silent, hzero])
        · by_cases hall : (frame payload).length ≤ i.after
          · refine .inr (.inl ⟨hfit, ?_⟩)
            simpa [List.take_of_length_le hall] using hwritten
          · have hcut : Call.cutInside (payload, some i) := by
              have := Nat.not_le.mp hall
              simp only [Call.cutInside, hfit, decide_true, Option.any_some, Bool.true_and,
                Bool.and_eq_true, decide_eq_true_eq]
              omega
            have hdrop : (frame payload).drop i.after ≠ [] := by
              simpa [List.drop_eq_nil_iff] using hall
            have hnone : framing.parse ((frame payload).take i.after) = none :=
              framing.parse_eq_none_of_append_eq_encode hfit (List.take_append_drop _ _) hdrop
            exact .inr (.inr ⟨hcut, by simpa [hwritten] using hnone⟩)

theorem sendAll_of_silent {calls : List Call} (h : ∀ call ∈ calls, call.silent) :
    sendAll calls = [] := by
  induction calls with
  | nil => rfl
  | cons call calls ih =>
      rw [sendAll_cons, Call.written_of_silent (h call (by simp)),
        ih fun later hl => h later (by simp [hl])]
      rfl

/-- On a channel that is abandoned after a truncated frame, the stream reads as
some of the payloads sent, in order. -/
theorem reads_sendAll {calls : List Call} (h : Abandoned calls) :
    ∃ payloads tail, framing.Reads (sendAll calls) payloads tail ∧
      payloads.Sublist (calls.map Prod.fst) := by
  induction calls with
  | nil => exact ⟨[], [], .nil _ framing.parse_nil, .slnil⟩
  | cons call calls ih =>
      obtain ⟨hcall, hcalls⟩ := List.pairwise_cons.mp h
      obtain ⟨payloads, tail, hreads, hsub⟩ := ih hcalls
      rw [sendAll_cons]
      rcases send_written_cases call with hsilent | ⟨hfit, hwritten⟩ | ⟨hcut, hnone⟩
      · refine ⟨payloads, tail, ?_, hsub.cons _⟩
        rw [Call.written_of_silent hsilent]
        exact hreads
      · refine ⟨call.1 :: payloads, tail, ?_, hsub.cons_cons _⟩
        rw [hwritten]
        exact .cons _ (framing.parse_encode call.1 (sendAll calls) hfit) hreads
      · refine ⟨[], _, .nil _ ?_, List.nil_sublist _⟩
        rw [sendAll_of_silent fun later hl => hcall later hl hcut, List.append_nil]
        exact hnone

/-- If the channel is abandoned after a truncated frame, every payload that the
peer returns, whatever part of the stream has reached it and however it reads it,
is one that was passed to `send`, in sending order. -/
theorem receiveMany_sublist_of_abandoned (calls : List Call) (abandoned : Abandoned calls)
    (tape : List ReadEvent) (arrived : stream tape <+: sendAll calls) (n : Nat) :
    (receiveMany n .new tape).payloads.Sublist (calls.map Prod.fst) := by
  obtain ⟨payloads, tail, hreads, hsub⟩ := reads_sendAll abandoned
  have hfront : (receiveMany n .new tape).payloads <+: framing.frames (sendAll calls) :=
    (receiveMany_payloads_isPrefix n .new tape).trans (framing.frames_mono arrived)
  rw [hreads.frames_eq] at hfront
  exact hfront.sublist.trans hsub

/-- A call that fails before its first byte, a complete one, and a last one that is
dropped in its payload. -/
theorem receiveMany_sublist_of_abandoned_last :
    (receiveMany 2 .new [.data [0, 1, 8, 0] (by decide), .data [2, 9] (by decide)]).payloads.Sublist
      [[7], [8], [9, 9]] :=
  receiveMany_sublist_of_abandoned
    [([7], some ⟨0, .failed "broken pipe"⟩), ([8], none), ([9, 9], some ⟨3, .dropped⟩)]
    (by unfold Abandoned; decide)
    _ (by decide) 2

/-- A `send` dropped between header and payload, and a complete one after it: the
receiver returns a payload that nobody sent. -/
theorem receiveMany_splice :
    ∃ (calls : List Call) (tape : List ReadEvent) (n : Nat),
      stream tape = sendAll calls ∧
        (receiveMany n .new tape).payloads = [[0, 3, 1, 2, 3]] ∧
        ¬ (receiveMany n .new tape).payloads.Sublist (calls.map Prod.fst) :=
  ⟨[([9, 9, 9, 9, 9], some ⟨2, .dropped⟩), ([1, 2, 3], none)],
    [.data [0, 5, 0, 3, 1, 2, 3] (by decide)], 1, by decide, by decide, by decide⟩

end Yuha
