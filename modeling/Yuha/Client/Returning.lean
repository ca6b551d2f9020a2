import Yuha.Client.AtomicCalls
import Yuha.Library.Descent

/-!
# The return of a call

A call of `send_request` that holds the mutex, and is not stopped, comes to its end as the
stream and the server move on: whatever they do next either changes nothing or brings it
nearer, and there is always something that does.
-/

namespace Yuha

open Library.Execution

namespace Connection

variable {σ : Type*} {codec : ProtocolCodec} {serve : σ → Bytes → σ × Payload}
  {c : Connection σ} {holder : Holder}

/-- What a call still has to do in its phase. -/
def Phase.remaining : Phase → Nat
  | .sending unwritten => unwritten.length + 1
  | .receiving => 0

/-- An upper bound on the moves that the call that holds the mutex still needs. -/
def remaining (c : Connection σ) : Nat :=
  match c.holder with
  | none => 0
  | some holder =>
      Phase.remaining holder.phase +
        if c.channel.readBuffer ++ c.toClient = [] then maxPayload + 3 else c.toClient.length

/-- A move of the stream or the server that changes something while a call holds the mutex. -/
def Moves (codec : ProtocolCodec) (serve : σ → Bytes → σ × Payload) (c : Connection σ)
    (event : ClientEvent) : Prop :=
  c.holder ≠ none ∧ (∀ stop, event ≠ .stop stop) ∧ event ≠ .hangUp ∧
    c.step codec serve event ≠ c

theorem remaining_held (hheld : c.holder = some holder) :
    c.remaining = Phase.remaining holder.phase +
      if c.channel.readBuffer ++ c.toClient = [] then maxPayload + 3 else c.toClient.length := by
  simp only [remaining, hheld]

/-- What is left of an incomplete response is still to arrive. -/
theorem Replied.toClient_ne_nil {done : List Bytes} {earlier : List Payload} {reply : Payload}
    (h : Replied c done earlier reply)
    (incomplete : completeMessage c.channel.readBuffer = none) : c.toClient ≠ [] := by
  intro hnone
  have hbytes := h.bytes
  rw [hnone, List.append_nil] at hbytes
  have hcomplete := framing.parse_encode reply.val [] reply.property
  rw [List.append_nil, framing_encode, ← hbytes, framing_parse, incomplete] at hcomplete
  cases hcomplete

theorem remaining_pos (h : Aligned c) (hheld : c.holder = some holder)
    (hconnected : c.serverClosed = false) : 0 < c.remaining := by
  rw [remaining_held hheld]
  by_cases hempty : c.channel.readBuffer ++ c.toClient = []
  · rw [if_pos hempty]
    omega
  · rw [if_neg hempty]
    cases h.of_held hheld with
    | writing done quiet =>
        rw [quiet.readBuffer, quiet.toClient] at hempty
        exact absurd rfl hempty
    | waiting done quiet =>
        rw [quiet.readBuffer, quiet.toClient] at hempty
        exact absurd rfl hempty
    | dead hclosed => rw [hconnected] at hclosed; cases hclosed
    | replied done earlier reply phase written replied incomplete =>
        have hlength := List.length_pos_iff.mpr (replied.toClient_ne_nil incomplete)
        omega

/-- What becomes of the holder at a poll. -/
theorem poll_cases (codec : ProtocolCodec) (c : Connection σ) (holder : Holder) :
    (∃ result readBuffer, c.poll codec holder =
      { c with channel := ⟨readBuffer⟩ }.finish holder result) ∨
    c.poll codec holder = { c with holder := some { holder with phase := .receiving } } := by
  unfold poll
  split
  · exact .inl ⟨_, _, rfl⟩
  · exact .inr rfl

theorem remaining_finish (c : Connection σ) (holder : Holder)
    (result : Except ClientError ProtocolResponse) : (c.finish holder result).remaining = 0 := rfl

theorem remaining_write (hheld : c.holder = some holder) {n : Nat}
    (hchanges : c.step codec serve (.write n) ≠ c) :
    (c.step codec serve (.write n)).remaining < c.remaining := by
  obtain ⟨call, payload, offset, phase⟩ := holder
  cases phase with
  | receiving =>
      simp only [step, hheld] at hchanges
      exact absurd rfl hchanges
  | sending unwritten =>
      simp only [step, hheld] at hchanges ⊢
      rw [remaining_held rfl, remaining_held hheld]
      have hless : (unwritten.drop n).length < unwritten.length := by
        rw [List.length_drop]
        by_contra hsame
        have hnone : unwritten.take n = [] ∧ unwritten.drop n = unwritten := by
          rcases Nat.eq_zero_or_pos unwritten.length with hzero | hsome
          · simp [List.length_eq_zero_iff.mp hzero]
          · obtain rfl : n = 0 := by omega
            simp
        rw [hnone.1, hnone.2, List.append_nil] at hchanges
        exact hchanges (by rw [← hheld])
      simp only [Phase.remaining]
      omega

theorem remaining_flushed (hheld : c.holder = some holder) (hpos : 0 < c.remaining)
    (hchanges : c.step codec serve .flushed ≠ c) :
    (c.step codec serve .flushed).remaining < c.remaining := by
  obtain ⟨call, payload, offset, phase⟩ := holder
  cases phase with
  | receiving =>
      simp only [step, hheld] at hchanges
      exact absurd rfl hchanges
  | sending unwritten =>
      cases unwritten with
      | cons byte unwritten =>
          simp only [step, hheld] at hchanges
          exact absurd rfl hchanges
      | nil =>
          simp only [step, hheld]
          rcases poll_cases codec c ⟨call, payload, offset, .receiving⟩ with
            ⟨result, readBuffer, hpoll⟩ | hpoll
          · rw [hpoll, remaining_finish]
            exact hpos
          · rw [hpoll, remaining_held rfl, remaining_held hheld]
            simp only [Phase.remaining]
            omega

theorem remaining_read (hheld : c.holder = some holder) (hpos : 0 < c.remaining)
    (hconnected : c.serverClosed = false) {n : Nat}
    (hchanges : c.step codec serve (.read n) ≠ c) :
    (c.step codec serve (.read n)).remaining < c.remaining := by
  obtain ⟨call, payload, offset, phase⟩ := holder
  cases phase with
  | sending unwritten =>
      simp only [step, hheld] at hchanges
      exact absurd rfl hchanges
  | receiving =>
      simp only [step, hheld, read] at hchanges ⊢
      by_cases hempty : c.toClient = []
      · simp only [hempty, if_true, hconnected, Bool.false_eq_true, if_false] at hchanges
        exact absurd rfl hchanges
      by_cases hn : n = 0
      · simp only [hempty, if_false, hn, if_true] at hchanges
        exact absurd rfl hchanges
      simp only [hempty, if_false, hn]
      rcases poll_cases codec (c.readBuf n) ⟨call, payload, offset, .receiving⟩ with
        ⟨result, readBuffer, hpoll⟩ | hpoll
      · rw [hpoll, remaining_finish]
        exact hpos
      · have hsome : c.channel.readBuffer ++ c.toClient ≠ [] :=
          fun hnil => hempty (List.append_eq_nil_iff.mp hnil).2
        have hsame : c.channel.readBuffer ++ c.toClient.take n ++ c.toClient.drop n =
            c.channel.readBuffer ++ c.toClient := by
          rw [List.append_assoc, List.take_append_drop]
        have hlength := List.length_pos_iff.mpr hempty
        rw [hpoll, remaining_held rfl, remaining_held hheld]
        simp only [readBuf, hsame, hsome, if_false, List.length_drop]
        omega

theorem remaining_serve (h : Aligned c) (hheld : c.holder = some holder)
    (hconnected : c.serverClosed = false) (hchanges : c.step codec serve .serve ≠ c) :
    (c.step codec serve .serve).remaining < c.remaining := by
  simp only [step, serveNext, hconnected, Bool.false_eq_true, if_false] at hchanges ⊢
  split at hchanges
  · exact absurd rfl hchanges
  · rename_i request hrequest
    obtain ⟨done, holder', quiet, -, rfl⟩ := h.served hconnected hrequest
    have hfits := (serve c.server holder'.payload).2.property
    have hsome : frame (serve c.server holder'.payload).2.val ≠ [] := framing.encode_ne_nil _
    simp only [remaining, hheld, quiet.readBuffer, quiet.toClient, List.nil_append, hsome,
      if_true, if_false, length_frame]
    omega

/-- A move brings the call nearer to its return. -/
theorem Moves.remaining_lt (h : Aligned c) (hconnected : c.serverClosed = false)
    {event : ClientEvent} (hmoves : Moves codec serve c event) :
    (c.step codec serve event).remaining < c.remaining := by
  obtain ⟨hholder, hstop, hstays, hchanges⟩ := hmoves
  obtain ⟨holder, hheld⟩ := Option.ne_none_iff_exists'.mp hholder
  have hpos := remaining_pos h hheld hconnected
  cases event with
  | stop stop => exact absurd rfl (hstop stop)
  | hangUp => exact absurd rfl hstays
  | lock call request =>
      simp only [step, hheld] at hchanges
      exact absurd rfl hchanges
  | write n => exact remaining_write hheld hchanges
  | flushed => exact remaining_flushed hheld hpos hchanges
  | read n => exact remaining_read hheld hpos hconnected hchanges
  | serve => exact remaining_serve h hheld hconnected hchanges

/-! ## There is always a move -/

variable (codec serve) in
/-- A call that has written everything can flush, if no response is in yet. -/
theorem moves_flushed (hheld : c.holder = some holder) (phase : holder.phase = .sending [])
    (incomplete : completeMessage c.channel.readBuffer = none) :
    Moves codec serve c .flushed := by
  obtain ⟨call, payload, offset, phase'⟩ := holder
  subst phase
  refine ⟨by simp [hheld], by simp, by simp, fun hsame => ?_⟩
  have hphase := congrArg Connection.holder hsame
  simp only [step, hheld, poll, incomplete] at hphase
  cases hphase

variable (codec serve) in
/-- A call that waits for its response can flush, or the server can answer it. -/
theorem exists_moves_waiting {done : List Bytes} (hheld : c.holder = some holder)
    (quiet : Quiet c done) (hconnected : c.serverClosed = false)
    (phase : holder.phase = .sending [] ∨ holder.phase = .receiving)
    (written : Written c done holder) : ∃ event, Moves codec serve c event := by
  have hholder : c.holder ≠ none := by simp [hheld]
  obtain ⟨call, payload, offset, phase'⟩ := holder
  rcases phase with rfl | rfl
  · exact ⟨.flushed, moves_flushed codec serve hheld rfl quiet.incomplete⟩
  · refine ⟨.serve, hholder, by simp, by simp, fun hsame => ?_⟩
    have hrequest : (framing.frames c.toServer)[c.answered.length]? = some payload := by
      rw [written.toServer, framing.frames_encodeAll written.fits, quiet.answered]
      simp
    have hanswered := congrArg (fun d => d.answered.length) hsame
    simp [step, serveNext, hconnected, hrequest] at hanswered

variable (codec serve) in
/-- A call whose response is on its way can flush or read. -/
theorem exists_moves_replied (hheld : c.holder = some holder)
    (phase : holder.phase = .sending [] ∨ holder.phase = .receiving)
    (incomplete : completeMessage c.channel.readBuffer = none) (hmore : c.toClient ≠ []) :
    ∃ event, Moves codec serve c event := by
  have hholder : c.holder ≠ none := by simp [hheld]
  obtain ⟨call, payload, offset, phase'⟩ := holder
  rcases phase with rfl | rfl
  · exact ⟨.flushed, moves_flushed codec serve hheld rfl incomplete⟩
  · refine ⟨.read 1, hholder, by simp, by simp, fun hsame => ?_⟩
    simp only [step, hheld, read, hmore, if_false, Nat.one_ne_zero] at hsame
    rcases poll_cases codec (c.readBuf 1) ⟨call, payload, offset, .receiving⟩ with
      ⟨result, readBuffer, hpoll⟩ | hpoll
    · have hnone := congrArg Connection.holder (hpoll.symm.trans hsame)
      rw [hheld] at hnone
      cases hnone
    · have hlength := congrArg (fun d => d.toClient.length) (hpoll.symm.trans hsame)
      have hpositive := List.length_pos_iff.mpr hmore
      simp only [readBuf, List.length_drop] at hlength
      omega

variable (codec serve) in
theorem exists_moves (h : Aligned c) (hheld : c.holder = some holder)
    (hconnected : c.serverClosed = false) : ∃ event, Moves codec serve c event := by
  cases h.of_held hheld with
  | waiting done quiet phase written =>
      exact exists_moves_waiting codec serve hheld quiet hconnected phase written
  | replied done earlier reply phase written replied incomplete =>
      exact exists_moves_replied codec serve hheld phase incomplete
        (replied.toClient_ne_nil incomplete)
  | dead hclosed => rw [hconnected] at hclosed; cases hclosed
  | writing done quiet written unwritten phase fits split more =>
      obtain ⟨call, payload, offset, phase'⟩ := holder
      obtain rfl : phase' = .sending unwritten := phase
      refine ⟨.write 1, by simp [hheld], by simp, by simp, fun hsame => ?_⟩
      have hlength := congrArg (fun d => d.toServer.length) hsame
      have hpositive := List.length_pos_iff.mpr more
      simp only [step, hheld, List.length_append, List.length_take] at hlength
      omega

/-! ## The result of the call -/

/-- The call is still underway, or it has returned and nothing else has. -/
inductive Follows (call : Nat) (before : List (Nat × Except ClientError ProtocolResponse))
    (c : Connection σ) : Prop
  | underway (holder : Holder) (held : c.holder = some holder) (own : holder.call = call)
      (returned : c.returned = before)
  | handed (free : c.holder = none) (result : Except ClientError ProtocolResponse)
      (returned : c.returned = before ++ [(call, result)])

variable {call : Nat} {before : List (Nat × Except ClientError ProtocolResponse)}

theorem Follows.finish (h : Follows call before c) {d : Connection σ} {holder' : Holder}
    (hheld : c.holder = some holder) (hcall : holder'.call = holder.call)
    (hreturned : d.returned = c.returned) (result : Except ClientError ProtocolResponse) :
    Follows call before (d.finish holder' result) := by
  cases h with
  | handed hfree => rw [hheld] at hfree; cases hfree
  | underway other hother own returned =>
      obtain rfl := Option.some.inj (hheld.symm.trans hother)
      refine .handed rfl result ?_
      rw [returned_finish, hcall, own, hreturned, returned]

theorem Follows.poll (h : Follows call before c) {d : Connection σ} {holder' : Holder}
    (hheld : c.holder = some holder) (hcall : holder'.call = holder.call)
    (hreturned : d.returned = c.returned) : Follows call before (d.poll codec holder') := by
  rcases poll_cases codec d holder' with ⟨result, readBuffer, hpoll⟩ | hpoll
  · rw [hpoll]
    exact h.finish (d := { d with channel := ⟨readBuffer⟩ }) hheld hcall hreturned result
  · rw [hpoll]
    cases h with
    | handed hfree => rw [hheld] at hfree; cases hfree
    | underway other hother own returned =>
        obtain rfl := Option.some.inj (hheld.symm.trans hother)
        exact .underway _ rfl (hcall.trans own) (hreturned.trans returned)

theorem Follows.step (h : Follows call before c) {event : ClientEvent}
    (hmoves : Moves codec serve c event) : Follows call before (c.step codec serve event) := by
  obtain ⟨hholder, hstop, hstays, -⟩ := hmoves
  cases event with
  | stop stop => exact absurd rfl (hstop stop)
  | hangUp => exact absurd rfl hstays
  | lock call request =>
      obtain ⟨holder, hheld⟩ := Option.ne_none_iff_exists'.mp hholder
      simpa only [Connection.step, hheld] using h
  | write n =>
      simp only [Connection.step]
      split
      · rename_i hheld
        cases h with
        | handed hfree => exact absurd hfree hholder
        | underway other hother own returned =>
            obtain rfl := Option.some.inj (hheld.symm.trans hother)
            exact .underway _ rfl own returned
      · exact h
  | flushed =>
      simp only [Connection.step]
      split
      · rename_i hheld
        exact h.poll hheld rfl rfl
      · exact h
  | read n =>
      simp only [Connection.step]
      split
      · rename_i hheld
        unfold Connection.read
        split
        · split
          · exact h.finish hheld rfl rfl _
          · exact h
        · split
          · exact h
          · exact h.poll hheld rfl rfl
      · exact h
  | serve =>
      simp only [Connection.step, serveNext]
      split
      · exact h
      split
      · exact h
      · cases h with
        | handed hfree => exact absurd hfree hholder
        | underway other hother own returned => exact .underway other hother own returned

theorem connected_step (hconnected : c.serverClosed = false) {event : ClientEvent}
    (hstays : event ≠ .hangUp) : (c.step codec serve event).serverClosed = false := by
  have hpoll : ∀ (d : Connection σ) (holder' : Holder), d.serverClosed = false →
      (d.poll codec holder').serverClosed = false := by
    intro d holder' hd
    rcases poll_cases codec d holder' with ⟨result, readBuffer, hpoll⟩ | hpoll
    · rw [hpoll]
      exact hd
    · rw [hpoll]
      exact hd
  cases event with
  | hangUp => exact absurd rfl hstays
  | lock call request =>
      simp only [step, lock]
      split
      · split
        · exact hconnected
        · split <;> exact hconnected
      · exact hconnected
  | write n => simp only [step]; split <;> exact hconnected
  | flushed =>
      simp only [step]
      split
      · exact hpoll c _ hconnected
      · exact hconnected
  | read n =>
      simp only [step, read]
      split
      · split
        · split <;> exact hconnected
        · split
          · exact hconnected
          · exact hpoll (c.readBuf n) _ hconnected
      · exact hconnected
  | stop stop =>
      simp only [step]
      split
      · cases stop <;> exact hconnected
      · exact hconnected
  | serve =>
      simp only [step, serveNext]
      split
      · exact hconnected
      · split <;> exact hconnected

variable (codec serve call before) in
/-- The moves of a call come to its return. -/
theorem descends : Descends (step codec serve)
    (fun c => Inv codec c ∧ c.serverClosed = false ∧ Follows call before c)
    (Moves codec serve) (remaining (σ := σ)) where
  keeps c event := by
    rintro ⟨hinv, hconnected, hfollows⟩ hmoves
    refine ⟨inv_step hinv event ?_, connected_step hconnected hmoves.2.2.1,
      hfollows.step hmoves⟩
    cases event with
    | stop stop => exact absurd rfl (hmoves.2.1 stop)
    | _ => trivial
  less c event := fun ⟨hinv, hconnected, _⟩ hmoves =>
    hmoves.remaining_lt hinv.aligned hconnected
  goesOn c := by
    rintro ⟨hinv, hconnected, hfollows⟩ hleft
    cases hfollows with
    | underway holder held => exact exists_moves codec serve hinv.aligned held hconnected
    | handed free => exact absurd (by simp only [remaining, free]) hleft

theorem remaining_le (h : Aligned c) (hheld : c.holder = some holder)
    (hconnected : c.serverClosed = false) : c.remaining ≤ 2 * (maxPayload + 3) := by
  rw [remaining_held hheld]
  have hphase : holder.phase = .sending [] ∨ holder.phase = .receiving →
      Phase.remaining holder.phase ≤ 1 := by
    rintro (hphase | hphase) <;> simp [hphase, Phase.remaining]
  cases h.of_held hheld with
  | dead hclosed => rw [hconnected] at hclosed; cases hclosed
  | waiting done quiet phase =>
      have hone := hphase phase
      simp only [quiet.readBuffer, quiet.toClient, List.append_nil, if_true]
      omega
  | replied done earlier reply phase written replied incomplete =>
      have hone := hphase phase
      have hlength := congrArg List.length replied.bytes
      have hfits := reply.property
      simp only [List.length_append, length_frame] at hlength
      split <;> omega
  | writing done quiet written unwritten phase fits split =>
      have hlength := congrArg List.length split
      simp only [List.length_append, length_frame] at hlength
      simp only [quiet.readBuffer, quiet.toClient, List.append_nil, if_true, phase,
        Phase.remaining]
      omega

/-- However the stream and the server have moved since, they can move on to the return of
the call that holds the mutex, and all these moves are at most `131076`. -/
theorem returns_run (codec : ProtocolCodec) (serve : σ → Bytes → σ × Payload) (server : σ)
    {events moves : List ClientEvent}
    (stops : Along (step codec serve) (fun _ => StopsUnwritten) (new server) events)
    (stays : .hangUp ∉ events)
    (hheld : (run (step codec serve) (new server) events).holder = some holder)
    (hmoves : Along (step codec serve) (fun _ => Moves codec serve)
      (run (step codec serve) (new server) events) moves) :
    ∃ more result, Along (step codec serve) (fun _ => Moves codec serve)
        (run (step codec serve) (new server) events) (moves ++ more) ∧
      (run (step codec serve) (new server) (events ++ (moves ++ more))).holder = none ∧
      (run (step codec serve) (new server) (events ++ (moves ++ more))).returned =
        (run (step codec serve) (new server) events).returned ++ [(holder.call, result)] ∧
      (moves ++ more).length ≤ 131076 := by
  obtain ⟨calls, pending, hlinear⟩ := linearized_run codec serve server stops stays
  have hinv := inv_run stops
  simp only [run_append]
  generalize run (step codec serve) (new server) events = c at *
  have hdescends := descends codec serve holder.call c.returned
  have hfirst : Inv codec c ∧ c.serverClosed = false ∧ Follows holder.call c.returned c :=
    ⟨hinv, hlinear.connected, .underway holder hheld rfl rfl⟩
  obtain ⟨more, hall, hend, hlength⟩ := hdescends.completes hfirst hmoves
  obtain ⟨hlast, hconnected, hfollows⟩ := hdescends.invariant_run hfirst hall
  have hbound := remaining_le hinv.aligned hheld hlinear.connected
  rw [run_append] at hend hlast hconnected hfollows
  cases hfollows with
  | underway holder' held =>
      have hpos := remaining_pos hlast.aligned held hconnected
      omega
  | handed free result returned =>
      exact ⟨more, result, hall, free, returned, hlength.trans hbound⟩

/-- A poll that has written three bytes when it is looked at, and writes on. -/
theorem returns_run_writing : ∃ more result,
    Along (step sampleCodec sampleServe) (fun _ => Moves sampleCodec sampleServe)
        (run (step sampleCodec sampleServe) (new ()) [.lock 0 .pollData, .write 3])
        ([.write 2] ++ more) ∧
      (run (step sampleCodec sampleServe) (new ())
        ([.lock 0 .pollData, .write 3] ++ ([.write 2] ++ more))).holder = none ∧
      (run (step sampleCodec sampleServe) (new ())
        ([.lock 0 .pollData, .write 3] ++ ([.write 2] ++ more))).returned =
        (run (step sampleCodec sampleServe) (new ())
          [.lock 0 .pollData, .write 3]).returned ++ [(0, result)] ∧
      ([.write 2] ++ more).length ≤ 131076 := by
  have hheld : (run (step sampleCodec sampleServe) (new ()) [.lock 0 .pollData, .write 3]).holder =
      some ⟨0, ascii "\"PollData\"", 0, .sending ((frame (ascii "\"PollData\"")).drop 3)⟩ := rfl
  refine returns_run sampleCodec sampleServe () ?_ ?_ hheld ?_
  · simp only [along_cons, StopsUnwritten, along_nil, and_self]
  · decide
  · refine along_cons.mpr ⟨⟨hheld ▸ Option.some_ne_none _, by simp, by simp, fun hsame => ?_⟩,
      along_nil⟩
    have hlength := congrArg (fun c => c.toServer.length) hsame
    revert hlength
    decide +kernel

end Connection

end Yuha
