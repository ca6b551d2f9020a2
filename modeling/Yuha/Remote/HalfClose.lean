import Yuha.Library.Execution
import Yuha.Remote.Relay

/-!
# A relay between two peers

Here the two streams of a relay end at peers that send, and at some time end their sending
side. No read or write fails and the channel stays open, so that the relay leaves its loop
only at the end of one of the two streams. What the other peer has sent by then and is
still unread, or sends later, is lost.
-/

namespace Yuha

open Library

/-- The peer of a stream, as the process of the relay sees it. -/
structure Peer where
  sent : Bytes := []
  unread : Bytes := []
  ended : Bool := false

namespace Peer

/-- A peer that has ended its stream sends nothing more. -/
def send (peer : Peer) (bytes : Bytes) : Peer :=
  if peer.ended then peer
  else { peer with sent := peer.sent ++ bytes, unread := peer.unread ++ bytes }

/-- The bytes that one `read` of a 4096 byte buffer takes, of which the network has
brought at least `n + 1` when there are so many. -/
def chunk (peer : Peer) (n : Nat) : ReadChunk :=
  ⟨peer.unread.take (min (n + 1) 4096), by rw [List.length_take]; omega⟩

def skip (peer : Peer) (n : Nat) : Peer :=
  { peer with unread := peer.unread.drop (min (n + 1) 4096) }

/-- A read completes with bytes, or at the end of the stream. -/
def readable (peer : Peer) : Bool := peer.ended || !peer.unread.isEmpty

theorem chunk_append_skip (peer : Peer) (n : Nat) :
    (peer.chunk n).val ++ (peer.skip n).unread = peer.unread :=
  List.take_append_drop _ _

theorem chunk_eq_nil {peer : Peer} {n : Nat} : (peer.chunk n).val = [] ↔ peer.unread = [] := by
  simp [chunk]

theorem unread_send_eq_nil {peer : Peer} {bytes : Bytes} (hunread : peer.unread = [])
    (hbytes : peer.ended = false → bytes = []) : (peer.send bytes).unread = [] := by
  unfold send
  split
  · exact hunread
  · rename_i hended
    simp [hunread, hbytes (by simpa using hended)]

end Peer

/-- One connection: the relay, and what its two streams lead to. -/
structure Conversation where
  relay : Relay := {}
  client : Peer := {}
  target : Peer := {}

inductive ConversationEvent
  | clientSends (bytes : Bytes)
  | clientEnds
  | targetSends (bytes : Bytes)
  | targetEnds
  /-- A block is queued on the channel of the connection. -/
  | queue (data : Bytes)
  | readClient (n : Nat)
  | readTarget (n : Nat)
  | recv
  | write
  /-- The relay obtains the lock it waits for. -/
  | lock

namespace Conversation

open Library.Execution

/-- The relay goes through a critical section. -/
def lock (c : Conversation) : Conversation :=
  match c.relay.stage with
  | .buffering _ => { c with relay := { c.relay with stage := .selecting } }
  | .leaving => { c with relay := { c.relay with stage := .closing } }
  | .closing => { c with relay := { c.relay with stage := .ended } }
  | _ => c

/-- Whether a read of the peer completes now. -/
def reads (c : Conversation) (peer : Peer) : Bool :=
  peer.readable && match c.relay.stage with
    | .selecting => true
    | _ => false

def step (c : Conversation) : ConversationEvent → Conversation
  | .clientSends bytes => { c with client := c.client.send bytes }
  | .clientEnds => { c with client := { c.client with ended := true } }
  | .targetSends bytes => { c with target := c.target.send bytes }
  | .targetEnds => { c with target := { c.target with ended := true } }
  | .queue data => { c with relay := { c.relay with dataRx := c.relay.dataRx ++ [data] } }
  | .readClient n =>
      if c.reads c.client then
        { c with
          relay := c.relay.io true (.readClient (.ok (c.client.chunk n)))
          client := c.client.skip n }
      else c
  | .readTarget n =>
      if c.reads c.target then
        { c with
          relay := c.relay.io true (.readTarget (.ok (c.target.chunk n)))
          target := c.target.skip n }
      else c
  | .recv => { c with relay := c.relay.io true .recv }
  | .write => { c with relay := c.relay.io true (.write none) }
  | .lock => c.lock

/-- Every byte a peer has sent is written to the other one's stream. -/
def Delivered (c : Conversation) : Prop :=
  c.relay.clientStream = c.target.sent ∧
    ∃ reads merged, reads.flatten = c.client.sent ∧
      OrderedMerge reads c.relay.received merged ∧ c.relay.targetStream = merged.flatten

/-- A connection whose relay has ended has delivered everything. -/
def DeliversAll (c : Conversation) : Prop := c.relay.stage.inLoop = false → c.Delivered

/-- The step does not cut off a peer: at the end of one stream nothing of the other is
unread, and no peer sends to a relay that has ended. -/
def CutsOffNone (c : Conversation) : ConversationEvent → Prop
  | .readClient _ => c.reads c.client → c.client.unread = [] → c.target.unread = []
  | .readTarget _ => c.reads c.target → c.target.unread = [] → c.client.unread = []
  | .clientSends bytes => c.relay.stage.inLoop = false → c.client.ended = false → bytes = []
  | .targetSends bytes => c.relay.stage.inLoop = false → c.target.ended = false → bytes = []
  | _ => True

/-! ## What the relay has read -/

/-- The peers' bytes are read or unread, and the relay is faithful to what it has read. -/
structure Reading (c : Conversation) : Prop where
  client : c.relay.clientReads.flatten ++ c.client.unread = c.client.sent
  target : c.relay.targetReads.flatten ++ c.target.unread = c.target.sent
  faithful : ∃ data, c.relay.Faithful data

/-- With that, nothing is unread once the relay has ended. -/
structure Inv (c : Conversation) : Prop extends Reading c where
  drained : c.relay.stage.inLoop = false → c.client.unread = [] ∧ c.target.unread = []

/-- What the sinks have when nothing is on its way to them. -/
theorem Reading.streams {c : Conversation} (h : Reading c)
    (hleft : c.relay.stage.inLoop = false) :
    (∃ merged, OrderedMerge c.relay.clientReads c.relay.received merged ∧
      c.relay.targetStream = merged.flatten) ∧
    c.relay.clientStream = c.relay.targetReads.flatten := by
  obtain ⟨data, ⟨merged, hmerge, htarget⟩, hclient, _⟩ := h.faithful
  have hnone : c.relay.toTarget = [] ∧ c.relay.toClient = [] := by
    cases hstage : c.relay.stage with
    | leaving | closing | ended => simp [Relay.toTarget, Relay.toClient, hstage]
    | _ => simp [hstage, RelayStage.inLoop] at hleft
  rw [hnone.1, List.append_nil] at hmerge
  rw [hnone.2, List.flatten_nil, List.append_nil] at hclient
  exact ⟨⟨merged, hmerge, htarget⟩, hclient⟩

theorem reads_eq_true {c : Conversation} {peer : Peer} :
    c.reads peer = true ↔ peer.readable = true ∧ c.relay.stage = .selecting := by
  cases hstage : c.relay.stage <;> simp [reads, hstage]

theorem io_readClient {relay : Relay} (hstage : relay.stage = .selecting) (result : ReadResult) :
    relay.io true (.readClient result) = relay.readFromClient result := by
  simp only [Relay.io, hstage]

theorem io_readTarget {relay : Relay} (hstage : relay.stage = .selecting) (result : ReadResult) :
    relay.io true (.readTarget result) = relay.readFromTarget result := by
  simp only [Relay.io, hstage]

theorem Reading.io {c : Conversation} (h : Reading c) {event : RelayIO}
    (hevent : event = .recv ∨ event = .write none) :
    Reading { c with relay := c.relay.io true event } := by
  obtain ⟨data, hfaithful⟩ := h.faithful
  have hreads := c.relay.io_reads true (hevent.imp_right fun heq => ⟨none, heq⟩)
  constructor
  · simpa only [hreads.1] using h.client
  · simpa only [hreads.2] using h.target
  · refine ⟨data, hfaithful.io true fun n heq => ?_⟩
    rcases hevent with rfl | rfl <;> cases heq

theorem Reading.readClient {c : Conversation} (h : Reading c) (hstage : c.relay.stage = .selecting)
    (n : Nat) : Reading { c with
      relay := c.relay.readFromClient (.ok (c.client.chunk n))
      client := c.client.skip n } := by
  obtain ⟨data, hfaithful⟩ := h.faithful
  have hsplit := c.client.chunk_append_skip n
  have hreads := h.client
  have htarget := h.target
  refine ⟨?_, ?_, data, hfaithful.readFromClient hstage (.ok (c.client.chunk n))⟩
  · simp only [Relay.readFromClient]
    split
    · rename_i hnil
      rw [hnil, List.nil_append] at hsplit
      show c.relay.clientReads.flatten ++ (c.client.skip n).unread = c.client.sent
      rw [hsplit]
      exact hreads
    · rw [← hsplit] at hreads
      simpa [Peer.skip] using hreads
  · simp only [Relay.readFromClient]
    split <;> exact htarget

theorem Reading.readTarget {c : Conversation} (h : Reading c) (hstage : c.relay.stage = .selecting)
    (n : Nat) : Reading { c with
      relay := c.relay.readFromTarget (.ok (c.target.chunk n))
      target := c.target.skip n } := by
  obtain ⟨data, hfaithful⟩ := h.faithful
  have hsplit := c.target.chunk_append_skip n
  have hclient := h.client
  have hreads := h.target
  refine ⟨?_, ?_, data, hfaithful.readFromTarget hstage (.ok (c.target.chunk n))⟩
  · simp only [Relay.readFromTarget]
    split <;> exact hclient
  · simp only [Relay.readFromTarget]
    split
    · rename_i hnil
      rw [hnil, List.nil_append] at hsplit
      show c.relay.targetReads.flatten ++ (c.target.skip n).unread = c.target.sent
      rw [hsplit]
      exact hreads
    · rw [← hsplit] at hreads
      simpa [Peer.skip] using hreads

theorem Reading.lock {c : Conversation} (h : Reading c) : Reading c.lock := by
  obtain ⟨data, hfaithful⟩ := h.faithful
  have ⟨⟨merged, hmerge, htarget⟩, hclient, hbuffer⟩ := hfaithful
  unfold Conversation.lock
  split
  · rename_i n hstage
    exact ⟨h.client, h.target, _, hfaithful.buffered hstage⟩
  · rename_i hstage
    simp only [Relay.toTarget, Relay.toClient, Relay.toBuffer, hstage] at hmerge hclient hbuffer
    exact ⟨h.client, h.target, data, ⟨⟨merged, hmerge, htarget⟩, hclient, hbuffer⟩⟩
  · rename_i hstage
    simp only [Relay.toTarget, Relay.toClient, Relay.toBuffer, hstage] at hmerge hclient hbuffer
    exact ⟨h.client, h.target, data, ⟨⟨merged, hmerge, htarget⟩, hclient, hbuffer⟩⟩
  · exact h

theorem Reading.step {c : Conversation} (h : Reading c) (e : ConversationEvent) :
    Reading (c.step e) := by
  have hclient := h.client
  have htarget := h.target
  have hfaithful := h.faithful
  cases e with
  | clientSends bytes =>
      refine ⟨?_, htarget, hfaithful⟩
      simp only [Conversation.step, Peer.send]
      split
      · exact hclient
      · simp [← hclient]
  | targetSends bytes =>
      refine ⟨hclient, ?_, hfaithful⟩
      simp only [Conversation.step, Peer.send]
      split
      · exact htarget
      · simp [← htarget]
  | clientEnds => exact ⟨hclient, htarget, hfaithful⟩
  | targetEnds => exact ⟨hclient, htarget, hfaithful⟩
  | queue data =>
      obtain ⟨data, hfaithful⟩ := hfaithful
      exact ⟨hclient, htarget, data, ⟨hfaithful.target, hfaithful.client, hfaithful.buffer⟩⟩
  | readClient n =>
      simp only [Conversation.step]
      split
      · have hstage := (reads_eq_true.mp ‹_›).2
        rw [io_readClient hstage]
        exact h.readClient hstage n
      · exact h
  | readTarget n =>
      simp only [Conversation.step]
      split
      · have hstage := (reads_eq_true.mp ‹_›).2
        rw [io_readTarget hstage]
        exact h.readTarget hstage n
      · exact h
  | recv => exact h.io (.inl rfl)
  | write => exact h.io (.inr rfl)
  | lock => exact h.lock

/-! ## Leaving the loop -/

theorem inLoop_readFromClient (relay : Relay) (peer : Peer) (n : Nat) :
    (relay.readFromClient (.ok (peer.chunk n))).stage.inLoop = !peer.unread.isEmpty := by
  simp only [Relay.readFromClient, Peer.chunk_eq_nil]
  by_cases hunread : peer.unread = [] <;> simp [hunread, Relay.leave, RelayStage.inLoop]

theorem inLoop_readFromTarget (relay : Relay) (peer : Peer) (n : Nat) :
    (relay.readFromTarget (.ok (peer.chunk n))).stage.inLoop = !peer.unread.isEmpty := by
  simp only [Relay.readFromTarget, Peer.chunk_eq_nil]
  by_cases hunread : peer.unread = [] <;> simp [hunread, Relay.leave, RelayStage.inLoop]

/-- A block from the open channel and a write that succeeds stay in the loop. -/
theorem inLoop_io (relay : Relay) {event : RelayIO}
    (hevent : event = .recv ∨ event = .write none) :
    (relay.io true event).stage.inLoop = relay.stage.inLoop := by
  rcases hevent with rfl | rfl
  · cases hstage : relay.stage with
    | selecting => cases hrx : relay.dataRx <;> simp [Relay.io, Relay.receive, hstage, hrx,
        RelayStage.inLoop]
    | _ => simp [Relay.io, hstage]
  · cases hstage : relay.stage with
    | writingToTarget bytes => simp [Relay.io, hstage, Relay.writeToTarget, RelayStage.inLoop]
    | writingToClient n => simp [Relay.io, hstage, Relay.writeToClient, RelayStage.inLoop]
    | _ => simp [Relay.io, hstage]

theorem inLoop_lock (c : Conversation) : c.lock.relay.stage.inLoop = c.relay.stage.inLoop := by
  cases hstage : c.relay.stage <;> simp [lock, hstage, RelayStage.inLoop]

/-- Delivered means read: the bytes of the two streams count the bytes read. -/
theorem Reading.delivered_iff {c : Conversation} (h : Reading c)
    (hleft : c.relay.stage.inLoop = false) :
    c.Delivered ↔ c.client.unread = [] ∧ c.target.unread = [] := by
  obtain ⟨⟨merged, hmerge, htarget⟩, hclient⟩ := h.streams hleft
  constructor
  · rintro ⟨hsent, reads, merged', hreads, hmerge', htarget'⟩
    constructor
    · have hlength := hmerge.perm.flatten.length_eq
      have hlength' := hmerge'.perm.flatten.length_eq
      rw [← htarget] at hlength
      rw [← htarget', List.flatten_append, hreads, ← h.client] at hlength'
      simp only [List.flatten_append, List.length_append] at hlength hlength'
      exact List.length_eq_zero_iff.mp (by omega)
    · rw [hclient, ← h.target] at hsent
      simpa using hsent
  · rintro ⟨hclientUnread, htargetUnread⟩
    have hsent := h.client
    have htargetSent := h.target
    rw [hclientUnread, List.append_nil] at hsent
    rw [htargetUnread, List.append_nil] at htargetSent
    exact ⟨hclient.trans htargetSent, _, merged, hsent, hmerge, htarget⟩

theorem Inv.step {c : Conversation} (h : Inv c) {e : ConversationEvent} (hcuts : c.CutsOffNone e) :
    Inv (c.step e) := by
  refine ⟨h.toReading.step e, ?_⟩
  have hdrained := h.drained
  cases e with
  | clientSends bytes =>
      intro hleft
      exact ⟨Peer.unread_send_eq_nil (hdrained hleft).1 (hcuts hleft), (hdrained hleft).2⟩
  | targetSends bytes =>
      intro hleft
      exact ⟨(hdrained hleft).1, Peer.unread_send_eq_nil (hdrained hleft).2 (hcuts hleft)⟩
  | clientEnds => exact hdrained
  | targetEnds => exact hdrained
  | queue data => exact hdrained
  | readClient n =>
      simp only [Conversation.step]
      split
      · rename_i hreads
        rw [io_readClient (reads_eq_true.mp hreads).2]
        intro hleft
        rw [inLoop_readFromClient] at hleft
        have hunread : c.client.unread = [] := by simpa using hleft
        exact ⟨by simp [Peer.skip, hunread], hcuts hreads hunread⟩
      · exact hdrained
  | readTarget n =>
      simp only [Conversation.step]
      split
      · rename_i hreads
        rw [io_readTarget (reads_eq_true.mp hreads).2]
        intro hleft
        rw [inLoop_readFromTarget] at hleft
        have hunread : c.target.unread = [] := by simpa using hleft
        exact ⟨hcuts hreads hunread, by simp [Peer.skip, hunread]⟩
      · exact hdrained
  | recv =>
      intro hleft
      exact hdrained ((inLoop_io c.relay (.inl rfl)).symm.trans hleft)
  | write =>
      intro hleft
      exact hdrained ((inLoop_io c.relay (.inr rfl)).symm.trans hleft)
  | lock =>
      intro hleft
      have hpeers : c.lock.client = c.client ∧ c.lock.target = c.target := by
        unfold lock
        split <;> exact ⟨rfl, rfl⟩
      show c.lock.client.unread = [] ∧ c.lock.target.unread = []
      rw [hpeers.1, hpeers.2]
      exact hdrained ((inLoop_lock c).symm.trans hleft)

/-- A step that cuts off a peer leaves something unread behind a relay that has ended. -/
theorem Inv.not_delivered {c : Conversation} (h : Inv c) {e : ConversationEvent}
    (hcuts : ¬ c.CutsOffNone e) : ¬ (c.step e).DeliversAll := by
  intro hdelivers
  have hreading := h.toReading.step e
  cases e with
  | clientSends bytes =>
      simp only [CutsOffNone, Classical.not_imp] at hcuts
      obtain ⟨hleft, hended, hbytes⟩ := hcuts
      have hunread := ((hreading.delivered_iff hleft).mp (hdelivers hleft)).1
      simp [Conversation.step, Peer.send, hended, hbytes] at hunread
  | targetSends bytes =>
      simp only [CutsOffNone, Classical.not_imp] at hcuts
      obtain ⟨hleft, hended, hbytes⟩ := hcuts
      have hunread := ((hreading.delivered_iff hleft).mp (hdelivers hleft)).2
      simp [Conversation.step, Peer.send, hended, hbytes] at hunread
  | readClient n =>
      simp only [CutsOffNone, Classical.not_imp] at hcuts
      obtain ⟨hreads, hunread, htarget⟩ := hcuts
      simp only [Conversation.step, hreads, if_true,
        io_readClient (reads_eq_true.mp hreads).2] at hreading hdelivers
      have hleft := inLoop_readFromClient c.relay c.client n
      rw [hunread] at hleft
      exact htarget ((hreading.delivered_iff hleft).mp (hdelivers hleft)).2
  | readTarget n =>
      simp only [CutsOffNone, Classical.not_imp] at hcuts
      obtain ⟨hreads, hunread, hclient⟩ := hcuts
      simp only [Conversation.step, hreads, if_true,
        io_readTarget (reads_eq_true.mp hreads).2] at hreading hdelivers
      have hleft := inLoop_readFromTarget c.relay c.target n
      rw [hunread] at hleft
      exact hclient ((hreading.delivered_iff hleft).mp (hdelivers hleft)).1
  | clientEnds | targetEnds | queue | recv | write | lock => exact hcuts trivial

/-- Whichever side ends its stream first, every byte is delivered exactly if no end of
stream is read while the other side has bytes unread, and nobody sends after it. -/
theorem deliversAll_iff_cutsOffNone (es : List ConversationEvent) :
    Always step DeliversAll {} es ↔ Along step (fun _ c e => c.CutsOffNone e) {} es := by
  apply always_iff_along (A := fun _ _ _ => True) (I := fun _ c => Inv c)
  · exact fun _ _ _ => trivial
  · refine ⟨⟨rfl, rfl, [], Relay.faithful_new⟩, ?_⟩
    intro hleft
    cases hleft
  · intro _ c h hleft
    exact (h.toReading.delivered_iff hleft).mpr (h.drained hleft)
  · exact fun _ c e h _ hcuts => h.step hcuts
  · exact fun _ c e h _ hcuts => h.not_delivered hcuts

/-- The client sends a request and shuts down its sending side. The relay reads the end of
stream before the target has answered. -/
theorem deliversAll_halfClose_false :
    ¬ ∀ es, Always step DeliversAll {} es := by
  intro h
  have hdelivers := (h [.clientSends [1], .clientEnds, .readClient 0, .write, .readClient 0,
    .targetSends [2]]).last
  exact absurd (hdelivers rfl).1 (by decide)

end Conversation

end Yuha
