import Yuha.Daemon.Server
import Yuha.Library.Execution

/-!
# Which connections are served

The accept loop counts the connections it accepted and never counts one down. It serves
the right ones only as long as that count says how many clients are connected: for the
first `max_clients` connections, and later while none of these has left.
-/

namespace Yuha

open Library Execution

namespace DaemonServer

variable {codec : DaemonCodec} {server : DaemonServer}

/-- The served clients that are still connected. -/
def live (server : DaemonServer) : Nat :=
  server.tasks.countP fun task => decide (task.phase ≠ .closed)

/-- A connection that is accepted is served if and only if fewer than `max_clients`
served clients are connected. -/
def AdmitsByLive (codec : DaemonCodec) (server : DaemonServer) (event : ServerEvent) : Prop :=
  event = .accept → server.acceptor = .accepting →
    ((step codec server event).tasks.length = server.tasks.length + 1 ↔
      server.live < server.config.maxClients.toNat)

/-- The served clients that have left. -/
def departed (server : DaemonServer) : Nat :=
  server.tasks.countP fun task => decide (task.phase = .closed)

/-- The connections served while the counter went through all its values: each time, the
first `max_clients` of them and the one at which it wraps around. -/
def servedInRounds (server : DaemonServer) : Nat :=
  server.accepted / 2 ^ 32 * (server.config.maxClients.toNat + 1)

/-- A connection that is accepted is among the first `max_clients` ones, or no served
client has left. From the 2^32-th connection on, the count has wrapped around: then so many
served clients have left that there is room for one that is counted among the first
`max_clients` of its round, and not so many that there is room for another one. -/
def CountMatches (server : DaemonServer) (event : ServerEvent) : Prop :=
  event = .accept → server.acceptor = .accepting →
    if server.accepted + 1 < 2 ^ 32 then
      server.accepted + 1 ≤ server.config.maxClients.toNat ∨
        ∀ task ∈ server.tasks, task.phase ≠ .closed
    else if (server.accepted + 1) % 2 ^ 32 ≤ server.config.maxClients.toNat then
      server.servedInRounds + min (server.accepted % 2 ^ 32) server.config.maxClients.toNat <
        server.departed + server.config.maxClients.toNat
    else server.departed ≤ server.servedInRounds

/-- The counter holds the number of accepted connections in 32 bits, and the served ones are
the first `max_clients` of each round. -/
structure Counted (server : DaemonServer) : Prop where
  count : server.clientCount.toNat = server.accepted % 2 ^ 32
  served : server.tasks.length = server.servedInRounds +
    min (server.accepted % 2 ^ 32) server.config.maxClients.toNat

theorem live_add_departed (server : DaemonServer) :
    server.live + server.departed = server.tasks.length := by
  have hsplit := List.length_eq_countP_add_countP
    (fun task : ClientTask => decide (task.phase = .closed)) (l := server.tasks)
  simp only [live, departed, hsplit, decide_eq_true_eq, decide_not, ne_eq]
  omega

theorem departed_eq_zero_iff :
    server.departed = 0 ↔ ∀ task ∈ server.tasks, task.phase ≠ .closed := by
  simp [departed, List.countP_eq_zero]

/-- The next connection is one more served one if the counter is at most `max_clients`. -/
theorem rounds_succ (accepted : Nat) {maxClients : Nat} (h : maxClients < 2 ^ 32) :
    (accepted + 1) / 2 ^ 32 * (maxClients + 1) + min ((accepted + 1) % 2 ^ 32) maxClients =
      accepted / 2 ^ 32 * (maxClients + 1) + min (accepted % 2 ^ 32) maxClients +
        if (accepted + 1) % 2 ^ 32 ≤ maxClients then 1 else 0 := by
  by_cases hwraps : (accepted + 1) % 2 ^ 32 = 0
  · have hround : (accepted + 1) / 2 ^ 32 = accepted / 2 ^ 32 + 1 := by omega
    rw [hround, hwraps, if_pos (Nat.zero_le _), Nat.add_mul]
    omega
  · have hround : (accepted + 1) / 2 ^ 32 = accepted / 2 ^ 32 := by omega
    have hnext : (accepted + 1) % 2 ^ 32 = accepted % 2 ^ 32 + 1 := by omega
    rw [hround, hnext]
    split <;> omega

/-- Only an accepted connection changes a count. -/
theorem counts_step_of_ne_accept (codec : DaemonCodec) (server : DaemonServer)
    {event : ServerEvent} (h : event ≠ .accept) :
    (step codec server event).config = server.config ∧
      (step codec server event).clientCount = server.clientCount ∧
      (step codec server event).accepted = server.accepted ∧
      (step codec server event).tasks.length = server.tasks.length := by
  cases event with
  | accept => exact absurd rfl h
  | checkShutdown | acceptFailed | cleanup _ =>
      simp only [step]
      split <;> exact ⟨rfl, rfl, rfl, rfl⟩
  | receive i frame ambient =>
      simp only [step]
      repeat' split
      · next task _ _ _ =>
          obtain ⟨_, _, heq⟩ :=
            handleFrame_fst codec server ambient task frame
          rw [heq]
          exact ⟨rfl, rfl, rfl, List.length_set⟩
      all_goals exact ⟨rfl, rfl, rfl, rfl⟩
  | hangUp i | reply i _ =>
      simp only [step]
      repeat' split
      · exact ⟨rfl, rfl, rfl, List.length_set⟩
      all_goals exact ⟨rfl, rfl, rfl, rfl⟩

/-- An accepted connection is served if the count has not passed `max_clients`. -/
theorem acceptConnection_spec (h : server.Counted) :
    server.acceptConnection.config = server.config ∧
      server.acceptConnection.accepted = server.accepted + 1 ∧
      server.acceptConnection.clientCount.toNat = (server.accepted + 1) % 2 ^ 32 ∧
      server.acceptConnection.tasks.length =
        if (server.accepted + 1) % 2 ^ 32 ≤ server.config.maxClients.toNat
        then server.tasks.length + 1 else server.tasks.length := by
  have hcount : (server.clientCount + 1).toNat = (server.accepted + 1) % 2 ^ 32 := by
    rw [UInt32.toNat_add, h.count]
    simp
  unfold acceptConnection
  dsimp only
  split
  · next hgreater =>
      have hlt := UInt32.lt_iff_toNat_lt.mp hgreater
      rw [hcount] at hlt
      rw [if_neg (by omega)]
      exact ⟨rfl, rfl, hcount, rfl⟩
  · next hgreater =>
      have hle : ¬ _ < _ := fun hlt => hgreater (UInt32.lt_iff_toNat_lt.mpr hlt)
      rw [hcount] at hle
      rw [if_pos (by omega)]
      exact ⟨rfl, rfl, hcount, by simp⟩

theorem counted_new (config : DaemonConfig) : (new config).Counted where
  count := rfl
  served := by simp [new, servedInRounds]

theorem Counted.step (h : server.Counted) (event : ServerEvent) :
    (step codec server event).Counted := by
  by_cases haccept : event = .accept ∧ server.acceptor = .accepting
  · obtain ⟨rfl, hacceptor⟩ := haccept
    obtain ⟨hconfig, haccepted, hcount, htasks⟩ := acceptConnection_spec h
    simp only [DaemonServer.step, hacceptor]
    refine ⟨by rw [hcount, haccepted], ?_⟩
    rw [htasks, servedInRounds, haccepted, hconfig,
      rounds_succ server.accepted server.config.maxClients.toNat_lt, ← servedInRounds, ← h.served]
    split <;> rfl
  · by_cases hevent : event = .accept
    · have hother : server.acceptor ≠ .accepting := fun hacceptor => haccept ⟨hevent, hacceptor⟩
      subst hevent
      simpa only [DaemonServer.step] using h
    · obtain ⟨hconfig, hcount, haccepted, htasks⟩ :=
        counts_step_of_ne_accept codec server hevent
      refine ⟨by rw [hcount, haccepted, h.count], ?_⟩
      rw [htasks, servedInRounds, haccepted, hconfig, h.served, servedInRounds]

theorem admitsByLive_iff (h : server.Counted) (event : ServerEvent) :
    server.AdmitsByLive codec event ↔ server.CountMatches event := by
  unfold AdmitsByLive CountMatches
  refine forall_congr' fun hevent => forall_congr' fun hacceptor => ?_
  subst hevent
  obtain ⟨_, _, _, htasks⟩ := acceptConnection_spec h
  have hserves : (step codec server .accept).tasks.length = server.tasks.length + 1 ↔
      (server.accepted + 1) % 2 ^ 32 ≤ server.config.maxClients.toNat := by
    simp only [step, hacceptor, htasks]
    split
    · next hle => exact ⟨fun _ => hle, fun _ => rfl⟩
    · next hle => exact ⟨fun heq => by omega, fun hle' => absurd hle' hle⟩
  rw [hserves]
  have hserved := h.served
  have hlive := server.live_add_departed
  split
  · next hlt =>
      have hfirst : server.servedInRounds = 0 := by
        rw [servedInRounds, Nat.div_eq_of_lt (by omega), Nat.zero_mul]
      rw [← departed_eq_zero_iff]
      omega
  · split <;> omega

/-- In every run, of any length, each connection is served just when fewer than
`max_clients` served clients are connected, if and only if each comes among the first
`max_clients` or while no served client has left (with the wrapped count past 2^32). -/
theorem admitsByLive_iff_countMatches (codec : DaemonCodec) (config : DaemonConfig)
    (events : List ServerEvent) :
    Along (step codec) (fun _ server event => server.AdmitsByLive codec event)
        (new config) events ↔
      Along (step codec) (fun _ server event => server.CountMatches event)
        (new config) events := by
  refine along_congr (A := fun _ _ _ => True) (I := fun _ server => server.Counted)
    (fun _ _ _ => trivial) (counted_new config) ?_ ?_
  · exact fun _ server event h _ => h.step event
  · exact fun _ server event h _ => admitsByLive_iff h event

/-! ## One client after another -/

def noCodec : DaemonCodec where
  requestFromSlice _ := .error "expected value at line 1 column 1"
  responseToVec _ := .ok []

/-- With room for one client, a client comes and leaves, and another comes. -/
def turnEvents : List ServerEvent :=
  [.checkShutdown, .accept, .hangUp 0, .checkShutdown, .accept]

/-- The second client is turned away although no client is connected. -/
theorem admitsByLive_turn_false :
    ¬ Along (step noCodec) (fun _ server event => server.AdmitsByLive noCodec event)
      (new { maxClients := 1 }) turnEvents := by
  intro h
  have hserved := (h (turnEvents.take 4) .accept (List.prefix_refl _) rfl rfl).mpr (by decide)
  exact absurd hserved (by decide)

end DaemonServer

end Yuha
