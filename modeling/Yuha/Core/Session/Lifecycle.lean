import Yuha.Core.Session.Metadata

/-!
# The session lifecycle
-/

namespace Yuha

structure SessionLifecycleConfig where
  maxIdleTime : Duration := Duration.fromSecs 300
  maxSessionLifetime : Duration := Duration.fromSecs 3600
  maxReconnectAttempts : UInt32 := 3
  reconnectDelay : Duration := Duration.fromSecs 5
  deriving DecidableEq, Repr

/-- Expiry by idle time, by age, or because the session failed. -/
def SessionLifecycleConfig.shouldExpireSession (config : SessionLifecycleConfig)
    (now : SystemTime) (session : SessionMetadata) : Bool :=
  if session.status = .idle ∧ config.maxIdleTime < session.idleTime now then true
  else if config.maxSessionLifetime < session.age now then true
  else if session.status = .failed then true
  else false

/-- Only a failed session is to be reconnected, if it is neither old nor idle for long. The
flag `enable_auto_reconnect` of the configuration is read here only. -/
def SessionLifecycleConfig.shouldReconnectSession (config : SessionLifecycleConfig)
    (enableAutoReconnect : Bool) (now : SystemTime) (session : SessionMetadata) : Bool :=
  if !enableAutoReconnect then false
  else if session.status ≠ .failed then false
  else if config.maxSessionLifetime < session.age now then false
  else if config.maxIdleTime < session.idleTime now then false
  else true

theorem SystemTime.since_mono {now now' earlier earlier' : SystemTime} (hnow : now ≤ now')
    (hearlier : earlier' ≤ earlier) :
    SystemTime.since now earlier ≤ SystemTime.since now' earlier' :=
  (Nat.sub_le_sub_right hnow earlier).trans (Nat.sub_le_sub_left hearlier now')

namespace SessionLifecycleConfig

variable {config : SessionLifecycleConfig} {now later : SystemTime} {session : SessionMetadata}

theorem shouldExpireSession_iff :
    config.shouldExpireSession now session ↔
      session.status = .idle ∧ config.maxIdleTime < session.idleTime now ∨
        config.maxSessionLifetime < session.age now ∨ session.status = .failed := by
  unfold shouldExpireSession
  by_cases hidle : session.status = .idle ∧ config.maxIdleTime < session.idleTime now
  · simp [hidle]
  · by_cases hold : config.maxSessionLifetime < session.age now
    · simp [hidle, hold]
    · simp [hidle, hold]

/-- What has expired stays so, as long as it is not used. -/
theorem shouldExpireSession_mono (hle : now ≤ later)
    (h : config.shouldExpireSession now session) : config.shouldExpireSession later session := by
  rw [shouldExpireSession_iff] at h ⊢
  rcases h with ⟨hstatus, hlong⟩ | hold | hfailed
  · exact Or.inl ⟨hstatus, hlong.trans_le (SystemTime.since_mono hle (Nat.le_refl _))⟩
  · exact Or.inr (Or.inl (hold.trans_le (SystemTime.since_mono hle (Nat.le_refl _))))
  · exact Or.inr (Or.inr hfailed)

end SessionLifecycleConfig

end Yuha
