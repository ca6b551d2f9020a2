import Mathlib.Data.BitVec
import Yuha.Core.Transport

/-!
# Session identifiers, statuses and metadata

## Implementation notes

Times and durations count nanoseconds. Every function that reads the clock takes the
reading as an argument, so the clock may also run backwards: `duration_since` is then
an error and its callers fall back on zero, which is the truncated difference.
-/

namespace Yuha

abbrev SystemTime := Nat

abbrev Duration := Nat

def Duration.fromSecs (secs : Nat) : Duration := secs * 1000000000

/-- `duration_since(earlier).unwrap_or(Duration::ZERO)`. -/
def SystemTime.since (now earlier : SystemTime) : Duration := now - earlier

/-- The `Debug` text of a time. -/
def SystemTime.debug (time : SystemTime) : String :=
  s!"SystemTime \x7b tv_sec: {time / 1000000000}, tv_nsec: {time % 1000000000} \x7d"

structure SessionId where
  uuid : BitVec 128
  deriving DecidableEq, Repr

/-- The hyphenated hexadecimal form, in lower case. -/
def SessionId.toString (id : SessionId) : String :=
  let digits (start stop : Nat) : String :=
    String.ofList ((List.range' start (stop - start)).map fun i =>
      Nat.digitChar (id.uuid.toNat / 16 ^ (31 - i) % 16))
  digits 0 8 ++ "-" ++ digits 8 12 ++ "-" ++ digits 12 16 ++ "-" ++ digits 16 20 ++ "-"
    ++ digits 20 32

inductive SessionStatus
  | creating
  | connecting
  | active
  | idle
  | reconnecting
  | failed
  | closing
  | closed
  deriving DecidableEq, Repr

/-- The `Debug` text of a status. -/
def SessionStatus.debug : SessionStatus → String
  | .creating => "Creating"
  | .connecting => "Connecting"
  | .active => "Active"
  | .idle => "Idle"
  | .reconnecting => "Reconnecting"
  | .failed => "Failed"
  | .closing => "Closing"
  | .closed => "Closed"

inductive SessionPriority
  | low
  | normal
  | high
  | critical
  deriving DecidableEq, Repr

structure SessionMetadata where
  id : SessionId
  name : String
  transportConfig : TransportConfig
  status : SessionStatus
  priority : SessionPriority
  createdAt : SystemTime
  lastUsed : SystemTime
  useCount : Nat
  tags : List String
  description : Option String
  deriving DecidableEq

namespace SessionMetadata

/-- New metadata under a drawn identifier. -/
def new (now : SystemTime) (id : SessionId) (name : String) (transportConfig : TransportConfig)
    (tags : List String) (description : Option String) : SessionMetadata where
  id := id
  name := name
  transportConfig := transportConfig
  status := .creating
  priority := .normal
  createdAt := now
  lastUsed := now
  useCount := 0
  tags := tags
  description := description

def markUsed (metadata : SessionMetadata) (now : SystemTime) : SessionMetadata :=
  { metadata with lastUsed := now, useCount := metadata.useCount + 1 }

def setStatus (metadata : SessionMetadata) (now : SystemTime) (status : SessionStatus) :
    SessionMetadata :=
  { metadata with
    status := status
    lastUsed := match status with
      | .active | .idle => now
      | _ => metadata.lastUsed }

def age (metadata : SessionMetadata) (now : SystemTime) : Duration :=
  now.since metadata.createdAt

def idleTime (metadata : SessionMetadata) (now : SystemTime) : Duration :=
  now.since metadata.lastUsed

def connectionKey (metadata : SessionMetadata) : String :=
  metadata.transportConfig.connectionKey

@[simp] theorem markUsed_id (metadata : SessionMetadata) (now : SystemTime) :
    (metadata.markUsed now).id = metadata.id := rfl

@[simp] theorem markUsed_name (metadata : SessionMetadata) (now : SystemTime) :
    (metadata.markUsed now).name = metadata.name := rfl

@[simp] theorem markUsed_transportConfig (metadata : SessionMetadata) (now : SystemTime) :
    (metadata.markUsed now).transportConfig = metadata.transportConfig := rfl

@[simp] theorem markUsed_status (metadata : SessionMetadata) (now : SystemTime) :
    (metadata.markUsed now).status = metadata.status := rfl

@[simp] theorem markUsed_connectionKey (metadata : SessionMetadata) (now : SystemTime) :
    (metadata.markUsed now).connectionKey = metadata.connectionKey := rfl

@[simp] theorem setStatus_id (metadata : SessionMetadata) (now : SystemTime)
    (status : SessionStatus) : (metadata.setStatus now status).id = metadata.id := rfl

@[simp] theorem setStatus_name (metadata : SessionMetadata) (now : SystemTime)
    (status : SessionStatus) : (metadata.setStatus now status).name = metadata.name := rfl

@[simp] theorem setStatus_transportConfig (metadata : SessionMetadata) (now : SystemTime)
    (status : SessionStatus) :
    (metadata.setStatus now status).transportConfig = metadata.transportConfig := rfl

@[simp] theorem setStatus_status (metadata : SessionMetadata) (now : SystemTime)
    (status : SessionStatus) : (metadata.setStatus now status).status = status := rfl

@[simp] theorem setStatus_connectionKey (metadata : SessionMetadata) (now : SystemTime)
    (status : SessionStatus) :
    (metadata.setStatus now status).connectionKey = metadata.connectionKey := rfl

end SessionMetadata

end Yuha
