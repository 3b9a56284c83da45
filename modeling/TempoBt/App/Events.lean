-- SUMMARY: The event types of the application's event bus.
import Mathlib.Tactic.TypeStar

/-!
# Events

The event types of `events.h`.
-/

namespace TempoBt

/-- `event_type_t` -/
inductive EventType where
  | sessionStart
  | sessionStop
  | stateChange
  | storageLow
  | storageError
  | uploadStart
  | uploadDone
  | dfuStart
  | dfuDone
  | sensorError
  | gnssFixAcquired
  | gnssFixLost
  | bleConnected
  | bleDisconnected
  | testDummy
  deriving DecidableEq

end TempoBt
