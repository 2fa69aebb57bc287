import TypedBus.Error.Typed

namespace TypedBus

structure SubscriberMetrics where
  delivered : UInt64 := 0
  unknownType : UInt64 := 0
  missingTag : UInt64 := 0
  decodeFailed : UInt64 := 0
  internal : UInt64 := 0
deriving DecidableEq, Repr

namespace SubscriberMetrics

def recordDelivered (s : SubscriberMetrics) : SubscriberMetrics :=
  { s with delivered := s.delivered + 1 }

/-- Counts an error under its kind; errors that a message cannot cause are internal. -/
def recordFailure (s : SubscriberMetrics) : TypedError → SubscriberMetrics
  | .unknownType _ => { s with unknownType := s.unknownType + 1 }
  | .missingTypeTag => { s with missingTag := s.missingTag + 1 }
  | .decode _ _ => { s with decodeFailed := s.decodeFailed + 1 }
  | .registry _ | .encode _ _ | .duplicateRegistration _ | .emptyTypeTag | .transport _ =>
    { s with internal := s.internal + 1 }

def failures (s : SubscriberMetrics) : UInt64 :=
  s.unknownType + s.missingTag + s.decodeFailed + s.internal

def toList (s : SubscriberMetrics) : List UInt64 :=
  [s.delivered, s.unknownType, s.missingTag, s.decodeFailed, s.internal, s.failures]

def summary (s : SubscriberMetrics) : String :=
  s!"Subscriber Metrics:\n- Delivered: {s.delivered.toNat}\n" ++
  s!"- Unknown Type: {s.unknownType.toNat}\n- Missing Tag: {s.missingTag.toNat}\n" ++
  s!"- Decode Failed: {s.decodeFailed.toNat}\n- Internal: {s.internal.toNat}"

end SubscriberMetrics

end TypedBus
