namespace TypedBus

structure TransportMetrics where
  publishers : UInt64 := 0
  subscribers : UInt64 := 0
  messages : UInt64 := 0
  bytes : UInt64 := 0
  deliveries : UInt64 := 0
  dropped : UInt64 := 0
deriving DecidableEq, Repr

namespace TransportMetrics

def addPublisher (t : TransportMetrics) : TransportMetrics :=
  { t with publishers := t.publishers + 1 }

def removePublisher (t : TransportMetrics) : TransportMetrics :=
  { t with publishers := t.publishers - 1 }

def addSubscriber (t : TransportMetrics) : TransportMetrics :=
  { t with subscribers := t.subscribers + 1 }

def removeSubscriber (t : TransportMetrics) : TransportMetrics :=
  { t with subscribers := t.subscribers - 1 }

def recordPublished (t : TransportMetrics) (size : Nat) : TransportMetrics :=
  { t with messages := t.messages + 1, bytes := t.bytes + UInt64.ofNat size }

def recordDelivery (t : TransportMetrics) : TransportMetrics :=
  { t with deliveries := t.deliveries + 1 }

/-- Counts a message whose subscription had gone. -/
def recordDropped (t : TransportMetrics) : TransportMetrics :=
  { t with dropped := t.dropped + 1 }

def toList (t : TransportMetrics) : List UInt64 :=
  [t.publishers, t.subscribers, t.messages, t.bytes, t.deliveries, t.dropped]

def summary (t : TransportMetrics) : String :=
  s!"Transport Metrics:\n- Publishers: {t.publishers.toNat}\n" ++
  s!"- Subscribers: {t.subscribers.toNat}\n- Messages Published: {t.messages.toNat}\n" ++
  s!"- Bytes Published: {t.bytes.toNat}\n- Deliveries: {t.deliveries.toNat}\n" ++
  s!"- Dropped: {t.dropped.toNat}"

end TransportMetrics

end TypedBus
