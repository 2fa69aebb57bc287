namespace TypedBus.Channel

/-- A subscription matches the channels that begin with its name; the empty name matches all. -/
def covers (subscribed published : String) : Bool :=
  subscribed.toList.isPrefixOf published.toList

theorem covers_iff {subscribed published : String} :
    covers subscribed published ↔ subscribed.toList <+: published.toList := by
  simp [covers]

end TypedBus.Channel
