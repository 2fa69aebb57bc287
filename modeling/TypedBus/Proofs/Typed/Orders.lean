import TypedBus.Publisher

namespace TypedBus.TypedPublisher

variable {G : Type} {key : String}

/-- What is asked of a publisher or of one of its clones, which are all the same publisher. A message
that was prepared can be changed before it is sent. -/
inductive Order
  | putMeta (key value : String)
  | eraseMeta (key : String)
  | prepare (tag? : Option String) (object : TypedObject)
  | sendObject (tag? : Option String) (object : TypedObject)
  | send (message : Message)

def obey (p : TypedPublisher) (d : Domain G) : Order → TypedPublisher × Domain G
  | .putMeta key value => (p.putMeta key value, d)
  | .eraseMeta key => (p.eraseMeta key, d)
  | .prepare _ _ => (p, d)
  | .sendObject tag? object => (p, (p.sendObject d tag? object).2)
  | .send m => (p, (p.send d m).2)

/-- A publisher after an order. Nothing but its fixed metadata can have changed. -/
def heed (p : TypedPublisher) : Order → TypedPublisher
  | .putMeta key value => p.putMeta key value
  | .eraseMeta key => p.eraseMeta key
  | .prepare _ _ | .sendObject _ _ | .send _ => p

/-- What an order writes under a key: a value, or that there is none any more. -/
def Order.written? (key : String) : Order → Option (Option String)
  | .putMeta other value => if key = other then some (some value) else none
  | .eraseMeta other => if key = other then some none else none
  | .prepare _ _ | .sendObject _ _ | .send _ => none

/-- What the last of the orders that write under a key has left there, or else what was there before. -/
def lastUnder (key : String) (orders : List Order) (before : Option String) : Option String :=
  (orders.reverse.findSome? (Order.written? key)).getD before

theorem fst_obey (p : TypedPublisher) (d : Domain G) (order : Order) :
    (p.obey d order).1 = p.heed order := by
  cases order <;> rfl

theorem raw_heed (p : TypedPublisher) (order : Order) : (p.heed order).raw = p.raw := by
  cases order <;> rfl

theorem get?_heed (p : TypedPublisher) (order : Order) (key : String) :
    (p.heed order).fixed.get? key = (order.written? key).getD (p.fixed.get? key) := by
  cases order with
  | putMeta other value =>
    rw [heed, get?_putMeta, Order.written?]
    split <;> rfl
  | eraseMeta other =>
    rw [heed, get?_eraseMeta, Order.written?]
    split <;> rfl
  | prepare | sendObject | send => rfl

theorem lastUnder_cons (key : String) (order : Order) (orders : List Order) (before : Option String) :
    lastUnder key (order :: orders) before =
      lastUnder key orders ((order.written? key).getD before) := by
  simp only [lastUnder, List.reverse_cons, List.findSome?_append, List.findSome?_singleton]
  cases orders.reverse.findSome? (Order.written? key) <;> rfl

theorem raw_foldl_heed (p : TypedPublisher) (orders : List Order) : (orders.foldl heed p).raw = p.raw := by
  induction orders generalizing p with
  | nil => rfl
  | cons order orders ih => exact (ih (p.heed order)).trans (p.raw_heed order)

/-- After any orders a publisher has fixed under each key what was written there last. -/
theorem get?_foldl_heed (p : TypedPublisher) (orders : List Order) (key : String) :
    (orders.foldl heed p).fixed.get? key = lastUnder key orders (p.fixed.get? key) := by
  induction orders generalizing p with
  | nil => rfl
  | cons order orders ih => rw [List.foldl_cons, ih, get?_heed, lastUnder_cons]

end TypedBus.TypedPublisher
