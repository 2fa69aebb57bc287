import TypedBus.Proofs.Registry.Resolve

namespace TypedBus

variable {M : Type}

/-- The counters of a subscriber. -/
inductive Account
  | delivered
  | unknownType
  | missingTag
  | decodeFailed
  | internal
deriving DecidableEq

def SubscriberMetrics.count (s : SubscriberMetrics) : Account → UInt64
  | .delivered => s.delivered
  | .unknownType => s.unknownType
  | .missingTag => s.missingTag
  | .decodeFailed => s.decodeFailed
  | .internal => s.internal

/-- The counter for an error. -/
def TypedError.account : TypedError → Account
  | .unknownType _ => .unknownType
  | .missingTypeTag => .missingTag
  | .decode _ _ => .decodeFailed
  | .registry _ | .encode _ _ | .duplicateRegistration _ | .emptyTypeTag | .transport _ => .internal

theorem SubscriberMetrics.count_recordFailure (s : SubscriberMetrics) (e : TypedError) (a : Account) :
    (s.recordFailure e).count a = s.count a + if a = e.account then 1 else 0 := by
  cases e <;> cases a <;> simp [recordFailure, count, TypedError.account]

theorem SubscriberMetrics.count_recordDelivered (s : SubscriberMetrics) (a : Account) :
    s.recordDelivered.count a = s.count a + if a = .delivered then 1 else 0 := by
  cases a <;> simp [recordDelivered, count]

namespace ReceiverCall

/-- What a message was found to be when it leads to a call. -/
def found : ReceiverCall M → Except TypedError M
  | .object value => .ok value
  | .failure e => .error e

def account : ReceiverCall M → Account
  | .object _ => .delivered
  | .failure e => e.account

theorem found_injective {call other : ReceiverCall M} (h : call.found = other.found) :
    call = other := by
  cases call <;> cases other <;> simp_all [found]

end ReceiverCall

namespace Dispatcher

variable {r : Registry M} {m : Message} {call : ReceiverCall M} {account : Account}

/-- What becomes of a message: the call that it leads to and the counter that it is entered in. A
message without a tag is refused before anyone looks at the types. -/
inductive Verdict (r : Registry M) (m : Message) : ReceiverCall M → Account → Prop
  | untagged (missing : m.typeTag = none ∨ m.typeTag = some "") :
      Verdict r m (.failure .missingTypeTag) .missingTag
  | barred {tag : String} (tagged : m.typeTag = some tag) (named : tag ≠ "")
      (poisoned : r.types.poisoned = true) : Verdict r m (.failure Registry.unreadable) .internal
  | unknown {tag : String} (tagged : m.typeTag = some tag) (named : tag ≠ "")
      (intact : r.types.poisoned = false) (unlisted : r.registered? tag = none)
      (missing : r.found? tag = none) : Verdict r m (.failure (.unknownType tag)) .unknownType
  | undecodable {tag : String} {type : Descriptor M} {cause : CodecError}
      (tagged : m.typeTag = some tag) (named : tag ≠ "") (intact : r.types.poisoned = false)
      (known : r.typeOf? tag = some type) (broken : type.decode m.data = .error cause) :
      Verdict r m (.failure (.decode tag cause)) .decodeFailed
  | delivered {tag : String} {type : Descriptor M} {value : M}
      (tagged : m.typeTag = some tag) (named : tag ≠ "") (intact : r.types.poisoned = false)
      (known : r.typeOf? tag = some type) (fits : type.decode m.data = .ok value) :
      Verdict r m (.object value) .delivered

theorem Verdict.account_eq (h : Verdict r m call account) : account = call.account := by
  cases h <;> rfl

theorem Verdict.found (h : Verdict r m call account) : (dispatch r m).1 = call.found := by
  cases h with
  | untagged missing => rw [dispatch_of_untagged missing]; rfl
  | barred tagged named poisoned =>
    rw [dispatch_of_tagged tagged named, Registry.resolve_eq_unreadable poisoned]
    rfl
  | @unknown tag tagged named intact unlisted missing =>
    have htype : r.typeOf? tag = none := by simp [Registry.typeOf?, unlisted, missing]
    rw [dispatch_of_tagged tagged named, Registry.resolve_fst intact, htype]
    rfl
  | undecodable tagged named intact known broken =>
    rw [dispatch_of_tagged tagged named, Registry.resolve_fst intact, known]
    simp only [Option.elim_some, objectOf, broken]
    rfl
  | delivered tagged named intact known fits =>
    rw [dispatch_of_tagged tagged named, Registry.resolve_fst intact, known]
    simp only [Option.elim_some, objectOf, fits]
    rfl

theorem Verdict.unique (h : Verdict r m call account) {other : ReceiverCall M} {into : Account}
    (h' : Verdict r m other into) : other = call ∧ into = account := by
  have hcall : other = call := ReceiverCall.found_injective (h'.found.symm.trans h.found)
  refine ⟨hcall, ?_⟩
  rw [h'.account_eq, h.account_eq, hcall]

theorem unlisted_of_typeOf?_eq_none {tag : String} (h : r.typeOf? tag = none) :
    r.registered? tag = none ∧ r.found? tag = none := by
  simpa [Registry.typeOf?] using h

theorem exists_verdict (r : Registry M) (m : Message) : ∃ call account, Verdict r m call account := by
  rcases tagged_or_untagged m with missing | ⟨tag, tagged, named⟩
  · exact ⟨_, _, .untagged missing⟩
  · cases hp : r.types.poisoned with
    | true => exact ⟨_, _, .barred tagged named hp⟩
    | false =>
      cases ht : r.typeOf? tag with
      | none =>
        obtain ⟨unlisted, missing⟩ := unlisted_of_typeOf?_eq_none ht
        exact ⟨_, _, .unknown tagged named hp unlisted missing⟩
      | some type =>
        cases hd : type.decode m.data with
        | error cause => exact ⟨_, _, .undecodable tagged named hp ht hd⟩
        | ok value => exact ⟨_, _, .delivered tagged named hp ht hd⟩

/-- What a registry keeps of a message: nothing, or one type from the catalog, under a name that was
free. -/
inductive Keeps (r : Registry M) (m : Message) : Registry M → Prop
  | nothing : Keeps r m r
  | type {tag : String} {type : Descriptor M} (tagged : m.typeTag = some tag) (named : tag ≠ "")
      (intact : r.types.poisoned = false) (unlisted : r.registered? tag = none)
      (hit : r.found? tag = some type) (free : r.registered? type.name = none) :
      Keeps r m (r.store (r.types.value.insert type.name type))

theorem keeps_dispatch (r : Registry M) (m : Message) : Keeps r m (dispatch r m).2 := by
  rcases tagged_or_untagged m with missing | ⟨tag, tagged, named⟩
  · rw [dispatch_of_untagged missing]
    exact .nothing
  · rw [dispatch_of_tagged tagged named]
    cases hp : r.types.poisoned with
    | true =>
      rw [Registry.resolve_eq_unreadable hp]
      exact .nothing
    | false =>
      have hr := Registry.resolved hp tag
      generalize r.resolve tag = answer at hr ⊢
      cases hr with
      | registered | unknown | renamed => exact .nothing
      | taken unlisted hit free => exact .type tagged named hp unlisted hit free

/-- A call to a receiver with the message that comes with it. -/
structure Callback (M : Type) where
  call : ReceiverCall M
  message : Message

/-- Dispatching for a receiver that does not fail, with the calls to it: an object is handed over, an
error is only answered. -/
def dispatchCalling (d : Dispatcher M) (m : Message) :
    List (Callback M) × Except TypedError Unit × Dispatcher M :=
  match dispatch d.registry m with
  | (.error e, registry) => ([], .error e, { d with registry })
  | (.ok value, registry) => ([⟨.object value, m⟩], .ok (), { d with registry })

/-- Receiving for a receiver that does not fail, with the calls to it: what dispatching answers is
counted, and an error reported. -/
def receiveCalling (d : Dispatcher M) (m : Message) : List (Callback M) × Dispatcher M :=
  match d.dispatchCalling m with
  | (calls, .ok (), d) => (calls, { d with metrics := d.metrics.recordDelivered })
  | (calls, .error e, d) =>
    (calls ++ [⟨.failure e, m⟩], { d with metrics := d.metrics.recordFailure e })

variable {receiver : Receiver M}

/-- The calls that are made are the one that receiving comes to. -/
theorem receiveCalling_eq (h : ∀ call, receiver.fails m call = false) (d : Dispatcher M) :
    d.receiveCalling m = ([⟨(d.receive receiver m).1, m⟩], (d.receive receiver m).2) := by
  unfold receiveCalling dispatchCalling receive
  generalize dispatch d.registry m = answer
  obtain ⟨result, registry⟩ := answer
  cases result with
  | error e => rfl
  | ok value =>
    have htaken : receiver.failsOnObject value m = false := h (.object value)
    simp [htaken]

/-- What dispatching finds is what the receiver is called with, and is entered in its counter. -/
theorem receive_of_found (h : ∀ call, receiver.fails m call = false) {d : Dispatcher M}
    (hcall : (dispatch d.registry m).1 = call.found) :
    (d.receive receiver m).1 = call ∧
      (d.receive receiver m).2.registry = (dispatch d.registry m).2 ∧
      ∀ a, (d.receive receiver m).2.metrics.count a =
        d.metrics.count a + if a = call.account then 1 else 0 := by
  cases call with
  | failure e =>
    rw [receive_of_error hcall]
    exact ⟨rfl, rfl, d.metrics.count_recordFailure e⟩
  | object value =>
    have htaken : receiver.failsOnObject value m = false := h (.object value)
    rw [receive_of_ok hcall, htaken]
    exact ⟨rfl, rfl, d.metrics.count_recordDelivered⟩

/-- Every message has one verdict, whatever the state of the registry. With a receiver that does not
fail the verdict's call, which comes with the message, is the only one that is made, and the verdict's
counter the only one that rises, by one. Dispatching alone comes to the same object or error and to
the same registry, which keeps one type from the catalog at most, and counts nothing. -/
theorem every_message_has_one_verdict (d : Dispatcher M) (receiver : Receiver M) (m : Message)
    (h : ∀ call, receiver.fails m call = false) :
    ∃ call account, Verdict d.registry m call account ∧
      (∀ other into, Verdict d.registry m other into → other = call ∧ into = account) ∧
      (d.receive receiver m).1 = call ∧
      d.receiveCalling m = ([⟨call, m⟩], (d.receive receiver m).2) ∧
      (∀ a, (d.receive receiver m).2.metrics.count a =
        d.metrics.count a + if a = account then 1 else 0) ∧
      dispatch d.registry m = (call.found, (d.receive receiver m).2.registry) ∧
      d.dispatchCalling m =
        (if account = .delivered then [⟨call, m⟩] else [], call.found.map fun _ => (),
          { d with registry := (d.receive receiver m).2.registry }) ∧
      Keeps d.registry m (d.receive receiver m).2.registry := by
  obtain ⟨call, account, hverdict⟩ := exists_verdict d.registry m
  obtain ⟨hcall, hkept, hcount⟩ := receive_of_found h hverdict.found
  have hdispatch : dispatch d.registry m = (call.found, (d.receive receiver m).2.registry) := by
    rw [hkept, ← hverdict.found]
  refine ⟨call, account, hverdict, fun _ _ => hverdict.unique, hcall, ?_, ?_, hdispatch, ?_, ?_⟩
  · rw [receiveCalling_eq h, hcall]
  · rw [hverdict.account_eq]
    exact hcount
  · rw [dispatchCalling, hdispatch, hverdict.account_eq]
    cases call with
    | object value => rfl
    | failure e => cases e <;> rfl
  · rw [hkept]
    exact keeps_dispatch d.registry m

/-- A registry that takes `Ping` from its catalog. -/
def stocked : Registry Inbound where
  autoRegister := true
  catalog := some (.ofList [.constant "Ping" .bincode 7])

/-- A message whose tag has `Ping` for its last part. -/
def qualifiedPing : Message := (Message.withData [1]).setTypeTag "a.Ping"

/-- A message without a tag at a poisoned registry, and one whose type is taken from the catalog. -/
theorem every_message_has_one_verdict_sample :
    (∀ call, ({} : Receiver Inbound).fails {} call = false) ∧
      (receiveCalling (M := Inbound) { registry := { types := ⟨∅, true⟩ } } {}).1 =
        [⟨.failure .missingTypeTag, {}⟩] ∧
      (receive (M := Inbound) { registry := { types := ⟨∅, true⟩ } } {} {}).2.metrics.count
        .missingTag = 1 ∧
      (receiveCalling { registry := stocked } qualifiedPing).1 =
        [⟨.object (.constant 7), qualifiedPing⟩] ∧
      (receive { registry := stocked } {} qualifiedPing).2.metrics.count .delivered = 1 ∧
      (receive { registry := stocked } {} qualifiedPing).2.registry.types.value.keys = ["Ping"] := by
  have hsound : ∀ m call, ({} : Receiver Inbound).fails m call = false := by
    intro m call
    cases call <;> rfl
  obtain ⟨call, account, -, hunique, -, hcalls, hcount, -⟩ := every_message_has_one_verdict
    { registry := { types := ⟨∅, true⟩ } } {} {} (hsound {})
  obtain ⟨rfl, rfl⟩ := hunique _ _ (.untagged (.inl rfl))
  obtain ⟨call, account, -, hunique, -, hcalls', hcount', -⟩ := every_message_has_one_verdict
    { registry := stocked } {} qualifiedPing (hsound qualifiedPing)
  have hknown : stocked.typeOf? "a.Ping" = some (.constant "Ping" .bincode 7) := rfl
  obtain ⟨rfl, rfl⟩ := hunique _ _ (.delivered rfl (by decide) rfl hknown rfl)
  exact ⟨hsound {}, congrArg Prod.fst hcalls, hcount .missingTag, congrArg Prod.fst hcalls',
    hcount' .delivered, rfl⟩

end Dispatcher

end TypedBus
