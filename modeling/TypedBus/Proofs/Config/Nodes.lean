import TypedBus.Node
import TypedBus.Proofs.Config.Fields
import TypedBus.Proofs.Text.Words
import TypedBus.Proofs.Typed.Course

namespace TypedBus

namespace Config

variable {c : Config}

/-- The name of the domain is not blank, its queues hold something, and a payload is neither limited to
nothing nor over the hard limit. -/
structure Valid (c : Config) : Prop where
  domain : ∃ char ∈ c.transport.domain.toList, Text.isBlank char = false
  capacity : 1 ≤ c.transport.queueCapacity.toNat
  payload : 1 ≤ c.transport.maxPayloadSize.toNat
  limit : c.transport.maxPayloadSize.toNat ≤ payloadLimit

theorem one_le_toNat_iff {n : UInt64} : 1 ≤ n.toNat ↔ n ≠ 0 := by
  rw [Nat.one_le_iff_ne_zero, ne_eq, ne_eq, ← UInt64.toNat_inj]
  rfl

theorem validate_eq_ok_iff : c.validate = .ok () ↔ c.Valid := by
  rw [validate, TransportConfig.validate_eq_ok_iff, ne_eq, Text.trimBlanks_eq_empty_iff,
    ← one_le_toNat_iff, ← one_le_toNat_iff]
  constructor
  · rintro ⟨hdomain, hcapacity, hpayload, hlimit⟩
    exact ⟨by simpa using hdomain, hcapacity, hpayload, hlimit⟩
  · intro h
    exact ⟨by simpa using h.domain, h.capacity, h.payload, h.limit⟩

theorem valid_default : ({} : Config).Valid := validate_eq_ok_iff.mp (by decide)

end Config

namespace Node

variable {G M : Type} {node : Node G} {c : Config}

open Config (Field)

/-- What a setting writes into a field: a whole configuration writes into each. -/
def Setting.written? : Setting → (f : Field) → Option f.Value
  | .config whole, f => some (f.get whole)
  | .domain name, .domain => some name
  | .queueCapacity capacity, .queueCapacity => some capacity
  | .maxPayloadSize size, .maxPayloadSize => some size
  | .wireEncoding enabled, .wireEncoding => some enabled
  | .duplicatePolicy policy, .duplicatePolicy => some policy
  | .autoRegister enabled, .autoRegister => some enabled
  | _, _ => none

/-- The last that was written into a field. -/
def lastWrite? (settings : List Setting) (f : Field) : Option f.Value :=
  settings.reverse.findSome? (·.written? f)

/-- The configuration that has in each field what was written there last, or else the default. -/
def lastWritten (settings : List Setting) : Config :=
  .ofFields fun f => (lastWrite? settings f).getD (f.get {})

theorem Setting.get_apply (s : Setting) (f : Field) (c : Config) :
    f.get (s.apply c) = (s.written? f).getD (f.get c) := by
  cases s <;> cases f <;> rfl

theorem get_foldl_apply (settings : List Setting) (f : Field) (c : Config) :
    f.get (settings.foldl Setting.apply c) = (lastWrite? settings f).getD (f.get c) := by
  induction settings using List.reverseRecOn with
  | nil => rfl
  | append_singleton settings s ih =>
    rw [List.foldl_append, List.foldl_cons, List.foldl_nil, s.get_apply, ih, lastWrite?, lastWrite?,
      List.reverse_append, List.reverse_singleton, List.singleton_append, List.findSome?_cons]
    cases s.written? f <;> rfl

theorem foldl_apply (settings : List Setting) :
    settings.foldl Setting.apply {} = lastWritten settings :=
  Field.ext_get fun f => by rw [get_foldl_apply, lastWritten, Field.get_ofFields]

theorem withConfig_eq_ok_iff : withConfig c = .ok node ↔ c.Valid ∧ node = ofValid c := by
  rw [← Config.validate_eq_ok_iff, withConfig]
  cases c.validate with
  | error e => simp
  | ok => simp [eq_comm]

theorem withConfig_eq_error_iff {e : NodeError} :
    (withConfig c : Except NodeError (Node G)) = .error e ↔
      ∃ cause, c.validate = .error cause ∧ e = .config cause := by
  rw [withConfig]
  cases c.validate with
  | error cause => simp [eq_comm]
  | ok => simp

theorem build_eq (settings : List Setting) :
    (build settings : Except NodeError (Node G)) = withConfig (lastWritten settings) := by
  rw [build, foldl_apply]

/-- A node that somebody has. -/
inductive Made : Node G → Prop
  | new : Made new
  | withConfig {c : Config} {node : Node G} (h : withConfig c = .ok node) : Made node
  | ofFile {file : Config.FileContent} {env : Environment} {node : Node G}
      (h : ofFile file env = .ok node) : Made node
  | build {settings : List Setting} {node : Node G} (h : build settings = .ok node) : Made node

theorem Made.checked (h : node.Made) : node.config.Valid ∧ node = ofValid node.config := by
  have hchecked : ∀ {c : Config} {node : Node G}, Node.withConfig c = .ok node →
      node.config.Valid ∧ node = ofValid node.config := by
    intro c node h
    obtain ⟨hvalid, rfl⟩ := withConfig_eq_ok_iff.mp h
    exact ⟨hvalid, rfl⟩
  cases h with
  | new => exact ⟨Config.valid_default, rfl⟩
  | withConfig h => exact hchecked h
  | @ofFile file env _ h =>
    rw [Node.ofFile] at h
    cases hread : Config.ofFileWithEnv file env with
    | error e =>
      rw [hread] at h
      cases h
    | ok c =>
      rw [hread] at h
      exact hchecked h
  | build h =>
    rw [build_eq] at h
    exact hchecked h

theorem registry_config (node : Node G) (catalog : Option (Catalog M)) :
    (node.registry catalog).policy = node.config.registry.duplicatePolicy ∧
      (node.registry catalog).autoRegister = node.config.registry.autoRegister := by
  cases catalog <;> exact ⟨rfl, rfl⟩

end Node

namespace Domain

variable {G : Type} {d d' : Domain G} {a : Action G} {o : Outcome G}

theorem size_le_of_accept {c : TransportConfig} {m m' : Message} (h : accept c m = .ok m') :
    m.size ≤ c.maxPayloadSize.toNat := by
  rw [accept] at h
  split at h
  · cases h
  · omega

/-- Nothing in a domain is longer than its limit. -/
structure Limited (c : TransportConfig) (d : Domain G) : Prop where
  config : d.config = c
  carried : d.Carries fun letter => letter.message.size ≤ c.maxPayloadSize.toNat

namespace Limited

variable {c : TransportConfig}

theorem start (c : TransportConfig) : Limited c (Domain.start c : Domain G) := ⟨rfl, .start c⟩

theorem step (h : Limited c d) (hs : Step d a o d') : Limited c d' where
  config := (config_step hs).trans h.config
  carried := by
    refine h.carried.step hs ?_
    intro letter hl
    cases hs with
    | publish _ _ accepted =>
      obtain rfl := List.mem_singleton.mp hl
      exact h.config ▸ size_le_of_accept accepted
    | idle idle => cases idle <;> cases hl
    | @shutOut a => cases a <;> cases hl
    | advertise | withdraw | setGreeter | subscribe | cut | unsubscribe | queue | drop | deliver |
      failInside => cases hl

theorem run (h : Limited c d) (actions : List (Action G)) : Limited c (d.run actions).2 := by
  induction actions generalizing d with
  | nil => exact h
  | cons a actions ih => exact ih (h.step (step_perform d a))

end Limited

end Domain

namespace Node

variable {G M : Type} {node : Node G}

/-- Whoever subscribes with a typed subscriber does so through the node. -/
def Serves (node : Node G) (deed : Deed G M) : Prop :=
  ∀ channel registry running, deed = .subscribe channel registry running →
    ∃ catalog, registry = node.registry catalog

theorem policy_run {b : Bus G M} {deeds : List (Deed G M)}
    (hserves : ∀ deed ∈ deeds, node.Serves deed)
    (h : ∀ (i : Nat) (s : TypedSubscriber M), b.subscribers[i]? = some s →
      s.dispatcher.registry.policy = node.config.registry.duplicatePolicy) :
    ∀ (i : Nat) (s : TypedSubscriber M), (b.run deeds).subscribers[i]? = some s →
      s.dispatcher.registry.policy = node.config.registry.duplicatePolicy := by
  induction deeds generalizing b with
  | nil => exact h
  | cons deed deeds ih =>
    refine ih (fun deed' hd => hserves deed' (List.mem_cons_of_mem deed hd)) ?_
    intro i t ht
    obtain ⟨s, hs, rfl⟩ | ⟨-, channel, registry, running, greetings, hdeed, hjoin⟩ :=
      Bus.subscriber_cases ht
    · rw [Bus.registry_next, Registry.policy_run]
      exact h i s hs
    · obtain ⟨catalog, rfl⟩ := hserves deed List.mem_cons_self _ _ _ hdeed
      obtain ⟨id, -, rfl⟩ := TypedSubscriber.eq_of_join hjoin
      exact (node.registry_config catalog).1

/-- Of settings in any order, the last one of each field counts: with them a node is built exactly if the
configuration that they come to is valid, and on that one. However a node comes about, its configuration is
valid, its domain goes by it, and so do the registries of its subscribers, which keep their policy; and
whatever happens then, on the node or on its clones, neither a queue nor a publication under way ever holds
a message that is longer than the configuration allows. -/
theorem nodes_run_on_valid_configurations (G M : Type) :
    (∀ settings : List Setting,
      ((∃ node : Node G, build settings = .ok node) ↔ (lastWritten settings).validate = .ok ()) ∧
      (∀ node : Node G, build settings = .ok node → node.config = lastWritten settings) ∧
      ∀ e, (build settings : Except NodeError (Node G)) = .error e ↔
        ∃ cause, (lastWritten settings).validate = .error cause ∧ e = .config cause) ∧
    ∀ node : Node G, node.Made →
      node.config.Valid ∧ node.domain = Domain.start node.config.transport ∧
      (∀ (d d' : Domain G) (channel : String) (catalog : Option (Catalog M)) (running : Bool)
        (s : TypedSubscriber M) (greetings : List (Greeting G)),
        TypedSubscriber.join d channel (node.registry catalog) running = (.ok (s, greetings), d') →
        s.dispatcher.registry.policy = node.config.registry.duplicatePolicy ∧
          s.dispatcher.registry.autoRegister = node.config.registry.autoRegister) ∧
      (∀ deeds : List (Deed G M), (∀ deed ∈ deeds, node.Serves deed) →
        ∀ s ∈ (Bus.run { domain := node.domain } deeds).subscribers,
          s.dispatcher.registry.policy = node.config.registry.duplicatePolicy) ∧
      ∀ deeds : List (Deed G M), let d := (Bus.run { domain := node.domain } deeds).domain
        d.config = node.config.transport ∧
          d.Carries fun letter =>
            letter.message.size ≤ node.config.transport.maxPayloadSize.toNat := by
  refine ⟨?_, ?_⟩
  · intro settings
    simp only [build_eq, withConfig_eq_ok_iff, withConfig_eq_error_iff, Config.validate_eq_ok_iff,
      exists_and_left, exists_eq, and_true, implies_true, true_and]
    rintro node ⟨-, rfl⟩
    rfl
  · intro node hmade
    obtain ⟨hvalid, hnode⟩ := hmade.checked
    have hdomain : node.domain = Domain.start node.config.transport := congrArg Node.domain hnode
    refine ⟨hvalid, hdomain, ?_, ?_, ?_⟩
    · intro d d' channel catalog running s greetings hjoin
      obtain ⟨id, -, rfl⟩ := TypedSubscriber.eq_of_join hjoin
      exact node.registry_config catalog
    · intro deeds hserves s hs
      obtain ⟨i, hi⟩ := List.getElem?_of_mem hs
      exact policy_run hserves (by simp) i s hi
    · intro deeds
      have hstart : Domain.Limited node.config.transport node.domain := hdomain ▸ .start _
      have hlimited : Domain.Limited node.config.transport
          (Bus.run { domain := node.domain } deeds).domain := by
        rw [Bus.domain_run]
        exact hstart.run _
      exact ⟨hlimited.config, hlimited.carried⟩

def sampleSettings : List Setting :=
  [.queueCapacity 0, .maxPayloadSize 2, .config { transport := { domain := "lab" } },
    .duplicatePolicy .overwrite, .maxPayloadSize 4, .duplicatePolicy .reject]

def sampleTraffic : List (Deed Unit Inbound) :=
  [.advertise "x", .subscribe "x" (.ofConfig { duplicatePolicy := .reject }) true,
    .order 0 (.sendObject none ⟨.ping, 7⟩),
    .order 0 (.send ((Message.withData [1, 2, 3, 4, 5]).setTypeTag "Ping")),
    .act {} (.pass 0 ⟨2⟩)]

theorem nodes_run_on_valid_configurations_sample :
    let c : Config :=
      { transport := { domain := "lab", maxPayloadSize := 4 }
        registry := { duplicatePolicy := .reject } }
    let node : Node Unit := ofValid c
    let b : Bus Unit Inbound := Bus.run { domain := node.domain } sampleTraffic
    build sampleSettings = .ok node ∧ lastWritten sampleSettings = c ∧ node.Made ∧ c.Valid ∧
      (∀ deed ∈ sampleTraffic, node.Serves deed) ∧ b.subscribers.length = 1 ∧
      (∀ s ∈ b.subscribers, s.dispatcher.registry.policy = .reject) ∧
      (b.domain.queue ⟨2⟩).map (·.message.size) = [4] ∧
      b.domain.Carries fun letter => letter.message.size ≤ 4 := by
  intro c node b
  have hbuild : build sampleSettings = .ok node := by
    rw [build_eq, withConfig_eq_ok_iff, ← Config.validate_eq_ok_iff]
    exact ⟨by decide, rfl⟩
  have hserves : ∀ deed ∈ sampleTraffic, node.Serves deed := by
    simp only [sampleTraffic, List.forall_mem_cons]
    refine ⟨nofun, ?_, nofun, nofun, nofun, nofun⟩
    rintro channel registry running ⟨⟩
    exact ⟨none, rfl⟩
  obtain ⟨hbuilds, hnodes⟩ := nodes_run_on_valid_configurations Unit Inbound
  obtain ⟨hvalid, -, -, hpolicy, hcarries⟩ := hnodes node (.build hbuild)
  exact ⟨hbuild, ((hbuilds sampleSettings).2.1 node hbuild).symm, .build hbuild, hvalid, hserves,
    by decide +kernel, hpolicy sampleTraffic hserves, by decide +kernel, (hcarries sampleTraffic).2⟩

end Node

end TypedBus
