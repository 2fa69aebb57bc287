import TypedBus.Proofs.Frame.Limits
import TypedBus.Proofs.Transport.History

namespace TypedBus.Domain

variable {G : Type} {d : Domain G} {m : Message}

/-- The same domain, with frames in use or without. -/
def framed (d : Domain G) (wire : Bool) : Domain G :=
  { d with config := { d.config with wireEncoding := wire } }

theorem advertise_framed (d : Domain G) (wire : Bool) (channel : String) :
    (d.framed wire).advertise channel =
      ((d.advertise channel).1, (d.advertise channel).2.framed wire) := by
  simp only [Domain.advertise, write, framed]
  cases d.endpoints.write <;> rfl

theorem withdraw_framed (d : Domain G) (wire : Bool) (id : PeerId) :
    (d.framed wire).withdraw id = (d.withdraw id).framed wire := by
  simp only [Domain.withdraw, write, framed]
  cases d.endpoints.write with
  | error e => rfl
  | ok e => cases hf : e.publisher? id <;> simp [Except.mapError, hf, store]

theorem setGreeter_framed (d : Domain G) (wire : Bool) (id : PeerId) (greeter : Option G) :
    (d.framed wire).setGreeter id greeter = (d.setGreeter id greeter).framed wire := by
  simp only [Domain.setGreeter, write, framed]
  cases d.endpoints.write <;> rfl

theorem subscribe_framed (d : Domain G) (wire : Bool) (channel : String) (running : Bool) :
    (d.framed wire).subscribe channel running =
      ((d.subscribe channel running).1, (d.subscribe channel running).2.framed wire) := by
  cases running with
  | false => rfl
  | true =>
    simp only [Domain.subscribe, write, framed]
    cases d.endpoints.write <;> rfl

theorem unsubscribe_framed (d : Domain G) (wire : Bool) (id : PeerId) :
    (d.framed wire).unsubscribe id = ((d.unsubscribe id).1, (d.unsubscribe id).2.framed wire) := by
  have hactive : (d.framed wire).isActive id = d.isActive id := rfl
  simp only [Domain.unsubscribe, hactive]
  cases d.isActive id with
  | false => rfl
  | true =>
    simp only [write, framed]
    cases d.endpoints.write with
    | error e => rfl
    | ok e => cases hf : e.subscription? id <;> simp [Except.mapError, hf, store]

theorem pass_framed (d : Domain G) (wire : Bool) (ticket : Nat) (route : PeerId) :
    (d.framed wire).pass ticket route =
      (d.pass ticket route).map fun (passage, d) => (passage, d.framed wire) := by
  have hpublication : (d.framed wire).publication? ticket = d.publication? ticket := rfl
  have hinbox : (d.framed wire).inbox? route = d.inbox? route := rfl
  have hcapacity : (d.framed wire).capacity = d.capacity := rfl
  simp only [Domain.pass, hpublication, hinbox, hcapacity]
  cases d.publication? ticket with
  | none => rfl
  | some p =>
    by_cases hr : route ∈ p.routes
    · cases d.inbox? route with
      | none => simp [hr, framed]
      | some inbox =>
        by_cases hroom : inbox.queue.length < d.capacity <;> simp [hr, hroom, framed, setQueue]
    · simp [hr]

theorem deliver_framed (d : Domain G) (wire : Bool) (id : PeerId) :
    (d.framed wire).deliver id = (d.deliver id).map fun (letter, d) => (letter, d.framed wire) := by
  have hqueue : (d.framed wire).queue id = d.queue id := rfl
  simp only [Domain.deliver, hqueue]
  cases d.queue id <;> rfl

/-- What a domain does not refuse for its size can be written as a frame. -/
def Writable (config : TransportConfig) (m : Message) : Prop :=
  m.size ≤ config.maxPayloadSize.toNat → ∃ size, Frame.bodySize m = .ok size

theorem accept_framed {config : TransportConfig} (h : Writable config m) (wire : Bool) :
    accept { config with wireEncoding := wire } m = accept config m := by
  by_cases hsize : m.size ≤ config.maxPayloadSize.toNat
  · have hother : accept { config with wireEncoding := wire } m = .ok m :=
      accept_of_fits hsize fun _ => h hsize
    rw [hother, accept_of_fits hsize fun _ => h hsize]
  · have hover : m.size > config.maxPayloadSize.toNat := Nat.not_le.mp hsize
    simp only [accept, if_pos hover]

theorem publish_framed (h : Writable d.config m) (wire : Bool) (publisher : PeerId) :
    (d.framed wire).publish publisher m =
      ((d.publish publisher m).1, (d.publish publisher m).2.framed wire) := by
  have hchannel : (d.framed wire).channelOf? publisher = d.channelOf? publisher := rfl
  have hread : (d.framed wire).read = d.read := rfl
  have haccept : accept (d.framed wire).config m = accept d.config m := accept_framed h wire
  simp only [Domain.publish, hchannel, hread, haccept]
  cases d.channelOf? publisher with
  | none => rfl
  | some channel =>
    cases accept d.config m with
    | error e => rfl
    | ok m => cases d.read <;> rfl

theorem perform_framed {a : Action G}
    (h : ∀ publisher m, a = .publish publisher m → Writable d.config m) (wire : Bool) :
    (d.framed wire).perform a = ((d.perform a).1, (d.perform a).2.framed wire) := by
  cases a with
  | advertise channel =>
    simp only [perform, advertise_framed]
    cases d.advertise channel with
    | mk result d' => cases result <;> rfl
  | withdraw id => simp only [perform, withdraw_framed]
  | setGreeter id greeter => simp only [perform, setGreeter_framed]
  | subscribe channel running =>
    simp only [perform, subscribe_framed]
    cases d.subscribe channel running with
    | mk result d' => cases result <;> rfl
  | unsubscribe id => simp only [perform, unsubscribe_framed]
  | publish publisher m =>
    simp only [perform, publish_framed (h publisher m rfl)]
    cases d.publish publisher m with
    | mk result d' => cases result <;> rfl
  | pass ticket route =>
    have hpublication : (d.framed wire).publication? ticket = d.publication? ticket := rfl
    simp only [perform, pass_framed, hpublication]
    cases d.publication? ticket <;> cases d.pass ticket route <;> rfl
  | deliver id =>
    simp only [perform, deliver_framed]
    cases d.deliver id <;> rfl
  | failInside => rfl

/-- A run does not show whether frames are in use, as long as its messages fit into them. -/
theorem run_framed {actions : List (Action G)}
    (h : ∀ publisher m, .publish publisher m ∈ actions → Writable d.config m) (wire : Bool) :
    (d.framed wire).run actions = ((d.run actions).1, (d.run actions).2.framed wire) := by
  induction actions generalizing d with
  | nil => rfl
  | cons a actions ih =>
    have hconfig : (d.perform a).2.config = d.config := config_step (step_perform d a)
    have hfirst : (d.framed wire).perform a = _ :=
      perform_framed (fun publisher m ha => h publisher m (ha ▸ List.mem_cons_self)) wire
    have hrest := ih (d := (d.perform a).2) fun publisher m hm =>
      hconfig ▸ h publisher m (List.mem_cons_of_mem a hm)
    simp only [run, hfirst, hrest]

/-- A message that does not fit into a frame is refused with the reason, and nothing else happens. -/
theorem publish_unwritable {publisher : PeerId} {channel : String} {e : FrameError}
    (hwire : d.config.wireEncoding = true) (hchannel : d.channelOf? publisher = some channel)
    (hsize : m.size ≤ d.config.maxPayloadSize.toNat) (hbody : Frame.bodySize m = .error e) :
    d.perform (.publish publisher m) = (.refused (.encoding e.message), d) := by
  have haccept : accept d.config m = .error (.encoding e.message) := by
    simp only [accept, if_neg (Nat.not_lt.mpr hsize), hwire, if_true, reframe,
      Frame.encode_eq_error hbody]
  simp only [perform, Domain.publish, hchannel, haccept]

/-- A message from a publisher to the one subscription that hears it. -/
def sampleRun : List (Action String) :=
  [.advertise "news/local", .setGreeter .first (some "desk"), .subscribe "news" true,
    .publish .first ((Message.withData [0, 255]).putMeta "größe" ""), .pass 0 ⟨2⟩, .deliver ⟨2⟩,
    .unsubscribe ⟨2⟩]

def sampleDomain : Domain String := ((start { wireEncoding := true }).advertise "news").2

/-- Two domains that differ only in whether frames are in use give the same results, letters, greetings
and metrics in every run whose messages fit into frames. A message within the payload limit that does
not fit is refused for the reason that the frame gives, and changes nothing. What has been written as
a frame is always read from it: it is neither refused nor found incomplete. -/
theorem frames_are_transparent (c : TransportConfig) :
    (∀ actions : List (Action G),
      (∀ publisher m, .publish publisher m ∈ actions → Writable c m) →
      ((start { c with wireEncoding := true }).run actions).1 =
          ((start { c with wireEncoding := false }).run actions).1 ∧
        ((start { c with wireEncoding := true }).run actions).2 =
          ((start { c with wireEncoding := false }).run actions).2.framed true) ∧
    (∀ (d : Domain G) publisher channel m e, d.config.wireEncoding = true →
      d.channelOf? publisher = some channel → m.size ≤ d.config.maxPayloadSize.toNat →
      Frame.bodySize m = .error e →
      d.perform (.publish publisher m) = (.refused (.encoding e.message), d)) ∧
    (∀ m frame, Frame.encode m = .ok frame → Frame.decode frame = (.ok (some m), [])) := by
  refine ⟨fun actions h => ?_, fun d publisher channel m e => publish_unwritable,
    fun m frame => Frame.decode_encode⟩
  have hstart : (start { c with wireEncoding := false } : Domain G).framed true =
      start { c with wireEncoding := true } := rfl
  have hrun := run_framed (d := start { c with wireEncoding := false }) h true
  rw [hstart] at hrun
  constructor <;> rw [hrun]

theorem frames_are_transparent_sample :
    (∀ publisher m, .publish publisher m ∈ sampleRun → Writable {} m) ∧
      ((start { wireEncoding := true }).run sampleRun).1 =
        ((start { wireEncoding := false }).run sampleRun).1 ∧
      sampleDomain.channelOf? .first = some "news" ∧
      Frame.bodySize (Frame.longValued Frame.metadataLimit) = .error (.frameTooLarge 1048582) ∧
      sampleDomain.perform (.publish .first (Frame.longValued Frame.metadataLimit)) =
        (.refused (.encoding (FrameError.frameTooLarge 1048582).message), sampleDomain) := by
  have hwritable : ∀ publisher m, .publish publisher m ∈ sampleRun → Writable {} m := by
    intro publisher m hm _
    simp only [sampleRun, List.mem_cons, List.not_mem_nil, Action.publish.injEq, reduceCtorEq,
      or_false, false_or] at hm
    obtain ⟨rfl, rfl⟩ := hm
    exact ⟨_, rfl⟩
  have hchannel : sampleDomain.channelOf? .first = some "news" := by decide
  have hbody : Frame.bodySize (Frame.longValued Frame.metadataLimit) =
      .error (.frameTooLarge 1048582) := Frame.bodySize_longValued
  have hsize : (Frame.longValued Frame.metadataLimit).size ≤
      sampleDomain.config.maxPayloadSize.toNat := Nat.zero_le _
  have h := frames_are_transparent (G := String) {}
  exact ⟨hwritable, (h.1 sampleRun hwritable).1, hchannel, hbody,
    h.2.1 sampleDomain .first "news" _ _ rfl hchannel hsize hbody⟩

end TypedBus.Domain
