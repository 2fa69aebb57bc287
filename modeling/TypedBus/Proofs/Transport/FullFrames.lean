import TypedBus.Proofs.Frame.Writing
import TypedBus.Proofs.Transport.Transparency

namespace TypedBus.Domain

open TypedBus.Frame

variable {G : Type} {d : Domain G} {m : Message} {publisher : PeerId} {channel : String}

/-- The limits on the metadata by themselves. -/
structure MetadataFits (m : Message) : Prop where
  count : m.metadata.entries.length ≤ wordLimit
  keys : ∀ e ∈ m.metadata.entries, e.1.utf8ByteSize ≤ wordLimit
  taken : metadataSize m.metadata.entries ≤ metadataLimit

/-- Metadata and payload leave less than two bytes between them. -/
inductive Brimful (m : Message) : Prop
  | both (taken : metadataSize m.metadata.entries = metadataLimit) (payload : m.size = payloadLimit)
  | metadata (taken : metadataSize m.metadata.entries + 1 = metadataLimit)
      (payload : m.size = payloadLimit)
  | payload (taken : metadataSize m.metadata.entries = metadataLimit)
      (payload : m.size + 1 = payloadLimit)

/-- The number of entries takes two bytes, for which there is no room of their own. -/
theorem MetadataFits.brimful_iff (h : MetadataFits m) (hsize : m.size ≤ payloadLimit) :
    Brimful m ↔ bodyLimit < countWidth + metadataSize m.metadata.entries + m.size := by
  have htaken := h.taken
  simp only [bodyLimit, countWidth]
  constructor
  · intro hfull
    cases hfull <;> omega
  · intro hover
    by_cases hmetadata : metadataSize m.metadata.entries = metadataLimit
    · by_cases hpayload : m.size = payloadLimit
      · exact .both hmetadata hpayload
      · exact .payload hmetadata (by omega)
    · exact .metadata (by omega) (by omega)

theorem MetadataFits.excess (h : MetadataFits m) (hsize : m.size ≤ payloadLimit)
    (hfull : Brimful m) :
    Excess m (.frameTooLarge (countWidth + metadataSize m.metadata.entries + m.size)) :=
  .whole h.count h.keys h.taken ((h.brimful_iff hsize).mp hfull)

theorem MetadataFits.withinLimits (h : MetadataFits m) (hsize : m.size ≤ payloadLimit)
    (hroom : ¬ Brimful m) : WithinLimits m :=
  ⟨h.count, h.keys, h.taken, Nat.not_lt.mp fun hover => hroom ((h.brimful_iff hsize).mpr hover)⟩

theorem started_of_accept (hopen : d.endpoints.poisoned = false)
    (hchannel : d.channelOf? publisher = some channel) (haccept : accept d.config m = .ok m) :
    (d.perform (.publish publisher m)).1 = .started d.nextTicket := by
  simp only [perform, Domain.publish, hchannel, haccept, read_of_open hopen]

/-- A message within the limits on metadata and payloads can be written unless it is brimful, and is then
refused for the size of the whole. So a publication that a valid configuration allows always starts while
no frames are in use, and also where they are, brimful messages apart. -/
theorem parts_fit_into_frames_up_to_two_bytes (h : MetadataFits m) :
    (m.size ≤ payloadLimit →
      ((∃ size, bodySize m = .ok size) ↔ ¬ Brimful m) ∧
      (Brimful m → bodySize m =
        .error (.frameTooLarge (countWidth + metadataSize m.metadata.entries + m.size)))) ∧
    ∀ (d : Domain G) publisher channel, d.config.validate = .ok () → d.endpoints.poisoned = false →
      d.channelOf? publisher = some channel → m.size ≤ d.config.maxPayloadSize.toNat →
      ((d.framed false).perform (.publish publisher m)).1 = .started d.nextTicket ∧
      (¬ Brimful m → ((d.framed true).perform (.publish publisher m)).1 = .started d.nextTicket) ∧
      (Brimful m → (d.framed true).perform (.publish publisher m) =
        (.refused (.encoding (FrameError.frameTooLarge
          (countWidth + metadataSize m.metadata.entries + m.size)).message), d.framed true)) := by
  constructor
  · intro hsize
    refine ⟨⟨?_, fun hroom => ?_⟩, fun hfull => (h.excess hsize hfull).bodySize_eq⟩
    · rintro ⟨size, hbody⟩ hfull
      exact (h.excess hsize hfull).not_withinLimits (exists_bodySize_iff.mp ⟨size, hbody⟩)
    · exact exists_bodySize_iff.mpr (h.withinLimits hsize hroom)
  · intro d publisher channel hvalid hopen hchannel hallowed
    have hlimit := (TransportConfig.validate_eq_ok_iff.mp hvalid).2.2.2
    have hsize : m.size ≤ payloadLimit := Nat.le_trans hallowed hlimit
    refine ⟨?_, fun hroom => ?_, fun hfull => ?_⟩
    · have haccept : accept (d.framed false).config m = .ok m :=
        accept_of_fits hallowed fun hwire => Bool.noConfusion hwire
      exact started_of_accept (d := d.framed false) hopen hchannel haccept
    · have haccept : accept (d.framed true).config m = .ok m :=
        accept_of_fits hallowed fun _ => exists_bodySize_iff.mpr (h.withinLimits hsize hroom)
      exact started_of_accept (d := d.framed true) hopen hchannel haccept
    · exact publish_unwritable rfl hchannel hallowed (h.excess hsize hfull).bodySize_eq

/-- A message with a value of `value` letters under the empty key, and a payload of `payload` bytes. -/
def filled (value payload : Nat) : Message :=
  { longValued value with data := List.replicate payload 0 }

theorem size_filled (value payload : Nat) : (filled value payload).size = payload := by
  simp only [filled, Message.size, List.length_replicate]

theorem metadataSize_filled (value payload : Nat) :
    metadataSize (filled value payload).metadata.entries = 6 + value :=
  metadataSize_longValued value

theorem metadataFits_filled {value : Nat} (h : 6 + value ≤ metadataLimit) (payload : Nat) :
    MetadataFits (filled value payload) where
  count := by
    have hone : (filled value payload).metadata.entries.length = 1 := rfl
    rw [hone]
    decide
  keys e he := by
    obtain rfl := List.mem_singleton.mp he
    have hempty : "".utf8ByteSize ≤ wordLimit := by decide
    exact hempty
  taken := by rwa [metadataSize_filled]

theorem brimful_filled : Brimful (filled 1048570 payloadLimit) :=
  .both (metadataSize_filled 1048570 payloadLimit) (size_filled 1048570 payloadLimit)

/-- A domain that allows the largest payloads, with one publisher. -/
def spaciousDomain : Domain String := ((start { maxPayloadSize := 268435456 }).advertise "news").2

/-- The largest payload with the largest metadata starts on its way only where no frames are in use. -/
theorem parts_fit_into_frames_up_to_two_bytes_sample :
    MetadataFits (filled 1048570 payloadLimit) ∧
      (filled 1048570 payloadLimit).size ≤ payloadLimit ∧
      (¬ ∃ size, bodySize (filled 1048570 payloadLimit) = .ok size) ∧
      spaciousDomain.config.validate = .ok () ∧ spaciousDomain.endpoints.poisoned = false ∧
      spaciousDomain.channelOf? .first = some "news" ∧
      (filled 1048570 payloadLimit).size ≤ spaciousDomain.config.maxPayloadSize.toNat ∧
      ((spaciousDomain.framed false).perform
        (.publish .first (filled 1048570 payloadLimit))).1 = .started 0 ∧
      ∃ e, ((spaciousDomain.framed true).perform
        (.publish .first (filled 1048570 payloadLimit))).1 = .refused e := by
  have hfits : MetadataFits (filled 1048570 payloadLimit) := metadataFits_filled (by decide) _
  have hsize : (filled 1048570 payloadLimit).size ≤ payloadLimit := Nat.le_of_eq (size_filled _ _)
  have hvalid : spaciousDomain.config.validate = .ok () := by decide
  have hchannel : spaciousDomain.channelOf? .first = some "news" := by decide
  obtain ⟨hwritten, hstarted⟩ := parts_fit_into_frames_up_to_two_bytes (G := String) hfits
  obtain ⟨hplain, -, hrefused⟩ := hstarted spaciousDomain .first "news" hvalid rfl hchannel hsize
  exact ⟨hfits, hsize, fun hbody => (hwritten hsize).1.mp hbody brimful_filled, hvalid, rfl,
    hchannel, hsize, hplain, _, congrArg Prod.fst (hrefused brimful_filled)⟩

/-- All parts of that message keep their limits, and yet there is no frame for it: its body has two bytes
more than a body may have. -/
theorem full_parts_are_two_bytes_too_large :
    MetadataFits (filled 1048570 payloadLimit) ∧
      (filled 1048570 payloadLimit).size ≤ payloadLimit ∧ bodyLimit + 2 = 269484034 ∧
      bodySize (filled 1048570 payloadLimit) = .error (.frameTooLarge 269484034) := by
  have hfits : MetadataFits (filled 1048570 payloadLimit) := metadataFits_filled (by decide) _
  have hsize : (filled 1048570 payloadLimit).size ≤ payloadLimit := Nat.le_of_eq (size_filled _ _)
  have hrefused := (hfits.excess hsize brimful_filled).bodySize_eq
  rw [metadataSize_filled, size_filled] at hrefused
  exact ⟨hfits, hsize, rfl, hrefused⟩

end TypedBus.Domain
