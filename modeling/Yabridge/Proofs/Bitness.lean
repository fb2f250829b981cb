import Yabridge.Serialization.Messages

/-!
# `Yabridge.Proofs.Bitness`: the 64-bit plugin and the 32-bit Wine host

The header is compiled into the native 64-bit plugin and, for the bit bridge, into a 32-bit
Wine host (`-m32`, `__WINE__`), and the two exchange frames. Its comment at lines 60-75 makes
the wire format independent of the build: every `size_t` and `intptr_t` that travels is
widened to a 64-bit type. One constant escapes this: `max_midi_events` divides by
`sizeof(size_t)`, so it is 2048 in the plugin and 4096 in the 32-bit host.

* `event_frames_agree_across_builds`: where two builds both accept a message, they write the
  same bytes, and every frame of the plugin is one the host writes and decodes. The MIDI maximum
  changes only what an encoder and a decoder accept.
* `Event.deserialize_of_maxMidiEvents_lt`: a frame carrying more events than a decoder's
  maximum is refused by that decoder with `invalidData`.
* `event_delivery_across_builds`: for any two builds, a frame of the one reaches the other
  intact exactly when the event is within the receiver's maxima, and is refused otherwise.
* `host32_batch_refused_by_plugin64` and `host32_decodes_batch_over_limit` evaluate this at a
  batch of 2049 events, which the 32-bit host encodes and decodes, and the plugin refuses.
-/

set_option autoImplicit false

namespace Yabridge

open Bitsery Deserializer

variable {L : ArraySizes}

/-- The container's bytes do not depend on its maximum, only whether it is accepted. -/
theorem writeContainer_eq_of_isSome {α : Type} {m m' : Nat} {f : α → Option (List UInt8)}
    {xs : List α} {bs bs' : List UInt8} (h : writeContainer m f xs = some bs)
    (h' : writeContainer m' f xs = some bs') : bs = bs' := by
  unfold writeContainer at h h'
  split_ifs at h h'
  rw [← Option.some_inj, ← h, ← h']

/-- Where two builds both accept a payload, they write the same bytes for it: only the MIDI
batch's overload reads the build, and only for its maximum. -/
theorem EventPayload.serializeAlternative_eq_of_isSome {b b' : Build} {payload : EventPayload L}
    {bs bs' : List UInt8} (h : payload.serializeAlternative b = some bs)
    (h' : payload.serializeAlternative b' = some bs') : bs = bs' := by
  cases payload with
  | dynamicVstEvents events => exact writeContainer_eq_of_isSome h h'
  | _ => exact Option.some_inj.mp (h.symm.trans h')

/-- Where two builds both accept an `Event`, they write the same frame. -/
theorem Event.serialize_eq_of_isSome {b b' : Build} {e : Event L} {bs bs' : List UInt8}
    (h : e.serialize b = some bs) (h' : e.serialize b' = some bs') : bs = bs' := by
  simp only [Event.serialize, EventPayload.serialize, Option.map_eq_map, Option.map_eq_some'] at h h'
  obtain ⟨_, ⟨c, hc, rfl⟩, rfl⟩ := h
  obtain ⟨_, ⟨c', hc', rfl⟩, rfl⟩ := h'
  rw [EventPayload.serializeAlternative_eq_of_isSome hc hc']

/-- The plugin's MIDI maximum is below the host's, so the host admits whatever the plugin
admits. -/
theorem Event.withinLimits_host32 {e : Event L} (h : e.WithinLimits .plugin64) :
    e.WithinLimits .host32 := by
  unfold Event.WithinLimits EventPayload.WithinLimits at *
  split <;> simp_all only [maxMidiEvents_plugin64, maxMidiEvents_host32]
  omega

/-- **The wire format across the bit bridge, where it holds.** Two builds that both accept an
`Event` write the same frame for it. Every frame the 64-bit plugin writes, the 32-bit host writes
too for the same `Event`, and decodes back to it. -/
theorem event_frames_agree_across_builds :
    (∀ (b b' : Build) (e : Event L) bs bs', e.serialize b = some bs → e.serialize b' = some bs' →
      bs = bs') ∧
    (∀ (e : Event L) bs, e.serialize .plugin64 = some bs → e.serialize .host32 = some bs ∧
      ∀ d : Event L, d.deserialize .host32 (.ok bs) = (e.wire, .ok [])) := by
  refine ⟨fun _ _ _ _ _ => Event.serialize_eq_of_isSome, fun e bs h => ?_⟩
  have hhost := (Event.serialize_isSome _ e).mpr
    (Event.withinLimits_host32 ((Event.serialize_isSome _ e).mp (by simp [h])))
  obtain ⟨bs', h'⟩ := Option.isSome_iff_exists.mp hhost
  obtain rfl := Event.serialize_eq_of_isSome h' h
  exact ⟨h', Event.deserialize_frame h'⟩

/-- An `effProcessEvents` call (opcode 25) carrying 2048 MIDI events, the plugin's maximum, in
the vendored layout: the plugin and the 32-bit host write the same frame for it, and the host
decodes the plugin's frame back to the call. -/
theorem full_batch_frames_agree :
    let e : Event ArraySizes.vendored := ⟨25, 0, 0, 0, .dynamicVstEvents ⟨List.replicate 2048 default⟩⟩
    ∃ bs, e.serialize .plugin64 = some bs ∧ e.serialize .host32 = some bs ∧
      ∀ d : Event ArraySizes.vendored, d.deserialize .host32 (.ok bs) = (e, .ok []) := by
  intro e
  have hw : e.WithinLimits .plugin64 :=
    show (List.replicate 2048 (default : VstEvent _)).length ≤ maxMidiEvents .plugin64 from
      Nat.le_of_eq (List.length_replicate _ _)
  obtain ⟨bs, h⟩ := Option.isSome_iff_exists.mp ((Event.serialize_isSome .plugin64 e).mpr hw)
  exact ⟨bs, h, event_frames_agree_across_builds.2 e bs h⟩

/-- A batch of more events than the decoder's maximum is refused with `invalidData`, and no
element is read. -/
theorem DynamicVstEvents.deserialize_of_lt {b b' : Build} {events : DynamicVstEvents L}
    {bs : List UInt8} (h : events.serialize b = some bs)
    (hlt : maxMidiEvents b' < events.events.length) (d : DynamicVstEvents L) (rest : List UInt8) :
    DynamicVstEvents.deserialize b' d (.ok (bs ++ rest)) =
      ({ d with events := [] }, .failed .invalidData) := by
  unfold DynamicVstEvents.serialize writeContainer at h
  split_ifs at h with hle
  simp only [Option.map_eq_map, Option.map_eq_some'] at h
  obtain ⟨es, -, rfl⟩ := h
  have h30 : events.events.length < 2 ^ 30 := Nat.lt_of_le_of_lt hle (maxMidiEvents_lt b)
  have h0 : resize d.events 0 default = [] := by simp [resize]
  simp only [DynamicVstEvents.deserialize, readContainer, bind_apply, List.append_assoc,
    readSize_writeSize_of_lt hlt h30, h0]
  rfl

/-- **A frame one build accepts and another refuses.** An `Event` whose payload is a batch of
more events than `maxMidiEvents b'`, written by any build `b`, is refused by `b'`'s decoder. -/
theorem Event.deserialize_of_maxMidiEvents_lt {b b' : Build} {e : Event L}
    {events : DynamicVstEvents L} (he : e.payload = .dynamicVstEvents events)
    (hlt : maxMidiEvents b' < events.events.length) {bs : List UInt8}
    (h : e.serialize b = some bs) (d : Event L) :
    (d.deserialize b' (.ok bs)).2 = .failed .invalidData := by
  simp only [Event.serialize, EventPayload.serialize, he, EventPayload.serializeAlternative,
    Option.map_eq_map, Option.map_eq_some'] at h
  obtain ⟨c, ⟨body, hbody, rfl⟩, rfl⟩ := h
  have := DynamicVstEvents.deserialize_of_lt hbody hlt default []
  simp only [List.append_nil] at this
  simp [Event.deserialize, EventPayload.deserialize, List.append_assoc, EventPayload.index,
    readIndex_writeSize (show 5 < 13 by decide) (by decide),
    EventPayload.deserializeAlternative, this]

/-- A frame of build `b` for an `Event` outside `b'`'s maxima is refused by `b'` with
`invalidData`. Only the MIDI maximum depends on the build, so the event carries a batch above
`maxMidiEvents b'`. -/
theorem Event.deserialize_of_not_withinLimits {b b' : Build} {e : Event L} {bs : List UInt8}
    (h : e.serialize b = some bs) (hn : ¬ e.WithinLimits b') (d : Event L) :
    (d.deserialize b' (.ok bs)).2 = .failed .invalidData := by
  have hw : e.WithinLimits b := (Event.serialize_isSome b e).mp (by simp [h])
  obtain ⟨opcode, index, value, option, payload⟩ := e
  cases payload with
  | dynamicVstEvents events =>
    exact Event.deserialize_of_maxMidiEvents_lt rfl (Nat.lt_of_not_le hn) h d
  | _ => exact absurd hw hn

/-- **Delivery across builds.** The frame build `b` writes for an `Event` reaches the decoder
of any build `b'`, into any destination, intact when the event is within `b'`'s maxima, and is
refused with `invalidData` otherwise. It is never decoded to another event. -/
theorem event_delivery_across_builds {b b' : Build} {e : Event L} {bs : List UInt8}
    (h : e.serialize b = some bs) (d : Event L) :
    (e.WithinLimits b' → d.deserialize b' (.ok bs) = (e.wire, .ok [])) ∧
    (¬ e.WithinLimits b' → (d.deserialize b' (.ok bs)).2 = .failed .invalidData) := by
  refine ⟨fun hw => ?_, fun hn => Event.deserialize_of_not_withinLimits h hn d⟩
  obtain ⟨bs', h'⟩ := Option.isSome_iff_exists.mp ((Event.serialize_isSome b' e).mpr hw)
  obtain rfl := Event.serialize_eq_of_isSome h' h
  exact Event.deserialize_frame h' d

/-- The plugin's frame of an `effProcessEvents` call (opcode 25) carrying one note-on for middle
C, a 32-byte `VstMidiEvent` of the vendored layout, decoded by the 32-bit host. -/
theorem one_event_delivered_to_host32 :
    let e : Event ArraySizes.vendored := ⟨25, 0, 0, 0, .dynamicVstEvents ⟨[⟨⟨[1, 0, 0, 0, 32, 0, 0, 0,
      0, 0, 0, 0, 0, 0, 0, 0, 0, 0, 0, 0, 0, 0, 0, 0, 0x90, 60, 100, 0, 0, 0, 0, 0], rfl⟩⟩]⟩⟩
    ∃ bs, e.serialize .plugin64 = some bs ∧ e.deserialize .host32 (.ok bs) = (e, .ok []) := by
  intro e
  exact ⟨_, rfl, (@event_delivery_across_builds _ .plugin64 .host32 e _ rfl e).1
    (by simp [e, Event.WithinLimits, EventPayload.WithinLimits])⟩

/-- The `Event` of the two theorems below: opcode, index, value and option zero, and a batch of
2049 events. The 32-bit host accepts it. -/
theorem host32_accepts_batch_2049 :
    ((⟨0, 0, 0, 0, .dynamicVstEvents ⟨List.replicate 2049 default⟩⟩ : Event L).serialize
      .host32).isSome := by
  rw [Event.serialize_isSome]
  show (List.replicate 2049 (default : VstEvent L)).length ≤ maxMidiEvents .host32
  rw [List.length_replicate]
  decide

/-- The 32-bit host encodes an `Event` carrying 2049 MIDI events and decodes its frame back,
while the native plugin refuses the same frame. -/
theorem host32_batch_refused_by_plugin64 :
    ∃ bs, (⟨0, 0, 0, 0, .dynamicVstEvents ⟨List.replicate 2049 default⟩⟩ : Event L).serialize
        .host32 = some bs ∧
      (∀ d : Event L, d.deserialize .host32 (.ok bs) =
        (⟨0, 0, 0, 0, .dynamicVstEvents ⟨List.replicate 2049 default⟩⟩, .ok [])) ∧
      ∀ d : Event L, (d.deserialize .plugin64 (.ok bs)).2 = .failed .invalidData := by
  obtain ⟨bs, h⟩ := Option.isSome_iff_exists.mp host32_accepts_batch_2049
  refine ⟨bs, h, Event.deserialize_frame h, Event.deserialize_of_maxMidiEvents_lt rfl ?_ h⟩
  show maxMidiEvents .plugin64 < (List.replicate 2049 (default : VstEvent L)).length
  rw [List.length_replicate]
  decide

/-- The 32-bit host decodes, from a complete frame and without error, an `Event` whose MIDI
batch holds 2049 events, one more than the spec's maximum of 2048. -/
theorem host32_decodes_batch_over_limit :
    ∃ bs, ∀ d : Event L, d.deserialize .host32 (.ok bs) =
      (⟨0, 0, 0, 0, .dynamicVstEvents ⟨List.replicate 2049 default⟩⟩, .ok []) := by
  obtain ⟨bs, h⟩ := Option.isSome_iff_exists.mp host32_accepts_batch_2049
  exact ⟨bs, Event.deserialize_frame h⟩

end Yabridge
