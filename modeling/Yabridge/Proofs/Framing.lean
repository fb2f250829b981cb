import Yabridge.Bitsery.Positional
import Yabridge.Serialization.Messages

/-!
# `Yabridge.Proofs.Framing`: frames are self-delimiting, and truncated frames are rejected

A receiver takes a message's frame off a byte stream. Two properties of the schema make this
safe, for each of the five top-level messages and every build:

* `messages_frames_self_delimiting`: a frame followed by any bytes determines the frame, the
  message on every field that travels, and the bytes after it. No frame is a proper prefix of
  another, and the encoder is injective on what travels.
* `messages_reject_truncated_frames`: decoding a strict prefix of a frame fails, into any
  destination. A message cut short is rejected, never decoded to partial data.

The first follows from the round trips alone (`readBack_unique`). The second needs that every
reader of the schema is `Positional`: each is built by `bind` from the library's primitive reads,
and a discriminant only selects which reader runs next. The `positional_deserialize` lemmas
below check this reader by reader, from the structs up to the messages.
-/

set_option autoImplicit false

namespace Yabridge

open Bitsery Deserializer

variable {L : ArraySizes}

/-! ### Every reader of the schema is positional -/

/-- The descriptor's twelve reads are positional. -/
theorem AEffect.positional_deserialize (a : AEffect) : Positional a.deserialize :=
  have v4 := positional_readValue 4
  v4.bind fun _ => v4.bind fun _ => v4.bind fun _ => v4.bind fun _ => v4.bind fun _ =>
    v4.bind fun _ => v4.bind fun _ => v4.bind fun _ => v4.bind fun _ => v4.bind fun _ =>
      v4.bind fun _ => v4.bind fun _ => .pure _

/-- The I/O properties, one array read, are positional. -/
theorem VstIOProperties.positional_deserialize (props : VstIOProperties L) :
    Positional props.deserialize :=
  (positional_readBuffer _).bind fun _ => .pure _

/-- The MIDI key name, one array read, is positional. -/
theorem VstMidiKeyName.positional_deserialize (keyName : VstMidiKeyName L) :
    Positional keyName.deserialize :=
  (positional_readBuffer _).bind fun _ => .pure _

/-- The parameter properties' values and arrays, read in the source's order, are positional. -/
theorem VstParameterProperties.positional_deserialize (props : VstParameterProperties L) :
    Positional props.deserialize :=
  have v4 := positional_readValue 4
  have v2 := positional_readValue 2
  v4.bind fun _ => v4.bind fun _ => v4.bind fun _ => (positional_readBuffer _).bind fun _ =>
    v4.bind fun _ => v4.bind fun _ => v4.bind fun _ => v4.bind fun _ => v4.bind fun _ =>
      (positional_readBuffer _).bind fun _ =>
        v2.bind fun _ => v2.bind fun _ => v2.bind fun _ => v2.bind fun _ =>
          (positional_readBuffer _).bind fun _ => (positional_readBuffer _).bind fun _ => .pure _

/-- The rectangle's four reads are positional. -/
theorem VstRect.positional_deserialize (rect : VstRect) : Positional rect.deserialize :=
  have v2 := positional_readValue 2
  v2.bind fun _ => v2.bind fun _ => v2.bind fun _ => v2.bind fun _ => .pure _

/-- The time info's values and reserved array are positional. -/
theorem VstTimeInfo.positional_deserialize (timeInfo : VstTimeInfo L) :
    Positional timeInfo.deserialize :=
  have v8 := positional_readValue 8
  have v4 := positional_readValue 4
  v8.bind fun _ => v8.bind fun _ => v8.bind fun _ => v8.bind fun _ => v8.bind fun _ =>
    v8.bind fun _ => v8.bind fun _ => v8.bind fun _ => v4.bind fun _ => v4.bind fun _ =>
      (positional_readBuffer _).bind fun _ => v4.bind fun _ => .pure _

/-- A MIDI event, one array read, is positional. -/
theorem VstEvent.positional_deserialize (event : VstEvent L) : Positional event.deserialize :=
  (positional_readBuffer _).bind fun _ => .pure _

/-- The MIDI batch, a container of events, is positional. -/
theorem DynamicVstEvents.positional_deserialize (b : Build) (events : DynamicVstEvents L) :
    Positional (events.deserialize b) :=
  (positional_readContainer _ VstEvent.positional_deserialize _ _).bind fun _ => .pure _

/-- Each overload of the payload's variant is positional, and so is an index that selects none. -/
theorem EventPayload.positional_deserializeAlternative (b : Build) (payload : EventPayload L) :
    ∀ k, Positional (payload.deserializeAlternative b k)
  | 0 | 6 | 10 | 11 | 12 => .pure _
  | 1 | 2 => (positional_readBlob _).map _
  | 3 => (positional_readValue _).map _
  | 4 => (AEffect.positional_deserialize _).map _
  | 5 => (DynamicVstEvents.positional_deserialize _ _).map _
  | 7 => (VstIOProperties.positional_deserialize _).map _
  | 8 => (VstMidiKeyName.positional_deserialize _).map _
  | 9 => (VstParameterProperties.positional_deserialize _).map _
  | _ + 13 => .pure _

/-- The payload is positional: its discriminant, then the alternative it selects. -/
theorem EventPayload.positional_deserialize (b : Build) (payload : EventPayload L) :
    Positional (payload.deserialize b) :=
  (positional_readIndex 13).bind (positional_deserializeAlternative b payload)

/-- Each overload of the response payload's variant is positional, and so is an index that
selects none. -/
theorem EventResposnePayload.positional_deserializeAlternative (payload : EventResposnePayload L) :
    ∀ k, Positional (payload.deserializeAlternative k)
  | 0 => .pure _
  | 1 | 2 => (positional_readBlob _).map _
  | 3 => (AEffect.positional_deserialize _).map _
  | 4 => (VstIOProperties.positional_deserialize _).map _
  | 5 => (VstMidiKeyName.positional_deserialize _).map _
  | 6 => (VstParameterProperties.positional_deserialize _).map _
  | 7 => (VstRect.positional_deserialize _).map _
  | 8 => (VstTimeInfo.positional_deserialize _).map _
  | _ + 9 => .pure _

/-- The response payload is positional: its discriminant, then the alternative it selects. -/
theorem EventResposnePayload.positional_deserialize (payload : EventResposnePayload L) :
    Positional payload.deserialize :=
  (positional_readIndex 9).bind payload.positional_deserializeAlternative

/-- An `Event` is positional: four header reads, then the payload. -/
theorem Event.positional_deserialize (b : Build) (event : Event L) :
    Positional (event.deserialize b) :=
  have v4 := positional_readValue 4
  v4.bind fun _ => v4.bind fun _ => (positional_readValue 8).bind fun _ => v4.bind fun _ =>
    (EventPayload.positional_deserialize _ _).bind fun _ => .pure _

/-- An `EventResult` is positional: the return value, then the payload. -/
theorem EventResult.positional_deserialize (result : EventResult L) :
    Positional result.deserialize :=
  (positional_readValue 8).bind fun _ =>
    (EventResposnePayload.positional_deserialize _).bind fun _ => .pure _

/-- A `Parameter` is positional: the index, then the optional value. -/
theorem Parameter.positional_deserialize (parameter : Parameter) :
    Positional parameter.deserialize :=
  (positional_readValue 4).bind fun _ =>
    (positional_readOptional (positional_readValue 4)).bind fun _ => .pure _

/-- A `ParameterResult`, one optional value, is positional. -/
theorem ParameterResult.positional_deserialize (result : ParameterResult) :
    Positional result.deserialize :=
  (positional_readOptional (positional_readValue 4)).bind fun _ => .pure _

/-- A channel is positional: its size, then one read of all its samples. -/
theorem AudioBuffers.positional_deserializeBuffer (buffer : List (BitVec 32)) :
    Positional (deserializeBuffer buffer) :=
  (positional_readSize _).bind fun _ => (positional_readBytes _).bind fun _ => .pure _

/-- An `AudioBuffers` is positional: the channels, then the frame count. -/
theorem AudioBuffers.positional_deserialize (audio : AudioBuffers) :
    Positional audio.deserialize :=
  (positional_readContainer _ positional_deserializeBuffer _ _).bind fun _ =>
    (positional_readValue 4).bind fun _ => .pure _

/-! ### Framing -/

/-- A reader that reads back two frames, each followed by some bytes, from the same byte
string, reads the same frame twice. -/
theorem readBack_unique {α : Type} {r : Deserializer α} {x x' : α} {bs bs' rest rest' : List UInt8}
    (h : r (.ok (bs ++ rest)) = (x, .ok rest)) (h' : r (.ok (bs' ++ rest')) = (x', .ok rest'))
    (heq : bs ++ rest = bs' ++ rest') : x = x' ∧ bs = bs' ∧ rest = rest' := by
  rw [heq, h'] at h
  obtain ⟨rfl, rfl⟩ : x' = x ∧ rest' = rest := by simpa using h
  exact ⟨rfl, List.append_cancel_right heq, rfl⟩

/-- **Frames are self-delimiting.** For each message type and build: when the frame of `m`
followed by `rest` is the byte string of the frame of `m'` followed by `rest'`, the two frames
are the same, so are the bytes after them, and `m` and `m'` agree on every field that
travels. -/
theorem messages_frames_self_delimiting (b : Build) :
    (∀ (m m' : Event L) bs bs' rest rest', m.serialize b = some bs → m'.serialize b = some bs' →
      bs ++ rest = bs' ++ rest' → m.wire = m'.wire ∧ bs = bs' ∧ rest = rest') ∧
    (∀ (m m' : EventResult L) bs bs' rest rest', m.serialize = some bs →
      m'.serialize = some bs' → bs ++ rest = bs' ++ rest' →
        m.wire = m'.wire ∧ bs = bs' ∧ rest = rest') ∧
    (∀ (m m' : Parameter) rest rest', m.serialize ++ rest = m'.serialize ++ rest' →
      m = m' ∧ rest = rest') ∧
    (∀ (m m' : ParameterResult) rest rest', m.serialize ++ rest = m'.serialize ++ rest' →
      m = m' ∧ rest = rest') ∧
    (∀ (m m' : AudioBuffers) bs bs' rest rest', m.serialize = some bs →
      m'.serialize = some bs' → bs ++ rest = bs' ++ rest' → m = m' ∧ bs = bs' ∧ rest = rest') :=
  ⟨fun m _ _ _ rest rest' h h' => readBack_unique (Event.deserialize_serialize h m rest)
      (Event.deserialize_serialize h' m rest'),
    fun m _ _ _ rest rest' h h' => readBack_unique (EventResult.deserialize_serialize h m rest)
      (EventResult.deserialize_serialize h' m rest'),
    fun m m' rest rest' heq => (readBack_unique (Parameter.deserialize_serialize m m rest)
      (Parameter.deserialize_serialize m m' rest') heq).imp_right And.right,
    fun m m' rest rest' heq => (readBack_unique (ParameterResult.deserialize_serialize m m rest)
      (ParameterResult.deserialize_serialize m m' rest') heq).imp_right And.right,
    fun m _ _ _ rest rest' h h' => readBack_unique (AudioBuffers.deserialize_serialize h m rest)
      (AudioBuffers.deserialize_serialize h' m rest')⟩

/-- Two `audioMasterIOChanged` calls (opcode 13) whose descriptors differ only in their
dispatcher pointer: they are different values with one frame, which determines the call on
every field that travels. -/
theorem io_changed_frames_agree :
    let e : Event ArraySizes.vendored :=
      ⟨13, 0, 0, 0, .aEffect { (default : AEffect) with dispatcher := 1 }⟩
    let e' : Event ArraySizes.vendored :=
      ⟨13, 0, 0, 0, .aEffect { (default : AEffect) with dispatcher := 2 }⟩
    e ≠ e' ∧ ∃ bs, e.serialize .plugin64 = some bs ∧ e'.serialize .plugin64 = some bs ∧
      e.wire = e'.wire := by
  intro e e'
  obtain ⟨bs, h⟩ : ∃ bs, e.serialize .plugin64 = some bs := ⟨_, rfl⟩
  have h' : e'.serialize .plugin64 = some bs := h
  exact ⟨by decide, bs, h, h',
    ((messages_frames_self_delimiting .plugin64).1 e e' bs bs [] [] h h' rfl).1⟩

/-- **Truncated frames are rejected.** For each message type and build, deserializing any
strict prefix of a message's frame, into any destination, fails. -/
theorem messages_reject_truncated_frames (b : Build) :
    (∀ (m d : Event L) bs, m.serialize b = some bs → ∀ p, p <+: bs → p.length < bs.length →
      (d.deserialize b (.ok p)).2.isOk = false) ∧
    (∀ (m d : EventResult L) bs, m.serialize = some bs → ∀ p, p <+: bs →
      p.length < bs.length → (d.deserialize (.ok p)).2.isOk = false) ∧
    (∀ (m d : Parameter) p, p <+: m.serialize → p.length < m.serialize.length →
      (d.deserialize (.ok p)).2.isOk = false) ∧
    (∀ (m d : ParameterResult) p, p <+: m.serialize → p.length < m.serialize.length →
      (d.deserialize (.ok p)).2.isOk = false) ∧
    (∀ (m d : AudioBuffers) bs, m.serialize = some bs → ∀ p, p <+: bs → p.length < bs.length →
      (d.deserialize (.ok p)).2.isOk = false) :=
  ⟨fun _ d _ h _ => (Event.positional_deserialize b d).truncated (Event.deserialize_frame h d),
    fun _ d _ h _ => (EventResult.positional_deserialize d).truncated
      (EventResult.deserialize_frame h d),
    fun m d _ => (Parameter.positional_deserialize d).truncated (Parameter.deserialize_frame d m),
    fun m d _ => (ParameterResult.positional_deserialize d).truncated
      (ParameterResult.deserialize_frame d m),
    fun _ d _ h _ => (AudioBuffers.positional_deserialize d).truncated
      (AudioBuffers.deserialize_frame h d)⟩

/-- The set-parameter request for index 3 and the value `0.75` (bits `0x3F400000`), cut after
its presence flag: the five bytes that arrived are refused. -/
theorem set_parameter_cut_after_flag :
    ([3, 0, 0, 0, 1] : List UInt8) <+: (⟨3, some 0x3F400000⟩ : Parameter).serialize ∧
      ([3, 0, 0, 0, 1] : List UInt8).length < (⟨3, some 0x3F400000⟩ : Parameter).serialize.length ∧
      ((⟨0, none⟩ : Parameter).deserialize (.ok [3, 0, 0, 0, 1])).2.isOk = false :=
  have hp : ([3, 0, 0, 0, 1] : List UInt8) <+: (⟨3, some 0x3F400000⟩ : Parameter).serialize :=
    ⟨[0, 0, 0x40, 0x3F], rfl⟩
  have hl : ([3, 0, 0, 0, 1] : List UInt8).length <
      (⟨3, some 0x3F400000⟩ : Parameter).serialize.length := by decide
  ⟨hp, hl, (messages_reject_truncated_frames (L := ArraySizes.vendored) .plugin64).2.2.1 _ _ _ hp hl⟩

end Yabridge
