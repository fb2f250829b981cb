import Yabridge.Serialization.Payloads

/-!
# `Yabridge.Serialization.Messages`: the five messages on the wire

`Event`, `EventResult`, `Parameter`, `ParameterResult` and `AudioBuffers` of
`src/common/serialization.h` (lines 311-459), each with the two instantiations of its
`serialize` member.

For each message this module proves what its encoder accepts (`serialize_isSome`: exactly the
values within the declared maxima) and that its decoder reads back every frame the encoder
produces, from any destination and with any bytes after the frame (`deserialize_serialize`).
The scalar headers are fixed-width: 20 bytes for an `Event` (`opcode`, `index`, the 8-byte
`value` that is `native_intptr_t` in every build, `option`) and 8 for an `EventResult`.
-/

set_option autoImplicit false

namespace Yabridge

open Bitsery Deserializer

variable {L : ArraySizes}

/-! ### `Event` and `EventResult` -/

/-- `Event`: one call of the plugin's or the host's dispatch function. -/
structure Event (L : ArraySizes) where
  opcode : BitVec 32
  index : BitVec 32
  value : BitVec 64
  option : BitVec 32
  payload : EventPayload L
  deriving DecidableEq

/-- `Event::serialize` on the output side. -/
def Event.serialize (b : Build) (event : Event L) : Option (List UInt8) :=
  (writeValue 4 event.opcode ++ writeValue 4 event.index ++ writeValue 8 event.value ++
    writeValue 4 event.option ++ ·) <$> event.payload.serialize b

/-- `Event::serialize` on the input side. -/
def Event.deserialize (b : Build) (event : Event L) : Deserializer (Event L) := do
  let opcode ← readValue 4
  let index ← readValue 4
  let value ← readValue 8
  let option ← readValue 4
  let payload ← event.payload.deserialize b
  pure { event with opcode, index, value, option, payload }

/-- The declared maxima of an `Event`: those of its payload. -/
def Event.WithinLimits (b : Build) (event : Event L) : Prop := event.payload.WithinLimits b

/-- What a decode of the event's frame yields. -/
def Event.wire (event : Event L) : Event L := { event with payload := event.payload.wire }

/-- The encoder writes a frame for an `Event` exactly when its payload is within the build's
maxima. -/
theorem Event.serialize_isSome (b : Build) (event : Event L) :
    (event.serialize b).isSome ↔ event.WithinLimits b := by
  simp [Event.serialize, Event.WithinLimits, ← EventPayload.serialize_isSome]

/-- An `Event`'s frame reads back, into any destination and whatever follows it, to
`event.wire`. -/
theorem Event.deserialize_serialize {b : Build} {event : Event L} {bs : List UInt8}
    (h : event.serialize b = some bs) (d : Event L) (rest : List UInt8) :
    d.deserialize b (.ok (bs ++ rest)) = (event.wire, .ok rest) := by
  simp only [Event.serialize, Option.map_eq_map, Option.map_eq_some'] at h
  obtain ⟨body, hbody, rfl⟩ := h
  simp [Event.deserialize, List.append_assoc, EventPayload.deserialize_serialize hbody, Event.wire]

/-- A frame produced by the encoder is consumed whole. -/
theorem Event.deserialize_frame {b : Build} {m : Event L} {bs : List UInt8}
    (h : m.serialize b = some bs) (d : Event L) : d.deserialize b (.ok bs) = (m.wire, .ok []) := by
  simpa using Event.deserialize_serialize h d []

/-- `EventResult`: the answer to an `Event`. -/
structure EventResult (L : ArraySizes) where
  returnValue : BitVec 64
  payload : EventResposnePayload L
  deriving DecidableEq

/-- `EventResult::serialize` on the output side. -/
def EventResult.serialize (result : EventResult L) : Option (List UInt8) :=
  (writeValue 8 result.returnValue ++ ·) <$> result.payload.serialize

/-- `EventResult::serialize` on the input side. -/
def EventResult.deserialize (result : EventResult L) : Deserializer (EventResult L) := do
  let returnValue ← readValue 8
  let payload ← result.payload.deserialize
  pure { result with returnValue, payload }

/-- The declared maxima of an `EventResult`: those of its payload. -/
def EventResult.WithinLimits (result : EventResult L) : Prop := result.payload.WithinLimits

/-- What a decode of the result's frame yields. -/
def EventResult.wire (result : EventResult L) : EventResult L :=
  { result with payload := result.payload.wire }

/-- The encoder writes a frame for an `EventResult` exactly when its payload is within the
maxima. -/
theorem EventResult.serialize_isSome (result : EventResult L) :
    result.serialize.isSome ↔ result.WithinLimits := by
  simp [EventResult.serialize, EventResult.WithinLimits, ← EventResposnePayload.serialize_isSome]

/-- An `EventResult`'s frame reads back, into any destination and whatever follows it, to
`result.wire`. -/
theorem EventResult.deserialize_serialize {result : EventResult L} {bs : List UInt8}
    (h : result.serialize = some bs) (d : EventResult L) (rest : List UInt8) :
    d.deserialize (.ok (bs ++ rest)) = (result.wire, .ok rest) := by
  simp only [EventResult.serialize, Option.map_eq_map, Option.map_eq_some'] at h
  obtain ⟨body, hbody, rfl⟩ := h
  simp [EventResult.deserialize, List.append_assoc, EventResposnePayload.deserialize_serialize hbody,
    EventResult.wire]

/-- A frame produced by the encoder is consumed whole. -/
theorem EventResult.deserialize_frame {m : EventResult L} {bs : List UInt8}
    (h : m.serialize = some bs) (d : EventResult L) : d.deserialize (.ok bs) = (m.wire, .ok []) := by
  simpa using EventResult.deserialize_serialize h d []

/-! ### Parameters -/

/-- `Parameter`: a `getParameter` call when `value` is empty, a `setParameter` call otherwise. -/
structure Parameter where
  index : BitVec 32
  value : Option (BitVec 32)
  deriving DecidableEq

/-- `Parameter::serialize` on the output side. -/
def Parameter.serialize (parameter : Parameter) : List UInt8 :=
  writeValue 4 parameter.index ++ writeOptional (writeValue 4) parameter.value

/-- `Parameter::serialize` on the input side. -/
def Parameter.deserialize (parameter : Parameter) : Deserializer Parameter := do
  let index ← readValue 4
  let value ← readOptional (readValue 4)
  pure { parameter with index, value }

/-- `ParameterResult`: the value read by a `getParameter` call, empty for `setParameter`. -/
structure ParameterResult where
  value : Option (BitVec 32)
  deriving DecidableEq

/-- `ParameterResult::serialize` on the output side. -/
def ParameterResult.serialize (result : ParameterResult) : List UInt8 :=
  writeOptional (writeValue 4) result.value

/-- `ParameterResult::serialize` on the input side. -/
def ParameterResult.deserialize (result : ParameterResult) : Deserializer ParameterResult := do
  let value ← readOptional (readValue 4)
  pure { result with value }

/-- A `Parameter`'s frame reads back, into any destination and whatever follows it. -/
theorem Parameter.deserialize_serialize (d parameter : Parameter) (rest : List UInt8) :
    d.deserialize (.ok (parameter.serialize ++ rest)) = (parameter, .ok rest) := by
  simp [Parameter.deserialize, Parameter.serialize, List.append_assoc,
    readOptional_writeOptional (readValue_append 4)]

/-- A `ParameterResult`'s frame reads back, into any destination and whatever follows it. -/
theorem ParameterResult.deserialize_serialize (d result : ParameterResult) (rest : List UInt8) :
    d.deserialize (.ok (result.serialize ++ rest)) = (result, .ok rest) := by
  simp [ParameterResult.deserialize, ParameterResult.serialize,
    readOptional_writeOptional (readValue_append 4)]

/-- A `Parameter` decode that leaves the adapter healthy consumed exactly the frame of the
value it yields: a 4-byte index and a flag of `0` or `1`, with a 4-byte value after a `1`. -/
theorem Parameter.readsOnlyFrames (d : Parameter) :
    ReadsOnlyFrames Parameter.serialize d.deserialize := by
  intro i rest h
  simp only [Parameter.deserialize, bind_apply, pure_apply] at h ⊢
  have hv := (readsOnlyFrames_readValue 4).optional _ rest h
  exact (readsOnlyFrames_readValue 4 i _ hv).trans (by simp [Parameter.serialize])

/-- A `ParameterResult` decode that leaves the adapter healthy consumed exactly the frame of the
value it yields. -/
theorem ParameterResult.readsOnlyFrames (d : ParameterResult) :
    ReadsOnlyFrames ParameterResult.serialize d.deserialize :=
  fun i rest h => (readsOnlyFrames_readValue 4).optional i rest h

/-- A `Parameter`'s frame is consumed whole. -/
theorem Parameter.deserialize_frame (d parameter : Parameter) :
    d.deserialize (.ok parameter.serialize) = (parameter, .ok []) := by
  simpa using Parameter.deserialize_serialize d parameter []

/-- A `ParameterResult`'s frame is consumed whole. -/
theorem ParameterResult.deserialize_frame (d result : ParameterResult) :
    d.deserialize (.ok result.serialize) = (result, .ok []) := by
  simpa using ParameterResult.deserialize_serialize d result []

/-! ### `AudioBuffers` -/

/-- `AudioBuffers`: one buffer of samples per channel, and the number of frames. -/
structure AudioBuffers where
  buffers : List (List (BitVec 32))
  sampleFrames : BitVec 32
  deriving DecidableEq

/-- The element function of the channel container: `container4b(v, max_buffer_size)`. -/
def AudioBuffers.serializeBuffer (buffer : List (BitVec 32)) : Option (List UInt8) :=
  writeContainer maxBufferSize (fun sample => some (writeValue 4 sample)) buffer

/-- The samples a channel's bytes hold: every four bytes, little-endian, are the bit pattern of
one `float`, as `readBuffer` copies them into the vector's storage. -/
def AudioBuffers.samplesOf : List UInt8 → List (BitVec 32)
  | b0 :: b1 :: b2 :: b3 :: bs => BitVec.ofNat 32 (leValue [b0, b1, b2, b3]) :: samplesOf bs
  | _ => []

/-- `container4b(v, max_buffer_size)` on the input side. The library resizes the channel to the
size read and, its samples being `float`s stored contiguously, reads all of them with one
`readBuffer` of `4 * size` bytes. So the channel's old samples are overwritten whole and never
read, and a channel cut short is zeroed whole, like any read past the end. -/
def AudioBuffers.deserializeBuffer (_ : List (BitVec 32)) : Deserializer (List (BitVec 32)) := do
  let size ← readSize maxBufferSize
  let bytes ← readBytes (4 * size)
  pure (samplesOf bytes)

/-- `AudioBuffers::serialize` on the output side. -/
def AudioBuffers.serialize (audio : AudioBuffers) : Option (List UInt8) :=
  (· ++ writeValue 4 audio.sampleFrames) <$>
    writeContainer maxAudioChannels AudioBuffers.serializeBuffer audio.buffers

/-- `AudioBuffers::serialize` on the input side. -/
def AudioBuffers.deserialize (audio : AudioBuffers) : Deserializer AudioBuffers := do
  let buffers ← readContainer maxAudioChannels AudioBuffers.deserializeBuffer [] audio.buffers
  let sampleFrames ← readValue 4
  pure { audio with buffers, sampleFrames }

/-- The declared maxima of an `AudioBuffers`: at most 32 channels of at most 16384 samples. -/
def AudioBuffers.WithinLimits (audio : AudioBuffers) : Prop :=
  audio.buffers.length ≤ maxAudioChannels ∧ ∀ buffer ∈ audio.buffers, buffer.length ≤ maxBufferSize

/-- The encoder writes a frame for an `AudioBuffers` exactly when it has at most 32 channels
of at most 16384 samples each; `sample_frames` is not checked. -/
theorem AudioBuffers.serialize_isSome (audio : AudioBuffers) :
    audio.serialize.isSome ↔ audio.WithinLimits := by
  simp [AudioBuffers.serialize, AudioBuffers.WithinLimits, writeContainer_isSome,
    AudioBuffers.serializeBuffer]

/-- A channel of `n` bytes holds `n / 4` samples; a trailing partial sample is dropped. -/
theorem AudioBuffers.length_samplesOf : ∀ bs : List UInt8, (samplesOf bs).length = bs.length / 4
  | _ :: _ :: _ :: _ :: bs => by simp [samplesOf, length_samplesOf bs]; omega
  | [] | [_] | [_, _] | [_, _, _] => by simp [samplesOf]

/-- A sample's four bytes read back as the sample. -/
theorem AudioBuffers.samplesOf_writeValue_append (x : BitVec 32) (bs : List UInt8) :
    samplesOf (writeValue 4 x ++ bs) = x :: samplesOf bs := by
  have hv : leValue (writeValue 4 x) = x.toNat := by
    rw [writeValue, leValue_leBytes, Nat.mod_eq_of_lt (by simpa using x.isLt)]
  obtain ⟨b0, b1, b2, b3, hw⟩ : ∃ b0 b1 b2 b3, writeValue 4 x = [b0, b1, b2, b3] :=
    ⟨_, _, _, _, rfl⟩
  rw [hw] at hv ⊢
  simp [samplesOf, hv]

/-- The samples the channel's writer emits: four bytes each, read back in order. -/
theorem AudioBuffers.samplesOf_writeElems :
    ∀ (xs : List (BitVec 32)) (es : List UInt8),
      writeElems (fun sample => some (writeValue 4 sample)) xs = some es →
        es.length = 4 * xs.length ∧ samplesOf es = xs
  | [], es, h => by cases h; simp [samplesOf]
  | x :: xs, es, h => by
    simp only [writeElems, Option.bind_eq_bind, Option.some_bind, Option.bind_eq_some,
      Option.pure_def, Option.some.injEq] at h
    obtain ⟨b, hb, rfl⟩ := h
    obtain ⟨hlen, hs⟩ := samplesOf_writeElems xs b hb
    simp only [List.length_append, length_writeValue, hlen, samplesOf_writeValue_append, hs,
      List.length_cons, and_true]
    omega

/-- A channel within its maximum reads back: its size, then its samples from one read of four
bytes each. -/
theorem AudioBuffers.readsBack_buffer :
    ReadsBack AudioBuffers.serializeBuffer AudioBuffers.deserializeBuffer := by
  intro xs bs h _ rest
  unfold serializeBuffer writeContainer at h
  split_ifs at h with hle
  simp only [Option.map_eq_map, Option.map_eq_some'] at h
  obtain ⟨es, hes, rfl⟩ := h
  obtain ⟨hlen, hs⟩ := samplesOf_writeElems xs es hes
  simp only [deserializeBuffer, bind_apply, List.append_assoc,
    readSize_writeSize hle (Nat.lt_of_le_of_lt hle (by decide)), pure_apply]
  rw [← hlen, readBytes_append, hs]

/-- An `AudioBuffers` frame reads back, every channel and sample, into any destination and
whatever follows it. -/
theorem AudioBuffers.deserialize_serialize {audio : AudioBuffers} {bs : List UInt8}
    (h : audio.serialize = some bs) (d : AudioBuffers) (rest : List UInt8) :
    d.deserialize (.ok (bs ++ rest)) = (audio, .ok rest) := by
  simp only [AudioBuffers.serialize, Option.map_eq_map, Option.map_eq_some'] at h
  obtain ⟨body, hbody, rfl⟩ := h
  have := readsBack_container (by decide) [] AudioBuffers.readsBack_buffer _ _ hbody d.buffers
    (writeValue 4 audio.sampleFrames ++ rest)
  simp [AudioBuffers.deserialize, List.append_assoc, this]

/-- An `AudioBuffers` frame is consumed whole. -/
theorem AudioBuffers.deserialize_frame {m : AudioBuffers} {bs : List UInt8}
    (h : m.serialize = some bs) (d : AudioBuffers) : d.deserialize (.ok bs) = (m, .ok []) := by
  simpa using AudioBuffers.deserialize_serialize h d []

end Yabridge
