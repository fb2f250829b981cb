import Mathlib.Tactic.IntervalCases
import Yabridge.Serialization.Messages

/-!
# `Yabridge.Proofs.Limits`: the maxima on the input side

Every bounded container of the schema is read through `readSize`, which hands the container
a size within its maximum whatever the input (`readSize_le`): a size above the maximum fails
the adapter and reads as `0`. So a decoder never builds an over-long string, blob, MIDI batch or
audio buffer, not even from a frame it rejects. `decoded_messages_within_limits` states this for
the four messages that have maxima, one build at a time: the limits are those of the build that
decodes, and the MIDI batch's is `maxMidiEvents b` (2048 in the plugin, 4096 in the 32-bit
host, see `Proofs/Bitness.lean`).

A size above the maximum is not truncated to it: the container is read as empty and the adapter
fails (`readBlob_of_lt`, `readContainer_of_lt`), and every read after it keeps the failure.
`oversized_containers_rejected` lifts this to the messages, for every container whose size
prefix sits at a place the frame fixes: the string, blob and MIDI alternatives of the two
payloads, after any header bytes, and the channel count of `AudioBuffers`.
-/

set_option autoImplicit false

namespace Yabridge

open Bitsery Deserializer

variable {L : ArraySizes}

/-- Each alternative a payload decoder can select is built within the decoding build's maxima,
whatever the input. -/
theorem EventPayload.withinLimits_deserializeAlternative (b : Build) (payload : EventPayload L)
    {k : Nat} (hk : k < 13) (i : Input) :
    (payload.deserializeAlternative b k i).1.WithinLimits b := by
  interval_cases k <;>
    simp [deserializeAlternative, WithinLimits, length_readBlob_le, DynamicVstEvents.deserialize,
      length_readContainer_le]

/-- A decoded payload is within the decoding build's maxima: the discriminant always selects an
alternative that is built afresh. -/
theorem EventPayload.withinLimits_deserialize (b : Build) (payload : EventPayload L) (i : Input) :
    (payload.deserialize b i).1.WithinLimits b :=
  withinLimits_deserializeAlternative b payload (readIndex_lt (by decide) i) _

/-- A decoded response payload is within the maxima. -/
theorem EventResposnePayload.withinLimits_deserialize (payload : EventResposnePayload L)
    (i : Input) : (payload.deserialize i).1.WithinLimits := by
  have hk : (readIndex 9 i).1 < 9 := readIndex_lt (by decide) i
  simp only [deserialize, bind_apply]
  generalize (readIndex 9 i).1 = k at hk
  interval_cases k <;> simp [deserializeAlternative, WithinLimits, length_readBlob_le]

/-- Every channel an `AudioBuffers` decoder builds has at most `max_buffer_size` samples. -/
theorem AudioBuffers.length_deserializeBuffer_le (buffer : List (BitVec 32)) (i : Input) :
    (AudioBuffers.deserializeBuffer buffer i).1.length ≤ maxBufferSize := by
  have := readSize_le maxBufferSize i
  simp only [deserializeBuffer, bind_apply, pure_apply, length_samplesOf, length_readBytes]
  omega

/-- **Decoded values respect the decoding build's maxima.** For every build `b`, destination
and input, whether or not the decode succeeds, the `Event`, `EventResult` and `AudioBuffers`
it yields are within `b`'s declared maxima: strings of at most 64 bytes, blobs of at most
`binary_buffer_size` bytes, MIDI batches of at most `maxMidiEvents b` events, and at most 32
channels of at most 16384 samples. -/
theorem decoded_messages_within_limits (b : Build) :
    (∀ (d : Event L) (i : Input), (d.deserialize b i).1.WithinLimits b) ∧
    (∀ (d : EventResult L) (i : Input), (d.deserialize i).1.WithinLimits) ∧
    (∀ (d : AudioBuffers) (i : Input), (d.deserialize i).1.WithinLimits) := by
  refine ⟨fun d i => ?_, fun d i => ?_, fun d i => ⟨?_, ?_⟩⟩
  · simpa [Event.deserialize, Event.WithinLimits] using
      EventPayload.withinLimits_deserialize b d.payload _
  · simpa [EventResult.deserialize, EventResult.WithinLimits] using
      EventResposnePayload.withinLimits_deserialize d.payload _
  · simpa [AudioBuffers.deserialize] using length_readContainer_le _ _ _ _ i
  · simpa [AudioBuffers.deserialize] using
      mem_readContainer AudioBuffers.length_deserializeBuffer_le maxAudioChannels [] d.buffers i

/-! ### Sizes above a maximum -/

/-- The 20 header bytes of an `Event` are read as they stand: the adapter after the `Event` is
the adapter after its payload. -/
theorem Event.deserialize_snd {b : Build} (d : Event L) {bs : List UInt8} (h : 20 ≤ bs.length) :
    (d.deserialize b (.ok bs)).2 = (d.payload.deserialize b (.ok (bs.drop 20))).2 := by
  simp only [Event.deserialize, bind_apply, readValue_snd_of_le 4 bs (by omega),
    readValue_snd_of_le 4 (bs.drop 4) (by simp; omega), List.drop_drop,
    readValue_snd_of_le 8 (bs.drop 8) (by simp; omega),
    readValue_snd_of_le 4 (bs.drop 16) (by simp; omega), pure_apply]

/-- The 8 header bytes of an `EventResult` are read as they stand: the adapter after the
result is the adapter after its payload. -/
theorem EventResult.deserialize_snd (d : EventResult L) {bs : List UInt8} (h : 8 ≤ bs.length) :
    (d.deserialize (.ok bs)).2 = (d.payload.deserialize (.ok (bs.drop 8))).2 := by
  simp only [EventResult.deserialize, bind_apply, readValue_snd_of_le 8 bs h, pure_apply]

/-- A payload whose discriminant selects a string, a blob or a MIDI batch, followed by a size
above that container's maximum, fails the adapter. -/
theorem EventPayload.deserialize_of_size_lt {b : Build} (payload : EventPayload L)
    {tail rest : List UInt8} {k maxSize : Nat}
    (hk : (k, maxSize) ∈ [(1, maxStringLength), (2, binaryBufferSize), (5, maxMidiEvents b)])
    (hsel : readSizeBytes (.ok tail) = (k, .ok rest)) (h : maxSize < (readSizeBytes (.ok rest)).1) :
    (payload.deserialize b (.ok tail)).2.isOk = false := by
  simp only [List.mem_cons, Prod.mk.injEq, List.mem_singleton, List.not_mem_nil, or_false] at hk
  have hidx : readIndex 13 (.ok tail) = (k, .ok rest) := readSize_of_readSizeBytes hsel (by omega)
  obtain ⟨e, hblob⟩ := readBlob_of_lt h
  obtain ⟨e', hmidi⟩ := readContainer_of_lt h VstEvent.deserialize default
    (default : DynamicVstEvents L).events
  simp only [deserialize, bind_apply, hidx]
  rcases hk with ⟨rfl, rfl⟩ | ⟨rfl, rfl⟩ | ⟨rfl, rfl⟩ <;>
    simp [deserializeAlternative, DynamicVstEvents.deserialize, hblob, hmidi]

/-- A response payload whose discriminant selects a string or a blob, followed by a size above
that container's maximum, fails the adapter. -/
theorem EventResposnePayload.deserialize_of_size_lt (payload : EventResposnePayload L)
    {tail rest : List UInt8} {k maxSize : Nat}
    (hk : (k, maxSize) ∈ [(1, maxStringLength), (2, binaryBufferSize)])
    (hsel : readSizeBytes (.ok tail) = (k, .ok rest)) (h : maxSize < (readSizeBytes (.ok rest)).1) :
    (payload.deserialize (.ok tail)).2.isOk = false := by
  simp only [List.mem_cons, Prod.mk.injEq, List.mem_singleton, List.not_mem_nil, or_false] at hk
  have hidx : readIndex 9 (.ok tail) = (k, .ok rest) := readSize_of_readSizeBytes hsel (by omega)
  simp only [deserialize, bind_apply, hidx]
  obtain ⟨e, he⟩ := readBlob_of_lt h
  rcases hk with ⟨rfl, rfl⟩ | ⟨rfl, rfl⟩ <;> simp [deserializeAlternative, he]

/-- **Sizes above a maximum are a hard failure.** An `Event` frame, after any 20 header bytes,
whose discriminant selects the string, blob or MIDI alternative and whose size prefix after it
exceeds that container's maximum in build `b` fails to decode; so does an `EventResult` frame
with such a string or blob after any 8 header bytes, and an `AudioBuffers` frame declaring
more than 32 channels. Whatever follows and whatever the destination held, the decode ends
failed, instead of keeping the first `maxSize` elements. -/
theorem oversized_containers_rejected (b : Build) :
    (∀ (d : Event L) (hdr tail rest : List UInt8) (k maxSize : Nat), hdr.length = 20 →
      (k, maxSize) ∈ [(1, maxStringLength), (2, binaryBufferSize), (5, maxMidiEvents b)] →
      readSizeBytes (.ok tail) = (k, .ok rest) → maxSize < (readSizeBytes (.ok rest)).1 →
      (d.deserialize b (.ok (hdr ++ tail))).2.isOk = false) ∧
    (∀ (d : EventResult L) (hdr tail rest : List UInt8) (k maxSize : Nat), hdr.length = 8 →
      (k, maxSize) ∈ [(1, maxStringLength), (2, binaryBufferSize)] →
      readSizeBytes (.ok tail) = (k, .ok rest) → maxSize < (readSizeBytes (.ok rest)).1 →
      (d.deserialize (.ok (hdr ++ tail))).2.isOk = false) ∧
    (∀ (d : AudioBuffers) (bs : List UInt8), maxAudioChannels < (readSizeBytes (.ok bs)).1 →
      (d.deserialize (.ok bs)).2.isOk = false) := by
  refine ⟨fun d hdr tail rest k maxSize hh hk hsel h => ?_,
    fun d hdr tail rest k maxSize hh hk hsel h => ?_, fun d bs h => ?_⟩
  · rw [Event.deserialize_snd d (by simp [hh]), ← hh, List.drop_left]
    exact EventPayload.deserialize_of_size_lt d.payload hk hsel h
  · rw [EventResult.deserialize_snd d (by simp [hh]), ← hh, List.drop_left]
    exact EventResposnePayload.deserialize_of_size_lt d.payload hk hsel h
  · obtain ⟨e, he⟩ := readContainer_of_lt h AudioBuffers.deserializeBuffer [] d.buffers
    simp [AudioBuffers.deserialize, he]

/-- Twenty zero header bytes, the discriminant `1` of the string alternative, and the size 65,
one above `max_string_length`: the plugin refuses the frame. -/
theorem string_of_65_refused :
    (List.replicate 20 0 : List UInt8).length = 20 ∧
      readSizeBytes (.ok [1, 65]) = (1, .ok [65]) ∧ maxStringLength < (readSizeBytes (.ok [65])).1 ∧
      ((⟨0, 0, 0, 0, .nullptr⟩ : Event ArraySizes.vendored).deserialize .plugin64
        (.ok (List.replicate 20 0 ++ [1, 65]))).2.isOk = false :=
  have hh : (List.replicate 20 0 : List UInt8).length = 20 := List.length_replicate _ _
  have hsel : readSizeBytes (.ok [1, 65]) = (1, .ok [65]) := rfl
  have hlt : maxStringLength < (readSizeBytes (.ok [65])).1 := by decide
  ⟨hh, hsel, hlt, (oversized_containers_rejected .plugin64).1 _ _ _ _ _ _ hh
    (List.mem_cons_self _ _) hsel hlt⟩

end Yabridge
