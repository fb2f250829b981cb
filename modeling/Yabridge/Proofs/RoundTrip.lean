import Yabridge.Serialization.Messages

/-!
# `Yabridge.Proofs.RoundTrip`: the round trip over the whole wire schema

The contract of the schema, for every build and every array layout, over the five top-level
messages:

* `messages_deserialize_serialize`: a message within the declared maxima has a frame, and
  deserializing that frame followed by any bytes, into a destination holding anything, succeeds,
  consumes exactly the frame and yields the message. For `Event` and `EventResult` the result
  is `m.wire`: `m` itself except that an `AEffect` payload comes back with the null pointers of
  a value-initialized descriptor, since pointers never travel. The variant alternative, every
  optional's presence and every sample of every channel come back as they were sent.
* `messages_encoder_admits_decodable`: within one build, the encoder and the decoder agree on
  what is admissible. The encoder produces a frame exactly for the messages within the maxima,
  and every frame it produces is decoded successfully and completely by the same build.

Both are assembled from the per-message laws of `Serialization/Messages.lean`, which come from
one law per container combinator (`Bitsery/Containers.lean`) and per scalar encoding.
-/

set_option autoImplicit false

namespace Yabridge

open Bitsery

variable {L : ArraySizes}

/-- **Round trip over the whole wire schema.** Take a build `b` and a message `m` of one of
the five top-level types within the build's declared maxima. Then `m` has a frame `bs`, and
deserializing `bs ++ rest`, for any `rest` and into any destination `d`, succeeds, leaves
exactly `rest`, and yields `m` on every field the schema serializes. -/
theorem messages_deserialize_serialize (b : Build) :
    (∀ m : Event L, m.WithinLimits b → ∃ bs, m.serialize b = some bs ∧
      ∀ (d : Event L) rest, d.deserialize b (.ok (bs ++ rest)) = (m.wire, .ok rest)) ∧
    (∀ m : EventResult L, m.WithinLimits → ∃ bs, m.serialize = some bs ∧
      ∀ (d : EventResult L) rest, d.deserialize (.ok (bs ++ rest)) = (m.wire, .ok rest)) ∧
    (∀ (m d : Parameter) rest, d.deserialize (.ok (m.serialize ++ rest)) = (m, .ok rest)) ∧
    (∀ (m d : ParameterResult) rest, d.deserialize (.ok (m.serialize ++ rest)) = (m, .ok rest)) ∧
    (∀ m : AudioBuffers, m.WithinLimits → ∃ bs, m.serialize = some bs ∧
      ∀ (d : AudioBuffers) rest, d.deserialize (.ok (bs ++ rest)) = (m, .ok rest)) := by
  refine ⟨fun m hm => ?_, fun m hm => ?_, fun m d => Parameter.deserialize_serialize d m,
    fun m d => ParameterResult.deserialize_serialize d m, fun m hm => ?_⟩
  · obtain ⟨bs, h⟩ := Option.isSome_iff_exists.mp ((Event.serialize_isSome b m).mpr hm)
    exact ⟨bs, h, Event.deserialize_serialize h⟩
  · obtain ⟨bs, h⟩ := Option.isSome_iff_exists.mp ((EventResult.serialize_isSome m).mpr hm)
    exact ⟨bs, h, EventResult.deserialize_serialize h⟩
  · obtain ⟨bs, h⟩ := Option.isSome_iff_exists.mp ((AudioBuffers.serialize_isSome m).mpr hm)
    exact ⟨bs, h, AudioBuffers.deserialize_serialize h⟩

/-- The plugin's `effSetProgramName` call (opcode 4) with a program name of 64 bytes, the most
a string may hold, in the vendored layout: it has a frame, and the plugin reads the call back
from that frame followed by any bytes, into any destination. -/
theorem set_program_name_round_trip :
    let e : Event ArraySizes.vendored := ⟨4, 0, 0, 0, .string (List.replicate 64 0x41)⟩
    ∃ bs, e.serialize .plugin64 = some bs ∧
      ∀ (d : Event ArraySizes.vendored) rest, d.deserialize .plugin64 (.ok (bs ++ rest)) =
        (e, .ok rest) :=
  (messages_deserialize_serialize .plugin64).1 _
    (by simp [Event.WithinLimits, EventPayload.WithinLimits, maxStringLength])

/-- **The encoder and the decoder of one build agree on what is admissible.** For each of the
five messages: the encoder produces a frame exactly when the message is within the declared
maxima, so a value that breaks one is rejected when it is encoded; and every frame the
encoder produces is deserialized by the same build, into any destination, without error and
to its last byte. `Parameter` and `ParameterResult` have no maximum and always encode. -/
theorem messages_encoder_admits_decodable (b : Build) :
    (∀ m : Event L, ((m.serialize b).isSome ↔ m.WithinLimits b) ∧
      ∀ bs, m.serialize b = some bs → ∀ d : Event L, (d.deserialize b (.ok bs)).2 = .ok []) ∧
    (∀ m : EventResult L, (m.serialize.isSome ↔ m.WithinLimits) ∧
      ∀ bs, m.serialize = some bs → ∀ d : EventResult L, (d.deserialize (.ok bs)).2 = .ok []) ∧
    (∀ m d : Parameter, (d.deserialize (.ok m.serialize)).2 = .ok []) ∧
    (∀ m d : ParameterResult, (d.deserialize (.ok m.serialize)).2 = .ok []) ∧
    (∀ m : AudioBuffers, (m.serialize.isSome ↔ m.WithinLimits) ∧
      ∀ bs, m.serialize = some bs → ∀ d : AudioBuffers, (d.deserialize (.ok bs)).2 = .ok []) := by
  refine ⟨fun m => ⟨Event.serialize_isSome b m, fun bs h d => ?_⟩,
    fun m => ⟨EventResult.serialize_isSome m, fun bs h d => ?_⟩, fun m d => ?_, fun m d => ?_,
    fun m => ⟨AudioBuffers.serialize_isSome m, fun bs h d => ?_⟩⟩
  · rw [Event.deserialize_frame h]
  · rw [EventResult.deserialize_frame h]
  · rw [Parameter.deserialize_frame]
  · rw [ParameterResult.deserialize_frame]
  · rw [AudioBuffers.deserialize_frame h]

end Yabridge
