import Yabridge.Serialization.Messages

/-!
# `Yabridge.Proofs.Canonical`: which byte strings the decoders accept

The round trips say that every frame the encoder writes is read back. This module asks the
converse: is every byte string a decoder accepts a frame the encoder writes? For a reader with
the law `ReadsOnlyFrames`, a decode that leaves the adapter healthy consumed exactly the frame
of the value it yields, so together with the round trip the decoder accepts a byte string
exactly when it is such a frame (`ReadsOnlyFrames.ok_iff`).

`Parameter` and `ParameterResult` are made of fixed-width values and one presence flag, and all
of them have the law (`readsOnlyFrames_readValue`, `readsOnlyFrames_readBool`,
`ReadsOnlyFrames.optional`). So each value has one frame, and a flag byte other than `0` and `1`
is never accepted. `Event`, `EventResult` and `AudioBuffers` start a variable part with a size
prefix, which the library also reads when a small size is written in the two-byte form `0x80 k`.
So each of them has a value with a second frame that the encoder never writes.
`parameter_frames_canonical` states both halves.
-/

set_option autoImplicit false

namespace Yabridge

open Bitsery Deserializer

variable {L : ArraySizes}

/-- **Which frames the decoders accept.** A `Parameter` or `ParameterResult` decode from a byte
string, into any destination, yields a value and leaves `rest` exactly when the byte string is
that value's frame followed by `rest`: the decoder accepts the frames the encoder writes and no
others, so each value has one frame and a flag byte other than `0` and `1` is never accepted.
The three messages with a size prefix are not canonical: for every build, each has a value
that the decoder also reads, completely and into any destination, from a byte string its
encoder does not write, with the discriminant or the channel count in the two-byte form. -/
theorem parameter_frames_canonical :
    (∀ (d p : Parameter) (bs rest : List UInt8),
      d.deserialize (.ok bs) = (p, .ok rest) ↔ bs = p.serialize ++ rest) ∧
    (∀ (d r : ParameterResult) (bs rest : List UInt8),
      d.deserialize (.ok bs) = (r, .ok rest) ↔ bs = r.serialize ++ rest) ∧
    (∀ b : Build, ∃ (m : Event L) (bs : List UInt8),
      (∀ d : Event L, d.deserialize b (.ok bs) = (m, .ok [])) ∧ m.serialize b ≠ some bs) ∧
    (∃ (m : EventResult L) (bs : List UInt8),
      (∀ d : EventResult L, d.deserialize (.ok bs) = (m, .ok [])) ∧ m.serialize ≠ some bs) ∧
    (∃ (m : AudioBuffers) (bs : List UInt8),
      (∀ d : AudioBuffers, d.deserialize (.ok bs) = (m, .ok [])) ∧ m.serialize ≠ some bs) := by
  refine ⟨fun d => d.readsOnlyFrames.ok_iff (Parameter.deserialize_serialize d),
    fun d => d.readsOnlyFrames.ok_iff (ParameterResult.deserialize_serialize d),
    fun b => ⟨⟨0, 0, 0, 0, .nullptr⟩, List.replicate 20 0 ++ [0x80, 0], fun d => by rfl, ?_⟩,
    ⟨⟨0, .nullptr⟩, List.replicate 8 0 ++ [0x80, 0], fun d => by rfl, ?_⟩,
    ⟨⟨[], 0⟩, [0x80, 0, 0, 0, 0, 0], fun d => ?_, by decide⟩⟩
  -- the encoder writes the discriminant `0` in one byte
  · simp [Event.serialize, EventPayload.serialize, EventPayload.serializeAlternative,
      EventPayload.index]
    decide
  · simp [EventResult.serialize, EventResposnePayload.serialize,
      EventResposnePayload.serializeAlternative, EventResposnePayload.index]
    decide
  -- no channel is read, whatever the destination held
  · have h0 : readSize maxAudioChannels (.ok [0x80, 0, 0, 0, 0, 0]) = (0, .ok [0, 0, 0, 0]) := rfl
    simp only [AudioBuffers.deserialize, readContainer, bind_apply, h0, resize, List.take_zero,
      Nat.zero_sub, List.replicate_zero, List.append_nil]
    rfl

/-- The set-parameter request for index 3 and the value `0.75` (bits `0x3F400000`) is read from
its nine bytes into a destination that held the get request for parameter 0. -/
theorem set_parameter_request_decodes :
    (⟨0, none⟩ : Parameter).deserialize (.ok [3, 0, 0, 0, 1, 0, 0, 0x40, 0x3F]) =
      (⟨3, some 0x3F400000⟩, .ok []) :=
  ((parameter_frames_canonical (L := ArraySizes.vendored)).1 _ _ _ _).mpr rfl

end Yabridge
