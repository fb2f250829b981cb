import Yabridge.Serialization.Messages

/-!
# `Yabridge.Proofs.FrameSize`: frames that carry a chunk

`binary_buffer_size` is documented as "the size for a buffer in which we're receiving chunks",
allowing 50 MB chunks, and the same constant is the maximum of the blob container. A chunk
travels inside an `Event` (`effSetChunk`) or an `EventResult` (`effGetChunk`), whose frame adds
the scalar header, the discriminant and the blob's size prefix to the chunk.

`Event.length_serialize_bytes` and `EventResult.length_serialize_bytes` give the frame's length
for a chunk of at least `0x4000` bytes: the chunk plus 25 bytes for an `Event`, plus 13 for an
`EventResult`. `chunk_frames_exceed_binaryBufferSize` evaluates them at a chunk of exactly
`binary_buffer_size` bytes, which the encoder accepts.
-/

set_option autoImplicit false

namespace Yabridge

open Bitsery

variable {L : ArraySizes}

/-- A blob within its maximum travels as the discriminant `2`, its size and its bytes. -/
theorem EventPayload.serialize_bytes (b : Build) {buffer : List UInt8}
    (hle : buffer.length ≤ binaryBufferSize) :
    (EventPayload.bytes buffer : EventPayload L).serialize b =
      some (writeSize 2 ++ (writeSize buffer.length ++ buffer)) := by
  simp [EventPayload.serialize, EventPayload.serializeAlternative, writeBlob, hle,
    EventPayload.index]

/-- A response blob within its maximum travels as the discriminant `2`, its size and its
bytes. -/
theorem EventResposnePayload.serialize_bytes {buffer : List UInt8}
    (hle : buffer.length ≤ binaryBufferSize) :
    (EventResposnePayload.bytes buffer : EventResposnePayload L).serialize =
      some (writeSize 2 ++ (writeSize buffer.length ++ buffer)) := by
  simp [EventResposnePayload.serialize, EventResposnePayload.serializeAlternative, writeBlob, hle,
    EventResposnePayload.index]

/-- The blob's frame for `0x4000` or more bytes: a 1-byte discriminant, a 4-byte size prefix
and the bytes. -/
theorem length_blob_frame {buffer : List UInt8} (hbig : 0x4000 ≤ buffer.length) :
    (writeSize 2 ++ (writeSize buffer.length ++ buffer)).length = buffer.length + 5 := by
  simp [length_writeSize_of_le hbig, writeSize_of_lt (show 2 < 0x80 by decide)]
  omega

/-- An `Event` carrying a chunk of `0x4000` or more bytes has a frame 25 bytes longer. -/
theorem Event.length_serialize_bytes (b : Build) (opcode index option : BitVec 32)
    (value : BitVec 64) {buffer : List UInt8} (hle : buffer.length ≤ binaryBufferSize)
    (hbig : 0x4000 ≤ buffer.length) :
    ∃ bs, (⟨opcode, index, value, option, .bytes buffer⟩ : Event L).serialize b = some bs ∧
      bs.length = buffer.length + 25 := by
  refine ⟨_, by rw [Event.serialize, EventPayload.serialize_bytes b hle]; rfl, ?_⟩
  simp only [List.length_append, length_writeValue, length_blob_frame hbig]
  omega

/-- An `EventResult` carrying a chunk of `0x4000` or more bytes has a frame 13 bytes longer. -/
theorem EventResult.length_serialize_bytes (returnValue : BitVec 64) {buffer : List UInt8}
    (hle : buffer.length ≤ binaryBufferSize) (hbig : 0x4000 ≤ buffer.length) :
    ∃ bs, (⟨returnValue, .bytes buffer⟩ : EventResult L).serialize = some bs ∧
      bs.length = buffer.length + 13 := by
  refine ⟨_, by rw [EventResult.serialize, EventResposnePayload.serialize_bytes hle]; rfl, ?_⟩
  simp only [List.length_append, length_writeValue, length_blob_frame hbig]
  omega

/-- A chunk of exactly `binary_buffer_size` bytes is admissible in an `Event` and in an
`EventResult`, and their frames are 52,428,825 and 52,428,813 bytes: longer than a buffer of
`binary_buffer_size` bytes. -/
theorem chunk_frames_exceed_binaryBufferSize (b : Build) :
    (⟨0, 0, 0, 0, .bytes (List.replicate binaryBufferSize 0)⟩ : Event L).WithinLimits b ∧
    (∃ bs, (⟨0, 0, 0, 0, .bytes (List.replicate binaryBufferSize 0)⟩ : Event L).serialize b =
      some bs ∧ bs.length = 52428825) ∧
    (⟨0, .bytes (List.replicate binaryBufferSize 0)⟩ : EventResult L).WithinLimits ∧
    (∃ bs, (⟨0, .bytes (List.replicate binaryBufferSize 0)⟩ : EventResult L).serialize =
      some bs ∧ bs.length = 52428813) := by
  have hle : (List.replicate binaryBufferSize (0 : UInt8)).length ≤ binaryBufferSize :=
    Nat.le_of_eq (List.length_replicate _ _)
  have hbig : 0x4000 ≤ (List.replicate binaryBufferSize (0 : UInt8)).length := by
    rw [List.length_replicate, binaryBufferSize_eq]; decide
  obtain ⟨bs, h, hlen⟩ := Event.length_serialize_bytes b 0 0 0 0 hle hbig
  obtain ⟨bs', h', hlen'⟩ := EventResult.length_serialize_bytes 0 hle hbig
  rw [List.length_replicate, binaryBufferSize_eq] at hlen hlen'
  exact ⟨hle, ⟨bs, h, hlen⟩, hle, ⟨bs', h', hlen'⟩⟩

end Yabridge
