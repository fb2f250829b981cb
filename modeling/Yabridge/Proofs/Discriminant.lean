import Yabridge.Serialization.Messages

/-!
# `Yabridge.Proofs.Discriminant`: out-of-range discriminants

An `Event`'s payload discriminant sits right after its 20-byte header, an `EventResult`'s
after its 8-byte return value. `payload_discriminant_out_of_range` shows that a frame whose
discriminant encodes an index of 13 or more (9 or more for the response payload) is rejected,
whatever the header bytes, the bytes after the discriminant and the destination are: the
adapter ends failed, so the decode neither yields a value-initialized alternative nor the one
the destination held.

The header is read by `readValue_of_le`, one field at a time; the discriminant by
`readIndex_of_le`, which fails the adapter and selects the empty alternative `0`, whose
overload reads nothing.
-/

set_option autoImplicit false

namespace Yabridge

open Bitsery Deserializer

variable {L : ArraySizes}

/-- An input too short to hold a discriminant reads as the index `0`. -/
theorem readSizeBytes_nil : (readSizeBytes (.ok [])).1 = 0 := rfl

/-- A discriminant of `k > 0` after `n` bytes: the input holds those `n` bytes. -/
theorem le_length_of_le_readSizeBytes {n k : Nat} {bs : List UInt8} (hk : 0 < k)
    (h : k ≤ (readSizeBytes (.ok (bs.drop n))).1) : n ≤ bs.length := by
  refine Nat.le_of_not_lt fun hlt => ?_
  rw [List.drop_eq_nil_of_le (by omega), readSizeBytes_nil] at h
  omega

/-- A payload whose discriminant encodes `13` or more fails the adapter. -/
theorem EventPayload.deserialize_of_index_le {b : Build} (payload : EventPayload L)
    {bs : List UInt8} (h : 13 ≤ (readSizeBytes (.ok bs)).1) :
    (payload.deserialize b (.ok bs)).2.isOk = false := by
  obtain ⟨e, he⟩ := readIndex_of_le (by decide) h
  simp [EventPayload.deserialize, he, EventPayload.deserializeAlternative]

/-- A response payload whose discriminant encodes `9` or more fails the adapter. -/
theorem EventResposnePayload.deserialize_of_index_le (payload : EventResposnePayload L)
    {bs : List UInt8} (h : 9 ≤ (readSizeBytes (.ok bs)).1) :
    (payload.deserialize (.ok bs)).2.isOk = false := by
  obtain ⟨e, he⟩ := readIndex_of_le (by decide) h
  simp [EventResposnePayload.deserialize, he, EventResposnePayload.deserializeAlternative]

/-- **Out-of-range discriminants are rejected.** Take any byte string whose bytes after the
header encode, as a discriminant, an index of at least the number of alternatives: `13` for
`EventPayload` after an `Event`'s 20 header bytes, `9` for `EventResposnePayload` after an
`EventResult`'s 8. Deserializing the enclosing message from it fails, for every build and every
destination. -/
theorem payload_discriminant_out_of_range :
    (∀ (b : Build) (d : Event L) (bs : List UInt8), 13 ≤ (readSizeBytes (.ok (bs.drop 20))).1 →
      (d.deserialize b (.ok bs)).2.isOk = false) ∧
    (∀ (d : EventResult L) (bs : List UInt8), 9 ≤ (readSizeBytes (.ok (bs.drop 8))).1 →
      (d.deserialize (.ok bs)).2.isOk = false) := by
  constructor
  · intro b d bs h
    have hlen : 20 ≤ bs.length := le_length_of_le_readSizeBytes (by decide) h
    simp only [Event.deserialize, bind_apply, readValue_snd_of_le 4 bs (by omega),
      readValue_snd_of_le 4 (bs.drop 4) (by simp; omega), List.drop_drop,
      readValue_snd_of_le 8 (bs.drop 8) (by simp; omega),
      readValue_snd_of_le 4 (bs.drop 16) (by simp; omega)]
    simpa using EventPayload.deserialize_of_index_le d.payload h
  · intro d bs h
    simp only [EventResult.deserialize, bind_apply,
      readValue_snd_of_le 8 bs (le_length_of_le_readSizeBytes (by decide) h)]
    simpa using EventResposnePayload.deserialize_of_index_le d.payload h

/-- Twenty zero header bytes and the discriminant `13`, one past the last alternative: the
plugin's decode of an `Event` fails. -/
theorem payload_discriminant_thirteen :
    13 ≤ (readSizeBytes (.ok ((List.replicate 20 0 ++ [13] : List UInt8).drop 20))).1 ∧
    ((⟨0, 0, 0, 0, .nullptr⟩ : Event ⟨0, 0, 0, 0, 0, 0, 0, 0⟩).deserialize .plugin64
      (.ok (List.replicate 20 0 ++ [13]))).2.isOk = false :=
  ⟨by decide, payload_discriminant_out_of_range.1 _ _ _ (by decide)⟩

end Yabridge
