import Yabridge.Serialization.Messages

/-!
# `Yabridge.Proofs.Reuse`: decoding into a reused object

Both sides keep message objects alive and deserialize each new frame into the one they hold.
`messages_deserialize_independent_of_destination` shows that this reuse leaks nothing: for each
of the five messages, what a decode yields, and whether it fails, is a function of the input
alone. Every field of a message is overwritten; a payload is read into a value-initialized
alternative (the discriminant always selects one of them, `readIndex_lt`); a container is
resized and each element overwritten whole (`readContainer_congr`); and a channel of samples is
overwritten by one read of all its bytes.

The plugin descriptor is the one value built to work the other way: `serialize(S&, AEffect&)`
merges twelve fields into the destination and keeps the rest (`Proofs/AEffect.lean`). Inside
a payload it is read into a fresh `AEffect`, so the messages do not inherit that dependence.
-/

set_option autoImplicit false

namespace Yabridge

open Bitsery Deserializer

variable {L : ArraySizes}

/-- Each overload reads into a value-initialized alternative: only an index that selects none
would return the destination. -/
theorem EventPayload.deserializeAlternative_congr (b : Build) (payload payload' : EventPayload L) :
    ∀ {k}, k < 13 → payload.deserializeAlternative b k = payload'.deserializeAlternative b k
  | 0, _ | 1, _ | 2, _ | 3, _ | 4, _ | 5, _ | 6, _ | 7, _ | 8, _ | 9, _ | 10, _ | 11, _
  | 12, _ => rfl
  | _ + 13, h => absurd h (by omega)

/-- A payload decodes the same into any destination payload. -/
theorem EventPayload.deserialize_congr (b : Build) (payload payload' : EventPayload L) :
    payload.deserialize b = payload'.deserialize b := by
  funext i
  simp only [deserialize, bind_apply,
    deserializeAlternative_congr b payload payload' (readIndex_lt (by decide) i)]

/-- Each response overload reads into a value-initialized alternative: only an index that
selects none would return the destination. -/
theorem EventResposnePayload.deserializeAlternative_congr
    (payload payload' : EventResposnePayload L) :
    ∀ {k}, k < 9 → payload.deserializeAlternative k = payload'.deserializeAlternative k
  | 0, _ | 1, _ | 2, _ | 3, _ | 4, _ | 5, _ | 6, _ | 7, _ | 8, _ => rfl
  | _ + 9, h => absurd h (by omega)

/-- A response payload decodes the same into any destination payload. -/
theorem EventResposnePayload.deserialize_congr (payload payload' : EventResposnePayload L) :
    payload.deserialize = payload'.deserialize := by
  funext i
  simp only [deserialize, bind_apply,
    deserializeAlternative_congr payload payload' (readIndex_lt (by decide) i)]

/-- A channel is read without looking at the samples it held: one `readBuffer` overwrites them
all. -/
theorem AudioBuffers.deserializeBuffer_congr (buffer buffer' : List (BitVec 32)) :
    deserializeBuffer buffer = deserializeBuffer buffer' := rfl

/-- **Decoding does not depend on the destination.** For each of the five messages and every
build, deserializing into any two destinations gives the same value and the same adapter, on
every input, also on one that fails. -/
theorem messages_deserialize_independent_of_destination (b : Build) :
    (∀ d d' : Event L, d.deserialize b = d'.deserialize b) ∧
    (∀ d d' : EventResult L, d.deserialize = d'.deserialize) ∧
    (∀ d d' : Parameter, d.deserialize = d'.deserialize) ∧
    (∀ d d' : ParameterResult, d.deserialize = d'.deserialize) ∧
    (∀ d d' : AudioBuffers, d.deserialize = d'.deserialize) := by
  refine ⟨fun d d' => ?_, fun d d' => ?_, fun _ _ => rfl, fun _ _ => rfl, fun d d' => ?_⟩
  · unfold Event.deserialize
    rw [EventPayload.deserialize_congr b d.payload d'.payload]
  · unfold EventResult.deserialize
    rw [EventResposnePayload.deserialize_congr d.payload d'.payload]
  · unfold AudioBuffers.deserialize
    rw [readContainer_congr AudioBuffers.deserializeBuffer_congr _ _ d.buffers d'.buffers]

end Yabridge
