import Yabridge.Serialization.Structs

/-!
# `Yabridge.Serialization.Payloads`: the MIDI batch and the two payload unions

`DynamicVstEvents` and the two `std::variant`s of `src/common/serialization.h`: `EventPayload`
(13 alternatives, lines 265-304) and `EventResposnePayload` (9 alternatives, lines 354-381).

A variant travels as its discriminant (`writeSize` of `index()`) followed by the alternative,
written by the overload of the `StdVariant` extension that matches its type. On the input
side the library reads the discriminant, deserializes a value-initialized object of the
alternative it selects, and assigns it to the destination. So what the destination held never
reaches the result, and an `AEffect` alternative comes back with null pointers: the round
trips (`EventPayload.deserialize_serialize`, `EventResposnePayload.deserialize_serialize`) read
back `p.wire`, which is `p` with those pointers cleared.

`WithinLimits` states the maxima the overloads pass to the library; the encoder accepts a
payload exactly when it respects them (`EventPayload.serialize_isSome`). The only maximum that
depends on the build is the MIDI batch's, `maxMidiEvents b`.
-/

set_option autoImplicit false

namespace Yabridge

open Bitsery Deserializer

variable {L : ArraySizes}

/-! ### `DynamicVstEvents` -/

/-- `VstEvent`, an opaque block of bytes. -/
structure VstEvent (L : ArraySizes) where
  dump : CArray L.eventDump
  deriving DecidableEq, Inhabited

/-- The element function of the batch: `container1b(event.dump)`. -/
def VstEvent.serialize (event : VstEvent L) : Option (List UInt8) := some event.dump.data

/-- `container1b(event.dump)` on the input side. -/
def VstEvent.deserialize (event : VstEvent L) : Deserializer (VstEvent L) := do
  let dump ← readBuffer L.eventDump
  pure { event with dump }

/-- `DynamicVstEvents`: the batch of MIDI events as a vector. Its `vst_events_buffer` is scratch
space for `as_c_events()` and never serialized. -/
structure DynamicVstEvents (L : ArraySizes) where
  events : List (VstEvent L)
  deriving DecidableEq, Inhabited

/-- The `DynamicVstEvents` overload of `serialize(S&, EventPayload&)`:
`container(events.events, max_midi_events, ...)`. -/
def DynamicVstEvents.serialize (b : Build) (events : DynamicVstEvents L) : Option (List UInt8) :=
  writeContainer (maxMidiEvents b) VstEvent.serialize events.events

/-- The `DynamicVstEvents` overload on the input side. -/
def DynamicVstEvents.deserialize (b : Build) (events : DynamicVstEvents L) :
    Deserializer (DynamicVstEvents L) := do
  let es ← readContainer (maxMidiEvents b) VstEvent.deserialize default events.events
  pure { events with events := es }

/-- A MIDI event's bytes read back into any destination. -/
theorem VstEvent.readsBack : ReadsBack (@VstEvent.serialize L) VstEvent.deserialize := by
  intro event bs h d rest
  cases h
  simp [VstEvent.deserialize]

/-- A batch the build accepts reads back, into any destination and whatever follows it. -/
theorem DynamicVstEvents.deserialize_serialize {b : Build} {events : DynamicVstEvents L}
    {bs : List UInt8} (h : events.serialize b = some bs) (d : DynamicVstEvents L)
    (rest : List UInt8) :
    DynamicVstEvents.deserialize b d (.ok (bs ++ rest)) = (events, .ok rest) := by
  have := readsBack_container (maxMidiEvents_lt b) default VstEvent.readsBack _ _ h d.events rest
  simp [DynamicVstEvents.deserialize, this]

/-- The batch's writer accepts exactly the batches of at most `maxMidiEvents b` events. -/
theorem DynamicVstEvents.serialize_isSome (b : Build) (events : DynamicVstEvents L) :
    (events.serialize b).isSome ↔ events.events.length ≤ maxMidiEvents b := by
  simp [DynamicVstEvents.serialize, writeContainer_isSome, VstEvent.serialize]

/-! ### `EventPayload` -/

/-- `EventPayload`, in the order of the `std::variant`'s alternatives. -/
inductive EventPayload (L : ArraySizes) where
  | nullptr
  | string (string : List UInt8)
  | bytes (buffer : List UInt8)
  | nativeSize (windowHandle : BitVec 64)
  | aEffect (effect : AEffect)
  | dynamicVstEvents (events : DynamicVstEvents L)
  | wantsChunkBuffer
  | vstIOProperties (props : VstIOProperties L)
  | vstMidiKeyName (keyName : VstMidiKeyName L)
  | vstParameterProperties (props : VstParameterProperties L)
  | wantsVstRect
  | wantsVstTimeInfo
  | wantsString
  deriving DecidableEq

/-- `std::variant::index()`. -/
def EventPayload.index : EventPayload L → Nat
  | .nullptr => 0
  | .string _ => 1
  | .bytes _ => 2
  | .nativeSize _ => 3
  | .aEffect _ => 4
  | .dynamicVstEvents _ => 5
  | .wantsChunkBuffer => 6
  | .vstIOProperties _ => 7
  | .vstMidiKeyName _ => 8
  | .vstParameterProperties _ => 9
  | .wantsVstRect => 10
  | .wantsVstTimeInfo => 11
  | .wantsString => 12

/-- The overload of `serialize(S&, EventPayload&)` that matches the alternative's type. -/
def EventPayload.serializeAlternative (b : Build) : EventPayload L → Option (List UInt8)
  | .nullptr => some []
  | .string str => writeBlob maxStringLength str
  | .bytes buffer => writeBlob binaryBufferSize buffer
  | .nativeSize windowHandle => some (writeValue 8 windowHandle)
  | .aEffect effect => some effect.serialize
  | .dynamicVstEvents events => events.serialize b
  | .wantsChunkBuffer => some []
  | .vstIOProperties props => some props.serialize
  | .vstMidiKeyName keyName => some keyName.serialize
  | .vstParameterProperties props => some props.serialize
  | .wantsVstRect => some []
  | .wantsVstTimeInfo => some []
  | .wantsString => some []

/-- `serialize(S&, EventPayload&)` on the output side: the discriminant, then the alternative. -/
def EventPayload.serialize (b : Build) (payload : EventPayload L) : Option (List UInt8) :=
  (writeSize payload.index ++ ·) <$> payload.serializeAlternative b

/-- The overloads on the input side: a value-initialized object of the selected alternative is
deserialized and replaces the destination. An index that selects no alternative leaves the
destination as it was (`execIndex` runs no overload). -/
def EventPayload.deserializeAlternative (b : Build) (payload : EventPayload L) :
    Nat → Deserializer (EventPayload L)
  | 0 => pure .nullptr
  | 1 => .string <$> readBlob maxStringLength
  | 2 => .bytes <$> readBlob binaryBufferSize
  | 3 => .nativeSize <$> readValue 8
  | 4 => .aEffect <$> AEffect.deserialize default
  | 5 => .dynamicVstEvents <$> DynamicVstEvents.deserialize b default
  | 6 => pure .wantsChunkBuffer
  | 7 => .vstIOProperties <$> VstIOProperties.deserialize default
  | 8 => .vstMidiKeyName <$> VstMidiKeyName.deserialize default
  | 9 => .vstParameterProperties <$> VstParameterProperties.deserialize default
  | 10 => pure .wantsVstRect
  | 11 => pure .wantsVstTimeInfo
  | 12 => pure .wantsString
  | _ => pure payload

/-- `serialize(S&, EventPayload&)` on the input side. -/
def EventPayload.deserialize (b : Build) (payload : EventPayload L) :
    Deserializer (EventPayload L) := do
  let index ← readIndex 13
  payload.deserializeAlternative b index

/-- The declared maxima of the payload's containers. -/
def EventPayload.WithinLimits (b : Build) : EventPayload L → Prop
  | .string str => str.length ≤ maxStringLength
  | .bytes buffer => buffer.length ≤ binaryBufferSize
  | .dynamicVstEvents events => events.events.length ≤ maxMidiEvents b
  | _ => True

/-- What a decode of the payload's frame yields: the payload, with the pointers of an `AEffect`
alternative cleared. -/
def EventPayload.wire : EventPayload L → EventPayload L
  | .aEffect effect => .aEffect effect.wire
  | payload => payload

/-- The payload's encoder accepts exactly the payloads within the build's maxima. -/
theorem EventPayload.serialize_isSome (b : Build) (payload : EventPayload L) :
    (payload.serialize b).isSome ↔ payload.WithinLimits b := by
  cases payload <;>
    simp [serialize, serializeAlternative, WithinLimits, writeBlob_isSome,
      DynamicVstEvents.serialize_isSome]

/-- Every alternative's index is below the number of alternatives, 13. -/
theorem EventPayload.index_lt (payload : EventPayload L) : payload.index < 13 := by
  cases payload <;> simp [index]

/-- Each overload reads back what it wrote, into a value-initialized object. -/
theorem EventPayload.deserializeAlternative_serializeAlternative {b : Build}
    {payload : EventPayload L} {body : List UInt8} (h : payload.serializeAlternative b = some body)
    (d : EventPayload L) (rest : List UInt8) :
    d.deserializeAlternative b payload.index (.ok (body ++ rest)) = (payload.wire, .ok rest) := by
  cases payload with
  | string str =>
    simp [index, deserializeAlternative, wire, readsBack_blob (by decide) _ _ h [] rest]
  | bytes buffer =>
    simp [index, deserializeAlternative, wire, readsBack_blob (by decide) _ _ h [] rest]
  | dynamicVstEvents events =>
    simp [index, deserializeAlternative, wire, DynamicVstEvents.deserialize_serialize h]
  | _ =>
    simp only [serializeAlternative, Option.some.injEq] at h
    subst h
    simp [index, deserializeAlternative, wire, AEffect.deserialize_serialize, AEffect.wire]

/-- A payload's frame reads back to `payload.wire`, into any destination and whatever follows
it. -/
theorem EventPayload.deserialize_serialize {b : Build} {payload : EventPayload L}
    {bs : List UInt8} (h : payload.serialize b = some bs) (d : EventPayload L)
    (rest : List UInt8) :
    d.deserialize b (.ok (bs ++ rest)) = (payload.wire, .ok rest) := by
  simp only [serialize, Option.map_eq_map, Option.map_eq_some'] at h
  obtain ⟨body, hbody, rfl⟩ := h
  simp only [deserialize, bind_apply, List.append_assoc,
    readIndex_writeSize payload.index_lt (by decide)]
  exact deserializeAlternative_serializeAlternative hbody d rest

/-! ### `EventResposnePayload` -/

/-- `EventResposnePayload`, in the order of the `std::variant`'s alternatives. -/
inductive EventResposnePayload (L : ArraySizes) where
  | nullptr
  | string (string : List UInt8)
  | bytes (buffer : List UInt8)
  | aEffect (effect : AEffect)
  | vstIOProperties (props : VstIOProperties L)
  | vstMidiKeyName (keyName : VstMidiKeyName L)
  | vstParameterProperties (props : VstParameterProperties L)
  | vstRect (rect : VstRect)
  | vstTimeInfo (timeInfo : VstTimeInfo L)
  deriving DecidableEq

/-- `std::variant::index()`. -/
def EventResposnePayload.index : EventResposnePayload L → Nat
  | .nullptr => 0
  | .string _ => 1
  | .bytes _ => 2
  | .aEffect _ => 3
  | .vstIOProperties _ => 4
  | .vstMidiKeyName _ => 5
  | .vstParameterProperties _ => 6
  | .vstRect _ => 7
  | .vstTimeInfo _ => 8

/-- The overload of `serialize(S&, EventResposnePayload&)` that matches the alternative. -/
def EventResposnePayload.serializeAlternative : EventResposnePayload L → Option (List UInt8)
  | .nullptr => some []
  | .string str => writeBlob maxStringLength str
  | .bytes buffer => writeBlob binaryBufferSize buffer
  | .aEffect effect => some effect.serialize
  | .vstIOProperties props => some props.serialize
  | .vstMidiKeyName keyName => some keyName.serialize
  | .vstParameterProperties props => some props.serialize
  | .vstRect rect => some rect.serialize
  | .vstTimeInfo timeInfo => some timeInfo.serialize

/-- `serialize(S&, EventResposnePayload&)` on the output side. -/
def EventResposnePayload.serialize (payload : EventResposnePayload L) : Option (List UInt8) :=
  (writeSize payload.index ++ ·) <$> payload.serializeAlternative

/-- The overloads on the input side, as for `EventPayload`. -/
def EventResposnePayload.deserializeAlternative (payload : EventResposnePayload L) :
    Nat → Deserializer (EventResposnePayload L)
  | 0 => pure .nullptr
  | 1 => .string <$> readBlob maxStringLength
  | 2 => .bytes <$> readBlob binaryBufferSize
  | 3 => .aEffect <$> AEffect.deserialize default
  | 4 => .vstIOProperties <$> VstIOProperties.deserialize default
  | 5 => .vstMidiKeyName <$> VstMidiKeyName.deserialize default
  | 6 => .vstParameterProperties <$> VstParameterProperties.deserialize default
  | 7 => .vstRect <$> VstRect.deserialize default
  | 8 => .vstTimeInfo <$> VstTimeInfo.deserialize default
  | _ => pure payload

/-- `serialize(S&, EventResposnePayload&)` on the input side. -/
def EventResposnePayload.deserialize (payload : EventResposnePayload L) :
    Deserializer (EventResposnePayload L) := do
  let index ← readIndex 9
  payload.deserializeAlternative index

/-- The declared maxima of the response payload's containers. -/
def EventResposnePayload.WithinLimits : EventResposnePayload L → Prop
  | .string str => str.length ≤ maxStringLength
  | .bytes buffer => buffer.length ≤ binaryBufferSize
  | _ => True

/-- What a decode of the response payload's frame yields. -/
def EventResposnePayload.wire : EventResposnePayload L → EventResposnePayload L
  | .aEffect effect => .aEffect effect.wire
  | payload => payload

/-- The response payload's encoder accepts exactly the payloads within the maxima. -/
theorem EventResposnePayload.serialize_isSome (payload : EventResposnePayload L) :
    payload.serialize.isSome ↔ payload.WithinLimits := by
  cases payload <;> simp [serialize, serializeAlternative, WithinLimits, writeBlob_isSome]

/-- Every alternative's index is below the number of alternatives, 9. -/
theorem EventResposnePayload.index_lt (payload : EventResposnePayload L) : payload.index < 9 := by
  cases payload <;> simp [index]

/-- Each overload reads back what it wrote, into a value-initialized object. -/
theorem EventResposnePayload.deserializeAlternative_serializeAlternative
    {payload : EventResposnePayload L} {body : List UInt8}
    (h : payload.serializeAlternative = some body) (d : EventResposnePayload L)
    (rest : List UInt8) :
    d.deserializeAlternative payload.index (.ok (body ++ rest)) = (payload.wire, .ok rest) := by
  cases payload with
  | string str =>
    simp [index, deserializeAlternative, wire, readsBack_blob (by decide) _ _ h [] rest]
  | bytes buffer =>
    simp [index, deserializeAlternative, wire, readsBack_blob (by decide) _ _ h [] rest]
  | _ =>
    simp only [serializeAlternative, Option.some.injEq] at h
    subst h
    simp [index, deserializeAlternative, wire, AEffect.deserialize_serialize, AEffect.wire]

/-- A response payload's frame reads back to `payload.wire`, into any destination and whatever
follows it. -/
theorem EventResposnePayload.deserialize_serialize {payload : EventResposnePayload L}
    {bs : List UInt8} (h : payload.serialize = some bs) (d : EventResposnePayload L)
    (rest : List UInt8) : d.deserialize (.ok (bs ++ rest)) = (payload.wire, .ok rest) := by
  simp only [serialize, Option.map_eq_map, Option.map_eq_some'] at h
  obtain ⟨body, hbody, rfl⟩ := h
  simp only [deserialize, bind_apply, List.append_assoc,
    readIndex_writeSize payload.index_lt (by decide)]
  exact deserializeAlternative_serializeAlternative hbody d rest

end Yabridge
