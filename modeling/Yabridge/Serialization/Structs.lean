import Yabridge.Bitsery.Containers

/-!
# `Yabridge.Serialization.Structs`: the limits and the fixed-layout structs

The constants at the top of `src/common/serialization.h`, the two builds that instantiate it,
and the `serialize` functions of the plugin-interface structs (lines 86-165): `AEffect`,
`VstIOProperties`, `VstMidiKeyName`, `VstParameterProperties`, `VstRect` and `VstTimeInfo`.

Each struct gets the two instantiations of its `serialize` template: `serialize` writes the
fields in the source's order, and `deserialize` reads them in the same order into the
destination it is given. Every struct except `AEffect` has all its fields on the wire, so its
round trip gives back the value itself, whatever the destination held
(`VstRect.deserialize_serialize`, ...). `AEffect` keeps the destination's pointer fields:
`AEffect.deserialize_serialize` reads back `b.merge a`, the destination `b` with the twelve
numeric fields of `a`.

The structs are declared in the vendored interface headers, not in `src/`. Their numeric fields
are the ones `serialize` names, at the widths its `valueNb` calls fix. The sizes of their
`char` arrays are not visible in `src/`; they are the fields of `ArraySizes`, a parameter of
every type that holds an array, so that every result holds for any sizes.
-/

set_option autoImplicit false

namespace Yabridge

open Bitsery Deserializer

/-! ### Limits and builds -/

/-- `max_audio_channels`: the maximum number of audio channels supported. -/
def maxAudioChannels : Nat := 32

/-- `max_buffer_size`: the maximum number of samples in a buffer. -/
def maxBufferSize : Nat := 16384

/-- `max_string_length`: the maximum size of a string passed through a void pointer. -/
def maxStringLength : Nat := 64

/-- `binary_buffer_size`: the size of a buffer in which chunks are received, 50 MB. -/
def binaryBufferSize : Nat := 50 <<< 20

/-- One compilation of the header. The only property of the target it reads is
`sizeof(size_t)`, in `max_midi_events`. -/
structure Build where
  sizeofSizeT : Nat

/-- The native plugin, and the 64-bit Wine host: `size_t` is `uint64_t`, as the header's
`static_assert` checks outside Wine. -/
def Build.plugin64 : Build := ⟨8⟩

/-- The 32-bit Wine host of the bit bridge, built with `-m32` under `__WINE__`, where the
`static_assert` is skipped and `size_t` is 4 bytes. -/
def Build.host32 : Build := ⟨4⟩

/-- `max_midi_events = max_buffer_size / sizeof(size_t)`: the maximum number of MIDI events in a
single `VstEvents` struct. -/
def maxMidiEvents (b : Build) : Nat := maxBufferSize / b.sizeofSizeT

/-- `50 << 20` is 52,428,800 bytes. -/
theorem binaryBufferSize_eq : binaryBufferSize = 52428800 := rfl

/-- The plugin's MIDI maximum, 16384 / 8. -/
@[simp] theorem maxMidiEvents_plugin64 : maxMidiEvents .plugin64 = 2048 := rfl

/-- The 32-bit host's MIDI maximum, 16384 / 4. -/
@[simp] theorem maxMidiEvents_host32 : maxMidiEvents .host32 = 4096 := rfl

/-- Every maximum of the schema fits the library's size prefix. -/
theorem maxMidiEvents_lt (b : Build) : maxMidiEvents b < 2 ^ 30 :=
  Nat.lt_of_le_of_lt (Nat.div_le_self _ _) (by decide)

/-- The sizes of the `char` arrays of the interface structs, declared in the vendored headers. -/
structure ArraySizes where
  /-- `VstIOProperties::data` -/
  ioProperties : Nat
  /-- `VstMidiKeyName::data` -/
  midiKeyName : Nat
  /-- `VstParameterProperties::label` -/
  label : Nat
  /-- `VstParameterProperties::shortLabel` -/
  shortLabel : Nat
  /-- `VstParameterProperties::categoryLabel` -/
  categoryLabel : Nat
  /-- `VstParameterProperties::future` -/
  future : Nat
  /-- `VstTimeInfo::empty3` -/
  timeInfoEmpty3 : Nat
  /-- `VstEvent::dump` -/
  eventDump : Nat

/-- The layout of the vendored headers the source includes (`vestige/aeffectx.h`, `vst24.h`):
`VstIOProperties` and `VstMidiKeyName` are 128 and 80 bytes, `VstParameterProperties` has
labels of 64, 8 and 24 bytes and 16 `future` bytes, `VstTimeInfo::empty3` is 12 bytes, and
`VstEvent::dump` is 32, the size of a `VstMidiEvent`. Every result holds for any layout; the
concrete frames of the proofs are built with this one. -/
def ArraySizes.vendored : ArraySizes := ⟨128, 80, 64, 8, 24, 16, 12, 32⟩

variable {L : ArraySizes}

/-! ### `AEffect` -/

/-- `AEffect`, the plugin descriptor. The twelve 4-byte fields are the ones
`serialize(S&, AEffect&)` names (`unkown_float` as its bit pattern). The pointer fields are
addresses; the schema never reads or writes them. -/
structure AEffect where
  magic : BitVec 32
  dispatcher : Nat
  process : Nat
  setParameter : Nat
  getParameter : Nat
  numPrograms : BitVec 32
  numParams : BitVec 32
  numInputs : BitVec 32
  numOutputs : BitVec 32
  flags : BitVec 32
  ptr1 : Nat
  ptr2 : Nat
  initialDelay : BitVec 32
  empty3a : BitVec 32
  empty3b : BitVec 32
  unkownFloat : BitVec 32
  ptr3 : Nat
  user : Nat
  uniqueID : BitVec 32
  version : BitVec 32
  processReplacing : Nat
  deriving DecidableEq, Inhabited

/-- `serialize(S&, AEffect&)` on the output side. -/
def AEffect.serialize (a : AEffect) : List UInt8 :=
  writeValue 4 a.magic ++ writeValue 4 a.numPrograms ++ writeValue 4 a.numParams ++
    writeValue 4 a.numInputs ++ writeValue 4 a.numOutputs ++ writeValue 4 a.flags ++
    writeValue 4 a.initialDelay ++ writeValue 4 a.empty3a ++ writeValue 4 a.empty3b ++
    writeValue 4 a.unkownFloat ++ writeValue 4 a.uniqueID ++ writeValue 4 a.version

/-- `serialize(S&, AEffect&)` on the input side: the twelve fields are read in order into the
destination `a`. -/
def AEffect.deserialize (a : AEffect) : Deserializer AEffect := do
  let magic ← readValue 4
  let numPrograms ← readValue 4
  let numParams ← readValue 4
  let numInputs ← readValue 4
  let numOutputs ← readValue 4
  let flags ← readValue 4
  let initialDelay ← readValue 4
  let empty3a ← readValue 4
  let empty3b ← readValue 4
  let unkownFloat ← readValue 4
  let uniqueID ← readValue 4
  let version ← readValue 4
  pure { a with
    magic, numPrograms, numParams, numInputs, numOutputs, flags, initialDelay, empty3a, empty3b,
    unkownFloat, uniqueID, version }

/-- `b` with the twelve fields the schema carries taken from `a`: what a live descriptor
becomes when `a`'s frame is merged into it. -/
def AEffect.merge (b a : AEffect) : AEffect :=
  { b with
    magic := a.magic, numPrograms := a.numPrograms, numParams := a.numParams,
    numInputs := a.numInputs, numOutputs := a.numOutputs, flags := a.flags,
    initialDelay := a.initialDelay, empty3a := a.empty3a, empty3b := a.empty3b,
    unkownFloat := a.unkownFloat, uniqueID := a.uniqueID, version := a.version }

/-- What a value-initialized `AEffect` holds after `a`'s frame is read into it: `a`'s numeric
fields and null pointers. -/
def AEffect.wire (a : AEffect) : AEffect := (default : AEffect).merge a

/-- A descriptor's frame is its twelve 4-byte fields. -/
@[simp] theorem AEffect.length_serialize (a : AEffect) : a.serialize.length = 48 := by
  simp [AEffect.serialize]

/-- A descriptor's frame merges into any live descriptor: the twelve fields come from the frame
and every other field is kept. -/
theorem AEffect.deserialize_serialize (b a : AEffect) (rest : List UInt8) :
    b.deserialize (.ok (a.serialize ++ rest)) = (b.merge a, .ok rest) := by
  simp only [AEffect.deserialize, AEffect.serialize, List.append_assoc, bind_apply,
    readValue_append, pure_apply]
  rfl

/-! ### Fixed byte blocks -/

/-- `VstIOProperties`, an opaque block of bytes. -/
structure VstIOProperties (L : ArraySizes) where
  data : CArray L.ioProperties
  deriving DecidableEq, Inhabited

/-- `serialize(S&, VstIOProperties&)`: `container1b(props.data)` on a static array writes its
bytes and no size. -/
def VstIOProperties.serialize (props : VstIOProperties L) : List UInt8 := props.data.data

/-- `serialize(S&, VstIOProperties&)` on the input side. -/
def VstIOProperties.deserialize (props : VstIOProperties L) :
    Deserializer (VstIOProperties L) := do
  let data ← readBuffer L.ioProperties
  pure { props with data }

/-- `VstMidiKeyName`, an opaque block of bytes. -/
structure VstMidiKeyName (L : ArraySizes) where
  data : CArray L.midiKeyName
  deriving DecidableEq, Inhabited

/-- `serialize(S&, VstMidiKeyName&)`: `container1b(key_name.data)`. -/
def VstMidiKeyName.serialize (keyName : VstMidiKeyName L) : List UInt8 := keyName.data.data

/-- `serialize(S&, VstMidiKeyName&)` on the input side. -/
def VstMidiKeyName.deserialize (keyName : VstMidiKeyName L) :
    Deserializer (VstMidiKeyName L) := do
  let data ← readBuffer L.midiKeyName
  pure { keyName with data }

/-- The I/O properties' bytes read back into any destination, whatever follows them. -/
@[simp] theorem VstIOProperties.deserialize_serialize (d props : VstIOProperties L)
    (rest : List UInt8) : d.deserialize (.ok (props.serialize ++ rest)) = (props, .ok rest) := by
  simp [VstIOProperties.deserialize, VstIOProperties.serialize]

/-- The key name's bytes read back into any destination, whatever follows them. -/
@[simp] theorem VstMidiKeyName.deserialize_serialize (d keyName : VstMidiKeyName L)
    (rest : List UInt8) :
    d.deserialize (.ok (keyName.serialize ++ rest)) = (keyName, .ok rest) := by
  simp [VstMidiKeyName.deserialize, VstMidiKeyName.serialize]

/-! ### `VstParameterProperties` -/

/-- `VstParameterProperties`: the fields `serialize` names, floats as bit patterns. -/
structure VstParameterProperties (L : ArraySizes) where
  stepFloat : BitVec 32
  smallStepFloat : BitVec 32
  largeStepFloat : BitVec 32
  label : CArray L.label
  flags : BitVec 32
  minInteger : BitVec 32
  maxInteger : BitVec 32
  stepInteger : BitVec 32
  largeStepInteger : BitVec 32
  shortLabel : CArray L.shortLabel
  displayIndex : BitVec 16
  category : BitVec 16
  numParametersInCategory : BitVec 16
  reserved : BitVec 16
  categoryLabel : CArray L.categoryLabel
  future : CArray L.future
  deriving DecidableEq, Inhabited

/-- `serialize(S&, VstParameterProperties&)` on the output side. -/
def VstParameterProperties.serialize (props : VstParameterProperties L) : List UInt8 :=
  writeValue 4 props.stepFloat ++ writeValue 4 props.smallStepFloat ++
    writeValue 4 props.largeStepFloat ++ props.label.data ++ writeValue 4 props.flags ++
    writeValue 4 props.minInteger ++ writeValue 4 props.maxInteger ++
    writeValue 4 props.stepInteger ++ writeValue 4 props.largeStepInteger ++
    props.shortLabel.data ++ writeValue 2 props.displayIndex ++ writeValue 2 props.category ++
    writeValue 2 props.numParametersInCategory ++ writeValue 2 props.reserved ++
    props.categoryLabel.data ++ props.future.data

/-- `serialize(S&, VstParameterProperties&)` on the input side. -/
def VstParameterProperties.deserialize (props : VstParameterProperties L) :
    Deserializer (VstParameterProperties L) := do
  let stepFloat ← readValue 4
  let smallStepFloat ← readValue 4
  let largeStepFloat ← readValue 4
  let label ← readBuffer L.label
  let flags ← readValue 4
  let minInteger ← readValue 4
  let maxInteger ← readValue 4
  let stepInteger ← readValue 4
  let largeStepInteger ← readValue 4
  let shortLabel ← readBuffer L.shortLabel
  let displayIndex ← readValue 2
  let category ← readValue 2
  let numParametersInCategory ← readValue 2
  let reserved ← readValue 2
  let categoryLabel ← readBuffer L.categoryLabel
  let future ← readBuffer L.future
  pure { props with
    stepFloat, smallStepFloat, largeStepFloat, label, flags, minInteger, maxInteger, stepInteger,
    largeStepInteger, shortLabel, displayIndex, category, numParametersInCategory, reserved,
    categoryLabel, future }

/-- The parameter properties read back into any destination, whatever follows them. -/
@[simp] theorem VstParameterProperties.deserialize_serialize (d props : VstParameterProperties L)
    (rest : List UInt8) : d.deserialize (.ok (props.serialize ++ rest)) = (props, .ok rest) := by
  simp only [VstParameterProperties.deserialize, VstParameterProperties.serialize,
    List.append_assoc, bind_apply, readValue_append, readBuffer_append, pure_apply]

/-! ### `VstRect` and `VstTimeInfo` -/

/-- `VstRect`: four 2-byte fields. -/
structure VstRect where
  top : BitVec 16
  left : BitVec 16
  right : BitVec 16
  bottom : BitVec 16
  deriving DecidableEq, Inhabited

/-- `serialize(S&, VstRect&)` on the output side. -/
def VstRect.serialize (rect : VstRect) : List UInt8 :=
  writeValue 2 rect.top ++ writeValue 2 rect.left ++ writeValue 2 rect.right ++
    writeValue 2 rect.bottom

/-- `serialize(S&, VstRect&)` on the input side. -/
def VstRect.deserialize (rect : VstRect) : Deserializer VstRect := do
  let top ← readValue 2
  let left ← readValue 2
  let right ← readValue 2
  let bottom ← readValue 2
  pure { rect with top, left, right, bottom }

/-- A rectangle reads back into any destination, whatever follows it. -/
@[simp] theorem VstRect.deserialize_serialize (d rect : VstRect) (rest : List UInt8) :
    d.deserialize (.ok (rect.serialize ++ rest)) = (rect, .ok rest) := by
  simp [VstRect.deserialize, VstRect.serialize, List.append_assoc]

/-- `VstTimeInfo`: the 8-byte fields are doubles, as bit patterns. -/
structure VstTimeInfo (L : ArraySizes) where
  samplePos : BitVec 64
  sampleRate : BitVec 64
  nanoSeconds : BitVec 64
  ppqPos : BitVec 64
  tempo : BitVec 64
  barStartPos : BitVec 64
  cycleStartPos : BitVec 64
  cycleEndPos : BitVec 64
  timeSigNumerator : BitVec 32
  timeSigDenominator : BitVec 32
  empty3 : CArray L.timeInfoEmpty3
  flags : BitVec 32
  deriving DecidableEq, Inhabited

/-- `serialize(S&, VstTimeInfo&)` on the output side. -/
def VstTimeInfo.serialize (timeInfo : VstTimeInfo L) : List UInt8 :=
  writeValue 8 timeInfo.samplePos ++ writeValue 8 timeInfo.sampleRate ++
    writeValue 8 timeInfo.nanoSeconds ++ writeValue 8 timeInfo.ppqPos ++
    writeValue 8 timeInfo.tempo ++ writeValue 8 timeInfo.barStartPos ++
    writeValue 8 timeInfo.cycleStartPos ++ writeValue 8 timeInfo.cycleEndPos ++
    writeValue 4 timeInfo.timeSigNumerator ++ writeValue 4 timeInfo.timeSigDenominator ++
    timeInfo.empty3.data ++ writeValue 4 timeInfo.flags

/-- `serialize(S&, VstTimeInfo&)` on the input side. -/
def VstTimeInfo.deserialize (timeInfo : VstTimeInfo L) : Deserializer (VstTimeInfo L) := do
  let samplePos ← readValue 8
  let sampleRate ← readValue 8
  let nanoSeconds ← readValue 8
  let ppqPos ← readValue 8
  let tempo ← readValue 8
  let barStartPos ← readValue 8
  let cycleStartPos ← readValue 8
  let cycleEndPos ← readValue 8
  let timeSigNumerator ← readValue 4
  let timeSigDenominator ← readValue 4
  let empty3 ← readBuffer L.timeInfoEmpty3
  let flags ← readValue 4
  pure { timeInfo with
    samplePos, sampleRate, nanoSeconds, ppqPos, tempo, barStartPos, cycleStartPos, cycleEndPos,
    timeSigNumerator, timeSigDenominator, empty3, flags }

/-- The time info reads back into any destination, whatever follows it. -/
@[simp] theorem VstTimeInfo.deserialize_serialize (d timeInfo : VstTimeInfo L)
    (rest : List UInt8) :
    d.deserialize (.ok (timeInfo.serialize ++ rest)) = (timeInfo, .ok rest) := by
  simp only [VstTimeInfo.deserialize, VstTimeInfo.serialize, List.append_assoc, bind_apply,
    readValue_append, readBuffer_append, pure_apply]

end Yabridge
