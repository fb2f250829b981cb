import Yabridge.Bitsery.Values

/-!
# `Yabridge.Bitsery.Containers`: bounded containers, optionals and variant discriminants

The composite encodings of the library that the header uses, each as a writer into
`Option (List UInt8)` and an in-place reader:

* `writeBlob` / `readBlob`: `text1b(str, maxSize)` and `container1b(vec, maxSize)`, a size
  prefix and the bytes;
* `writeContainer` / `readContainer`: `container(obj, maxSize, fnc)`, a size prefix and every
  element by `fnc`. The reader resizes the destination like `std::vector::resize` and then
  deserializes each element in place;
* `writeOptional` / `readOptional`: `ext(opt, StdOptional{}, fnc)`, a presence flag and the
  value when present;
* `readIndex`: the discriminant of `ext(var, StdVariant{...})`, modelled from the spec where
  the library would admit one index past the last alternative.

A writer is `none` when the value breaks the container's maximum. That check is not in
`src/`: the maxima reach the library only as container bounds, and the spec (§7) says an
oversized outgoing payload makes encoding fail explicitly. The definitions that follow the
spec there say so.

`ReadsBack w r` is the round-trip law of one writer/reader pair: `r` reads back, into any
destination, every frame `w` produces, and leaves the bytes after it. Each combinator here
keeps it (`readsBack_container`, `readOptional_writeOptional`); the structs and messages of
`Serialization/` are assembled from these and the scalar laws. The converse law,
`ReadsOnlyFrames`, holds for the fixed-width values and the flag, and the optional keeps it
(`ReadsOnlyFrames.optional`); the size prefix does not have it, since the library also reads a
small size written in a longer form than `writeSize` uses.
-/

set_option autoImplicit false

namespace Yabridge.Bitsery

open Deserializer

variable {α : Type}

/-- `true` until the adapter records an error. -/
def Input.isOk : Input → Bool
  | .ok _ => true
  | .failed _ => false

/-- A healthy adapter is `isOk`. -/
@[simp] theorem Input.isOk_ok (bs : List UInt8) : (Input.ok bs).isOk = true := rfl

/-- A failed adapter is not `isOk`. -/
@[simp] theorem Input.isOk_failed (e : ReaderError) : (Input.failed e).isOk = false := rfl

/-- The round-trip law of a writer and an in-place reader: every frame the writer produces is
read back into any destination `d`, whatever bytes `rest` follow it. -/
def ReadsBack (w : α → Option (List UInt8)) (r : α → Deserializer α) : Prop :=
  ∀ x bs, w x = some bs → ∀ d rest, r d (.ok (bs ++ rest)) = (x, .ok rest)

/-! ### Byte blobs -/

/-- Modelled from the spec: `text1b(str, maxSize)` on a `std::string` and
`container1b(vec, maxSize)` on a `std::vector<uint8_t>` on the output side, the size and then
the bytes; a payload longer than `maxSize` makes encoding fail (§7). -/
def writeBlob (maxSize : Nat) (bs : List UInt8) : Option (List UInt8) :=
  if bs.length ≤ maxSize then some (writeSize bs.length ++ bs) else none

/-- `text1b` / `container1b` on the input side: the destination is resized to the size read
and every byte overwritten, so what it held before does not matter. -/
def readBlob (maxSize : Nat) : Deserializer (List UInt8) := do
  let size ← readSize maxSize
  readBytes size

/-- The blob's writer accepts exactly the payloads within the maximum. -/
theorem writeBlob_isSome (maxSize : Nat) (bs : List UInt8) :
    (writeBlob maxSize bs).isSome ↔ bs.length ≤ maxSize := by
  unfold writeBlob; split_ifs <;> simp_all

/-- The round-trip law of `text1b` and `container1b`: a blob within a maximum the prefix can
hold reads back, into any destination, whatever follows it. -/
theorem readsBack_blob {maxSize : Nat} (hmax : maxSize < 2 ^ 30) :
    ReadsBack (writeBlob maxSize) (fun _ => readBlob maxSize) := by
  intro bs out h _ rest
  unfold writeBlob at h
  split_ifs at h with hle
  cases h
  simp [readBlob, List.append_assoc, readSize_writeSize hle (by omega) (bs ++ rest)]

/-- A blob whose size prefix exceeds the maximum is read as empty, and the adapter fails. -/
theorem readBlob_of_lt {maxSize : Nat} {i : Input} (h : maxSize < (readSizeBytes i).1) :
    ∃ e, readBlob maxSize i = ([], .failed e) := by
  obtain ⟨e, he⟩ := readSize_of_lt h
  exact ⟨e, by simp [readBlob, he]⟩

/-- A blob read from any input is within its maximum. -/
theorem length_readBlob_le (maxSize : Nat) (i : Input) : (readBlob maxSize i).1.length ≤ maxSize := by
  simp only [readBlob, bind_apply, length_readBytes]
  exact readSize_le maxSize i

/-! ### Containers of elements -/

/-- `procContainer` on the output side: every element in turn. -/
def writeElems (f : α → Option (List UInt8)) : List α → Option (List UInt8)
  | [] => some []
  | x :: xs => do
    let a ← f x
    let b ← writeElems f xs
    pure (a ++ b)

/-- Modelled from the spec: `container(obj, maxSize, fnc)` on the output side, the size and
then every element by `fnc`; more than `maxSize` elements make encoding fail (§7). -/
def writeContainer (maxSize : Nat) (f : α → Option (List UInt8)) (xs : List α) :
    Option (List UInt8) :=
  if xs.length ≤ maxSize then (writeSize xs.length ++ ·) <$> writeElems f xs else none

/-- `std::vector::resize(n)`: keep the first `n` elements, pad with `d`. -/
def resize (xs : List α) (n : Nat) (d : α) : List α :=
  xs.take n ++ List.replicate (n - xs.length) d

/-- `procContainer` on the input side: every element deserialized in place, in order. -/
def readElems (f : α → Deserializer α) : List α → Deserializer (List α)
  | [] => pure []
  | x :: xs => do
    let y ← f x
    let ys ← readElems f xs
    pure (y :: ys)

/-- `container(obj, maxSize, fnc)` on the input side: read the size, resize the destination
with value-initialized elements `d`, then deserialize each element in place. -/
def readContainer (maxSize : Nat) (f : α → Deserializer α) (d : α) (obj : List α) :
    Deserializer (List α) := do
  let size ← readSize maxSize
  readElems f (resize obj size d)

/-- `resize` gives the requested length. -/
@[simp] theorem length_resize (xs : List α) (n : Nat) (d : α) : (resize xs n d).length = n := by
  simp only [resize, List.length_append, List.length_take, List.length_replicate]
  omega

/-- The elements' writer accepts a list exactly when it accepts every element. -/
theorem writeElems_isSome (f : α → Option (List UInt8)) (xs : List α) :
    (writeElems f xs).isSome ↔ ∀ x ∈ xs, (f x).isSome := by
  induction xs with
  | nil => simp [writeElems]
  | cons x xs ih =>
    simp only [writeElems, List.mem_cons, forall_eq_or_imp, ← ih]
    cases f x <;> cases writeElems f xs <;> simp

/-- The container's writer accepts exactly the lists within the maximum whose elements it
accepts. -/
theorem writeContainer_isSome (maxSize : Nat) (f : α → Option (List UInt8)) (xs : List α) :
    (writeContainer maxSize f xs).isSome ↔ xs.length ≤ maxSize ∧ ∀ x ∈ xs, (f x).isSome := by
  unfold writeContainer
  split_ifs with h <;> simp [h, ← writeElems_isSome]

/-- Every element reads back in place, whatever the destination elements held. -/
theorem readElems_writeElems {w : α → Option (List UInt8)} {r : α → Deserializer α}
    (h : ReadsBack w r) :
    ∀ (xs : List α) (bs : List UInt8), writeElems w xs = some bs →
      ∀ (ys : List α), ys.length = xs.length → ∀ rest,
        readElems r ys (.ok (bs ++ rest)) = (xs, .ok rest)
  | [], bs, hw, ys, hys, rest => by
    cases hw
    cases ys with
    | nil => rfl
    | cons _ _ => simp at hys
  | x :: xs, bs, hw, ys, hys, rest => by
    simp only [writeElems, Option.bind_eq_bind, Option.bind_eq_some, Option.pure_def,
      Option.some.injEq] at hw
    obtain ⟨a, ha, b, hb, rfl⟩ := hw
    cases ys with
    | nil => simp at hys
    | cons y ys =>
      simp only [List.length_cons, Nat.add_right_cancel_iff] at hys
      simp [readElems, List.append_assoc, h x a ha, readElems_writeElems h xs b hb ys hys]

/-- The container combinator keeps the round-trip law of its elements. -/
theorem readsBack_container {maxSize : Nat} (hmax : maxSize < 2 ^ 30)
    {w : α → Option (List UInt8)} {r : α → Deserializer α} (d : α) (h : ReadsBack w r) :
    ReadsBack (writeContainer maxSize w) (readContainer maxSize r d) := by
  intro xs out hw obj rest
  unfold writeContainer at hw
  split_ifs at hw with hle
  simp only [Option.map_eq_map, Option.map_eq_some'] at hw
  obtain ⟨es, hes, rfl⟩ := hw
  simp only [readContainer, bind_apply, List.append_assoc,
    readSize_writeSize hle (by omega)]
  exact readElems_writeElems h xs es hes _ (length_resize _ _ _) rest

/-- A container whose size prefix exceeds the maximum is read as empty, and the adapter fails:
no element is read. -/
theorem readContainer_of_lt {maxSize : Nat} {i : Input} (h : maxSize < (readSizeBytes i).1)
    (f : α → Deserializer α) (d : α) (obj : List α) :
    ∃ e, readContainer maxSize f d obj i = ([], .failed e) := by
  obtain ⟨e, he⟩ := readSize_of_lt h
  exact ⟨e, by simp [readContainer, he, resize, readElems]⟩

/-- Reading in place keeps the number of destination elements. -/
@[simp] theorem length_readElems (f : α → Deserializer α) :
    ∀ (ys : List α) (i : Input), (readElems f ys i).1.length = ys.length
  | [], _ => rfl
  | _ :: ys, _ => by simp [readElems, length_readElems f ys]

/-- Each element a reader produces is one `f` produced. -/
theorem mem_readElems {f : α → Deserializer α} {P : α → Prop} (hf : ∀ e i, P (f e i).1) :
    ∀ (ys : List α) (i : Input), ∀ y ∈ (readElems f ys i).1, P y
  | [], _, y, hy => by simp [readElems] at hy
  | _ :: ys, _, y, hy => by
    simp only [readElems, bind_apply, pure_apply, List.mem_cons] at hy
    rcases hy with rfl | hy
    · exact hf _ _
    · exact mem_readElems hf ys _ y hy

/-- A container read from any input has at most `maxSize` elements. -/
theorem length_readContainer_le (maxSize : Nat) (f : α → Deserializer α) (d : α) (obj : List α)
    (i : Input) : (readContainer maxSize f d obj i).1.length ≤ maxSize := by
  simp only [readContainer, bind_apply, length_readElems, length_resize]
  exact readSize_le maxSize i

/-- Each element of a container read from any input is one the element reader produced. -/
theorem mem_readContainer {f : α → Deserializer α} {P : α → Prop} (hf : ∀ e i, P (f e i).1)
    (maxSize : Nat) (d : α) (obj : List α) (i : Input) :
    ∀ y ∈ (readContainer maxSize f d obj i).1, P y :=
  mem_readElems hf _ _

/-- Elements read in place by a reader that ignores its destination do not depend on what the
destination elements held. -/
theorem readElems_congr {f : α → Deserializer α} (hf : ∀ x x', f x = f x') :
    ∀ (ys ys' : List α), ys.length = ys'.length → readElems f ys = readElems f ys'
  | [], [], _ => rfl
  | y :: ys, y' :: ys', h => by
    simp only [readElems, hf y y', readElems_congr hf ys ys' (by simpa using h)]

/-- Nor does a container read by such a reader depend on the destination container. -/
theorem readContainer_congr {f : α → Deserializer α} (hf : ∀ x x', f x = f x') (maxSize : Nat)
    (d : α) (obj obj' : List α) : readContainer maxSize f d obj = readContainer maxSize f d obj' := by
  funext i
  simp only [readContainer, bind_apply]
  rw [readElems_congr hf (resize obj (readSize maxSize i).1 d) (resize obj' (readSize maxSize i).1 d)
    (by simp only [length_resize])]

/-! ### Optionals -/

/-- `ext(opt, StdOptional{}, fnc)` on the output side: the flag, then the value if any. -/
def writeOptional (f : α → List UInt8) : Option α → List UInt8
  | none => writeBool false
  | some v => writeBool true ++ f v

/-- `ext(opt, StdOptional{}, fnc)` on the input side: a present value is deserialized into a
fresh object, an absent one resets the destination. -/
def readOptional (f : Deserializer α) : Deserializer (Option α) := do
  let present ← readBool
  if present then some <$> f else pure none

/-- An optional, present or absent, reads back whatever follows it. -/
theorem readOptional_writeOptional {w : α → List UInt8} {r : Deserializer α}
    (h : ∀ x rest, r (.ok (w x ++ rest)) = (x, .ok rest)) (o : Option α) (rest : List UInt8) :
    readOptional r (.ok (writeOptional w o ++ rest)) = (o, .ok rest) := by
  cases o with
  | none => simp [readOptional, writeOptional]
  | some x => simp [readOptional, writeOptional, List.append_assoc, h]

/-- An optional accepts only a flag of `0` or `1` followed, when present, by a frame of its
value: a reader of the value with the converse law gives one for the optional. -/
theorem ReadsOnlyFrames.optional {w : α → List UInt8} {r : Deserializer α}
    (h : ReadsOnlyFrames w r) : ReadsOnlyFrames (writeOptional w) (readOptional r) := by
  intro i rest hi
  have hb := readsOnlyFrames_readBool i
  rcases hr : readBool i with ⟨present, j⟩
  rw [hr] at hb
  cases present with
  | false =>
    simp only [readOptional, bind_apply, hr, Bool.false_eq_true, if_false, pure_apply] at hi ⊢
    exact hb rest hi
  | true =>
    simp only [readOptional, bind_apply, hr, if_true, map_apply] at hi ⊢
    rw [hb _ (h j rest hi)]
    simp [writeOptional]

/-! ### Variant discriminants -/

/-- Modelled from the spec: the discriminant of `ext(var, StdVariant{...})`, written as a size
(`writeSize`). The library reads it with `readSize(index, sizeof...(Ts))`, a maximum that admits
the index `count` itself; at that index its `execIndex` runs no overload and the variant keeps
what it held. The model departs from the library there and follows §4.1: a discriminant that
selects none of the `count` alternatives, `count` included, is a hard decoding failure, after
which the index reads as `0`. So the last case of each `deserializeAlternative`, the one that
keeps the destination, is never reached (`readIndex_lt`). -/
def readIndex (count : Nat) : Deserializer Nat := readSize (count - 1)

/-- The discriminant of each alternative reads back. -/
theorem readIndex_writeSize {count i : Nat} (h : i < count) (hc : count ≤ 2 ^ 30)
    (rest : List UInt8) : readIndex count (.ok (writeSize i ++ rest)) = (i, .ok rest) :=
  readSize_writeSize (by omega) (by omega) rest

/-- Whatever the input, the index selects an alternative. -/
theorem readIndex_lt {count : Nat} (hc : 0 < count) (i : Input) : (readIndex count i).1 < count := by
  have := readSize_le (count - 1) i
  unfold readIndex; omega

/-- A discriminant of `count` or more fails the adapter, and selects alternative `0`. -/
theorem readIndex_of_le {count : Nat} {i : Input} (hc : 0 < count)
    (h : count ≤ (readSizeBytes i).1) : ∃ e, readIndex count i = (0, .failed e) :=
  readSize_of_lt (by omega)

end Yabridge.Bitsery
