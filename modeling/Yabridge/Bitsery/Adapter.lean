/-!
# `Yabridge.Bitsery.Adapter`: the input adapter and the deserializer monad

`src/common/serialization.h` never touches bytes itself. Every `serialize` function in it is a
template over the archive `S`, and the vendored serialization library (bitsery) instantiates it
twice: with a serializer that appends to an output buffer, and with a deserializer that reads
from an input buffer *into the object it is given*. The library is not part of `src/`, so this
module and the two after it model the part of it that the header relies on, following the wire
rules of the spec (§4.1, §7).

The input side is a `Deserializer`: a state-passing function over `Input`, the unread bytes or
the first error. Two facts of the adapter matter for the proofs:

* reads are sequential and in place: a read that succeeds overwrites its destination field
  before the next read starts, so a later failure does not undo it;
* a read past the end fails with `dataOverflow` and zeroes its destination, and once the
  adapter has failed it keeps its first error and every later read yields zeros.

`readBuffer_append`, `readBuffer_of_lt` and `readBuffer_failed` say once what a read can do;
every codec lemma downstream is assembled from them and never unfolds `readBuffer`.
-/

set_option autoImplicit false

namespace Yabridge.Bitsery

/-- A fixed-size `char` array of the plugin-interface structs (`char label[64]`, ...): a byte
list whose length is the array's size, so that an array of the wrong size cannot be built. -/
@[ext]
structure CArray (n : Nat) where
  data : List UInt8
  size_eq : data.length = n
  deriving DecidableEq

/-- A value-initialized array: all zeros. -/
instance (n : Nat) : Inhabited (CArray n) := ⟨⟨List.replicate n 0, List.length_replicate n 0⟩⟩

/-- A value-initialized array holds zeros. -/
@[simp] theorem CArray.default_data (n : Nat) : (default : CArray n).data = List.replicate n 0 :=
  rfl

/-- The library's `ReaderError`, restricted to the two errors the schema's reads can raise. -/
inductive ReaderError where
  | dataOverflow
  | invalidData
  deriving DecidableEq

/-- The state of the input adapter: the bytes not read yet, or the first error. The adapter
drops its buffer on an error, so a failed adapter has no bytes left to read. -/
inductive Input where
  | ok (rest : List UInt8)
  | failed (e : ReaderError)
  deriving DecidableEq

/-- The deserializer instantiation of a `serialize` template: it reads from the adapter and
returns the updated destination. -/
def Deserializer (α : Type) : Type := Input → α × Input

namespace Deserializer

/-- Reads run in sequence, each on the adapter the previous one left. -/
instance : Monad Deserializer where
  pure a := fun i => (a, i)
  bind x f := fun i => f (x i).1 (x i).2

variable {α β : Type}

/-- `pure` reads nothing and leaves the adapter as it was. -/
@[simp] theorem pure_apply (a : α) (i : Input) : (pure a : Deserializer α) i = (a, i) := rfl

/-- `x >>= f` runs `f` on what `x` read, from the adapter `x` left. -/
@[simp] theorem bind_apply (x : Deserializer α) (f : α → Deserializer β) (i : Input) :
    (x >>= f) i = f (x i).1 (x i).2 := rfl

/-- `f <$> x` transforms what `x` read and leaves the adapter as `x` left it. -/
@[simp] theorem map_apply (f : α → β) (x : Deserializer α) (i : Input) :
    (f <$> x) i = (f (x i).1, (x i).2) := rfl

end Deserializer

open Deserializer

/-- `error()` of the adapter: record `e` unless an error is recorded already. -/
def fail (e : ReaderError) : Deserializer Unit
  | .ok _ => ((), .failed e)
  | .failed e' => ((), .failed e')

/-- `readBuffer` of the input adapter: the next `n` bytes. A read past the end zeroes the
destination and fails with `dataOverflow`; a failed adapter yields zeros. -/
def readBuffer (n : Nat) : Deserializer (CArray n)
  | .ok bs =>
    if h : n ≤ bs.length then
      (⟨bs.take n, by simp only [List.length_take]; omega⟩, .ok (bs.drop n))
    else (default, .failed .dataOverflow)
  | .failed e => (default, .failed e)

/-- An error on a healthy adapter is recorded. -/
@[simp] theorem fail_ok (e : ReaderError) (bs : List UInt8) :
    fail e (.ok bs) = ((), .failed e) := rfl

/-- An error on a failed adapter keeps the first error. -/
@[simp] theorem fail_failed (e e' : ReaderError) : fail e (.failed e') = ((), .failed e') := rfl

/-- Reading an array's bytes back gives the array, and leaves what follows. -/
@[simp] theorem readBuffer_append {n : Nat} (a : CArray n) (rest : List UInt8) :
    readBuffer n (.ok (a.data ++ rest)) = (a, .ok rest) := by
  obtain ⟨d, rfl⟩ := a
  simp [readBuffer]

/-- A read past the end yields zeros and fails with `dataOverflow`. -/
theorem readBuffer_of_lt {n : Nat} {bs : List UInt8} (h : bs.length < n) :
    readBuffer n (.ok bs) = (default, .failed .dataOverflow) := by
  simp only [readBuffer, dif_neg (Nat.not_le.mpr h)]

/-- A failed adapter yields zeros and keeps its error. -/
@[simp] theorem readBuffer_failed (n : Nat) (e : ReaderError) :
    readBuffer n (.failed e) = (default, .failed e) := rfl

/-- A read of `n ≤ bs.length` bytes takes them from the front. -/
theorem readBuffer_of_le {n : Nat} {bs : List UInt8} (h : n ≤ bs.length) :
    (readBuffer n (.ok bs)).1.data = bs.take n ∧ (readBuffer n (.ok bs)).2 = .ok (bs.drop n) := by
  simp only [readBuffer, dif_pos h, and_self]

/-- The converse of a round trip: whenever `r` leaves the adapter healthy with `rest` unread,
the input was the frame `w` writes for what `r` read, followed by `rest`. A reader with this law
accepts no byte string that its writer does not produce. -/
def ReadsOnlyFrames {α : Type} (w : α → List UInt8) (r : Deserializer α) : Prop :=
  ∀ i rest, (r i).2 = .ok rest → i = .ok (w (r i).1 ++ rest)

/-- A reader that reads back its writer's frames and accepts no others accepts a byte string,
leaving `rest`, exactly when it is the frame of the value it yields followed by `rest`. -/
theorem ReadsOnlyFrames.ok_iff {α : Type} {w : α → List UInt8} {r : Deserializer α}
    (hr : ReadsOnlyFrames w r) (hb : ∀ x rest, r (.ok (w x ++ rest)) = (x, .ok rest))
    (x : α) (bs rest : List UInt8) : r (.ok bs) = (x, .ok rest) ↔ bs = w x ++ rest := by
  refine ⟨fun h => ?_, fun h => h ▸ hb x rest⟩
  have := hr (.ok bs) rest (by rw [h])
  rw [h] at this
  exact Input.ok.inj this

/-- A read that succeeds took the array's bytes from the front of the input. -/
theorem readsOnlyFrames_readBuffer (n : Nat) : ReadsOnlyFrames CArray.data (readBuffer n) := by
  rintro (bs | e) rest h
  · by_cases hn : n ≤ bs.length
    · obtain ⟨h1, h2⟩ := readBuffer_of_le hn
      rw [h1, ← Input.ok.inj (h2.symm.trans h), List.take_append_drop]
    · rw [readBuffer_of_lt (Nat.lt_of_not_le hn)] at h
      cases h
  · cases h

/-- `readBuffer` into a destination whose size was read just before (a string, a vector):
the bytes alone, so that the size can be rewritten in proofs. -/
def readBytes (n : Nat) : Deserializer (List UInt8) := (fun a => a.data) <$> readBuffer n

/-- Reading back as many bytes as were written gives them, and leaves what follows. -/
@[simp] theorem readBytes_append (bs rest : List UInt8) :
    readBytes bs.length (.ok (bs ++ rest)) = (bs, .ok rest) := by
  have h := readBuffer_append ⟨bs, rfl⟩ rest
  simp only at h
  simp [readBytes, h]

/-- A read of `n` bytes yields `n` bytes on every input: zeros past the end. -/
@[simp] theorem length_readBytes (n : Nat) (i : Input) : (readBytes n i).1.length = n :=
  (readBuffer n i).1.size_eq

/-- A failed adapter yields `n` zeros and keeps its error. -/
@[simp] theorem readBytes_failed (n : Nat) (e : ReaderError) :
    readBytes n (.failed e) = (List.replicate n 0, .failed e) := rfl

end Yabridge.Bitsery
