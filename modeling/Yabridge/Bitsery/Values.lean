import Mathlib.Algebra.Group.Nat.Basic
import Mathlib.Tactic.SplitIfs
import Yabridge.Bitsery.Adapter

/-!
# `Yabridge.Bitsery.Values`: fixed-width values, size prefixes and flags

The three scalar encodings the header reaches through the library:

* `writeValue n x` / `readValue n` (`value2b`, `value4b`, `value8b`): the `n` bytes of `x` in
  the platform's byte order, which is little-endian on every target yabridge builds for (spec
  §4.1: "encoded at exactly that width, in the platform's native byte order"). A value is a
  `BitVec (8 * n)`: `value4b` copies the object representation, so a `float` travels as its
  bit pattern and `readValue_append` is a round trip bit for bit.
* `writeSize` / `readSize`: the length prefix of every variable-length container and the
  discriminant of every variant. The spec only says "length-prefixed"; the library's prefix is
  one byte below `0x80`, two below `0x4000` and four below `2 ^ 30`. It does not depend on
  `sizeof(size_t)`. `readSize` fails with `invalidData` on a size above the container's
  maximum and then yields `0`, so what it returns never exceeds the maximum
  (`readSize_le`).
* `writeBool` / `readBool`: the presence flag of an optional, one byte `0` or `1`; any other
  byte is `invalidData`.
-/

set_option autoImplicit false

namespace Yabridge.Bitsery

open Deserializer

/-! ### Little-endian words -/

/-- The `n` little-endian bytes of `x`, bits above `8 * n` dropped. -/
def leBytes : Nat → Nat → List UInt8
  | 0, _ => []
  | n + 1, x => UInt8.ofNat x :: leBytes n (x / 256)

/-- The number whose little-endian bytes are `bs`. -/
def leValue : List UInt8 → Nat
  | [] => 0
  | b :: bs => b.toNat + 256 * leValue bs

/-- `leBytes n x` has `n` bytes. -/
@[simp] theorem length_leBytes (n x : Nat) : (leBytes n x).length = n := by
  induction n generalizing x with
  | zero => rfl
  | succ n ih => simp [leBytes, ih]

/-- A byte built from a number keeps its low eight bits. -/
theorem UInt8.toNat_ofNat' (x : Nat) : (UInt8.ofNat x).toNat = x % 256 := BitVec.toNat_ofNat x 8

/-- Writing `x` in `n` bytes and reading them back gives `x` modulo `256 ^ n`. -/
theorem leValue_leBytes (n x : Nat) : leValue (leBytes n x) = x % 256 ^ n := by
  induction n generalizing x with
  | zero => simp [leBytes, leValue, Nat.mod_one]
  | succ n ih =>
    rw [leBytes, leValue, ih, UInt8.toNat_ofNat', Nat.pow_succ, Nat.mul_comm _ 256, Nat.mod_mul]

/-- Zero bytes read as zero. -/
theorem leValue_replicate_zero (n : Nat) : leValue (List.replicate n 0) = 0 := by
  induction n with
  | zero => rfl
  | succ n ih => simp [List.replicate_succ, leValue, ih]

/-- `leValue` of `n` bytes fits in `n` bytes. -/
theorem leValue_lt (bs : List UInt8) : leValue bs < 256 ^ bs.length := by
  induction bs with
  | nil => simp [leValue]
  | cons b bs ih =>
    have hb : b.toNat < 256 := b.toBitVec.isLt
    simp only [leValue, List.length_cons, Nat.pow_succ]
    omega

/-- Bytes read as a number and written back are the same bytes. -/
theorem leBytes_leValue (bs : List UInt8) : leBytes bs.length (leValue bs) = bs := by
  induction bs with
  | nil => rfl
  | cons b bs ih =>
    have hb : b.toNat < 256 := b.toBitVec.isLt
    have hdiv : (b.toNat + 256 * leValue bs) / 256 = leValue bs := by omega
    have hbyte : UInt8.ofNat (b.toNat + 256 * leValue bs) = b :=
      UInt8.toNat.inj (by rw [UInt8.toNat_ofNat']; omega)
    rw [List.length_cons, leBytes, leValue, hdiv, ih, hbyte]

/-! ### Values -/

/-- `valueNb(x)` on the output side. -/
def writeValue (n : Nat) (x : BitVec (8 * n)) : List UInt8 := leBytes n x.toNat

/-- `n` bytes as a little-endian number. -/
def readNat (n : Nat) : Deserializer Nat := leValue <$> readBytes n

/-- `valueNb(x)` on the input side. -/
def readValue (n : Nat) : Deserializer (BitVec (8 * n)) := BitVec.ofNat (8 * n) <$> readNat n

/-- `valueNb` writes `n` bytes. -/
@[simp] theorem length_writeValue (n : Nat) (x : BitVec (8 * n)) :
    (writeValue n x).length = n :=
  length_leBytes n _

/-- A number written in `n` bytes reads back modulo `256 ^ n`, and leaves what follows. -/
theorem readNat_append (n x : Nat) (rest : List UInt8) :
    readNat n (.ok (leBytes n x ++ rest)) = (x % 256 ^ n, .ok rest) := by
  have h := readBytes_append (leBytes n x) rest
  rw [length_leBytes] at h
  simp [readNat, h, leValue_leBytes]

/-- A value reads back bit for bit. -/
@[simp] theorem readValue_append (n : Nat) (x : BitVec (8 * n)) (rest : List UInt8) :
    readValue n (.ok (writeValue n x ++ rest)) = (x, .ok rest) := by
  have hx : x.toNat < 256 ^ n := by
    have h := x.isLt
    rwa [Nat.pow_mul] at h
  simp [readValue, writeValue, readNat_append, Nat.mod_eq_of_lt hx]

/-- A read with at least `n` bytes left takes the next `n`. -/
theorem readValue_of_le {n : Nat} {bs : List UInt8} (h : n ≤ bs.length) :
    readValue n (.ok bs) = (BitVec.ofNat (8 * n) (leValue (bs.take n)), .ok (bs.drop n)) := by
  obtain ⟨h1, h2⟩ := readBuffer_of_le h
  simp [readValue, readNat, readBytes, h1, h2]

/-- Reading the `n`-byte field at the front of `bs` leaves the bytes after it. -/
theorem readValue_snd_of_le (n : Nat) (bs : List UInt8) (h : n ≤ bs.length) :
    (readValue n (.ok bs)).2 = .ok (bs.drop n) := by
  rw [readValue_of_le h]

/-- A number read from `n` bytes accepts only its own `n` bytes. -/
theorem readsOnlyFrames_readNat (n : Nat) : ReadsOnlyFrames (leBytes n) (readNat n) := by
  intro i rest h
  have := readsOnlyFrames_readBuffer n i rest h
  simp only [readNat, readBytes, map_apply]
  generalize (readBuffer n i).1 = a at this ⊢
  obtain ⟨data, rfl⟩ := a
  rwa [leBytes_leValue]

/-- A fixed-width read accepts only the bytes of the value it yields: every `n` bytes are the
encoding of some value, and of one only. -/
theorem readsOnlyFrames_readValue (n : Nat) : ReadsOnlyFrames (writeValue n) (readValue n) := by
  intro i rest h
  have hlt : (readNat n i).1 < 2 ^ (8 * n) := by
    rw [Nat.pow_mul]
    simpa [readNat] using leValue_lt (readBytes n i).1
  simpa [readValue, writeValue, Nat.mod_eq_of_lt hlt] using readsOnlyFrames_readNat n i rest h

/-- A read with fewer than `n` bytes left yields zero and fails with `dataOverflow`. -/
theorem readValue_of_lt {n : Nat} {bs : List UInt8} (h : bs.length < n) :
    readValue n (.ok bs) = (0, .failed .dataOverflow) := by
  simp only [readValue, readNat, readBytes, map_apply, readBuffer_of_lt h]
  suffices leValue (List.replicate n 0) = 0 by simp [this]
  exact leValue_replicate_zero n

/-- A failed adapter reads zero bytes and keeps its error. -/
@[simp] theorem readNat_failed (n : Nat) (e : ReaderError) :
    readNat n (.failed e) = (leValue (List.replicate n 0), .failed e) := rfl

/-- A failed adapter reads the value `0` and keeps its error. -/
@[simp] theorem readValue_failed (n : Nat) (e : ReaderError) :
    readValue n (.failed e) = (0, .failed e) := by
  simp [readValue, leValue_replicate_zero]

/-! ### Size prefixes -/

/-- `details::writeSize`: one byte below `0x80`; two below `0x4000`, the first tagged `0x80`;
four otherwise, the first tagged `0xC0` and the last two a little-endian `uint16_t`. The
library asserts `size < 0x40000000`; every maximum of the schema is far below it. -/
def writeSize (size : Nat) : List UInt8 :=
  if size < 0x80 then [UInt8.ofNat size]
  else if size < 0x4000 then [UInt8.ofNat (size / 0x100 + 0x80), UInt8.ofNat size]
  else [UInt8.ofNat (size / 0x1000000 + 0xC0), UInt8.ofNat (size / 0x10000)] ++ leBytes 2 size

/-- The prefix `details::readSize` reads, before it checks the maximum. -/
def readSizeBytes : Deserializer Nat := do
  let hb ← readNat 1
  if hb < 0x80 then pure hb else do
    let lb ← readNat 1
    if hb < 0xC0 then pure ((hb % 0x80) * 0x100 + lb) else do
      let lw ← readNat 2
      pure (((hb % 0x40) * 0x100 + lb) * 0x10000 + lw)

/-- `details::readSize` with the maximum checked: a size above `maxSize` fails with
`invalidData` and reads as `0`. -/
def readSize (maxSize : Nat) : Deserializer Nat := do
  let size ← readSizeBytes
  if maxSize < size then do
    fail .invalidData
    pure 0
  else pure size

/-- A size below `0x80` is written as one byte. -/
theorem writeSize_of_lt {size : Nat} (h : size < 0x80) : writeSize size = [UInt8.ofNat size] := by
  simp [writeSize, h]

/-- A size of `0x4000` or more takes the four-byte form. -/
theorem length_writeSize_of_le {size : Nat} (h : 0x4000 ≤ size) : (writeSize size).length = 4 := by
  simp [writeSize, show ¬size < 0x80 by omega, show ¬size < 0x4000 by omega]

/-- Each of the three forms of the prefix reads back. -/
theorem readSizeBytes_writeSize (size : Nat) (h : size < 2 ^ 30) (rest : List UInt8) :
    readSizeBytes (.ok (writeSize size ++ rest)) = (size, .ok rest) := by
  have one (x : Nat) (r : List UInt8) : readNat 1 (.ok (UInt8.ofNat x :: r)) = (x % 256, .ok r) :=
    readNat_append 1 x r
  unfold writeSize
  split_ifs with h1 h2
  · simp [readSizeBytes, one, Nat.mod_eq_of_lt (by omega : size < 256), h1]
  · have h3 : ¬(size / 0x100 + 0x80) % 256 < 0x80 := by omega
    have h4 : (size / 0x100 + 0x80) % 256 < 0xC0 := by omega
    simp only [readSizeBytes, List.cons_append, List.nil_append, bind_apply, one, h3, h4,
      if_false, if_true, pure_apply, Prod.mk.injEq, and_true]
    omega
  · have h3 : ¬(size / 0x1000000 + 0xC0) % 256 < 0x80 := by omega
    have h4 : ¬(size / 0x1000000 + 0xC0) % 256 < 0xC0 := by omega
    simp only [readSizeBytes, List.cons_append, List.nil_append, bind_apply, one, h3, h4,
      if_false, readNat_append, pure_apply, Prod.mk.injEq, and_true]
    omega

/-- A size within the maximum reads back and leaves what follows. -/
theorem readSize_writeSize {maxSize size : Nat} (hle : size ≤ maxSize) (h : size < 2 ^ 30)
    (rest : List UInt8) : readSize maxSize (.ok (writeSize size ++ rest)) = (size, .ok rest) := by
  simp only [readSize, bind_apply, readSizeBytes_writeSize size h, if_neg (Nat.not_lt.mpr hle)]
  rfl

/-- A size above the maximum is a hard failure, not a truncation. -/
theorem readSize_writeSize_of_lt {maxSize size : Nat} (hlt : maxSize < size) (h : size < 2 ^ 30)
    (rest : List UInt8) :
    readSize maxSize (.ok (writeSize size ++ rest)) = (0, .failed .invalidData) := by
  simp only [readSize, bind_apply, readSizeBytes_writeSize size h, if_pos hlt]
  rfl

/-- A prefix within the maximum is handed on as read. -/
theorem readSize_of_readSizeBytes {maxSize size : Nat} {i j : Input}
    (h : readSizeBytes i = (size, j)) (hle : size ≤ maxSize) : readSize maxSize i = (size, j) := by
  simp only [readSize, bind_apply, h, if_neg (Nat.not_lt.mpr hle)]
  rfl

/-- A prefix above the maximum fails the adapter, and the container gets the size `0`. -/
theorem readSize_of_lt {maxSize : Nat} {i : Input} (h : maxSize < (readSizeBytes i).1) :
    ∃ e, readSize maxSize i = (0, .failed e) := by
  simp only [readSize, bind_apply, if_pos h]
  cases (readSizeBytes i).2 with
  | ok _ => exact ⟨.invalidData, rfl⟩
  | failed e => exact ⟨e, rfl⟩

/-- Whatever the input, the size handed to the container is within its maximum. -/
theorem readSize_le (maxSize : Nat) (i : Input) : (readSize maxSize i).1 ≤ maxSize := by
  simp only [readSize, bind_apply]
  split_ifs with h
  · exact Nat.zero_le _
  · exact Nat.not_lt.mp h

/-- A failed adapter reads the size `0` and keeps its error. -/
@[simp] theorem readSize_failed (maxSize : Nat) (e : ReaderError) :
    readSize maxSize (.failed e) = (0, .failed e) := by
  simp [readSize, readSizeBytes, leValue]

/-! ### Flags -/

/-- `boolValue(b)` on the output side. -/
def writeBool (b : Bool) : List UInt8 := [if b then 1 else 0]

/-- `boolValue(b)` on the input side: a byte above `1` is `invalidData`. -/
def readBool : Deserializer Bool := do
  let t ← readNat 1
  if 1 < t then fail .invalidData
  pure (t == 1)

/-- A flag reads back. -/
@[simp] theorem readBool_append (b : Bool) (rest : List UInt8) :
    readBool (.ok (writeBool b ++ rest)) = (b, .ok rest) := by
  have h := readNat_append 1 (if b then 1 else 0) rest
  cases b <;> simp_all [readBool, writeBool, leBytes]

/-- A flag is accepted only as the byte `0` or `1`, which is what `writeBool` writes. -/
theorem readsOnlyFrames_readBool : ReadsOnlyFrames writeBool readBool := by
  intro i rest h
  have hi := readsOnlyFrames_readNat 1 i rest
  rcases hr : readNat 1 i with ⟨t, j⟩
  rw [hr] at hi
  by_cases ht : 1 < t
  · cases j <;> simp [readBool, hr, ht] at h
  · simp only [readBool, hr, bind_apply, pure_apply, if_neg ht] at h ⊢
    rw [hi h]
    obtain rfl | rfl : t = 0 ∨ t = 1 := by omega
    all_goals rfl

end Yabridge.Bitsery
