import Yabridge.Bitsery.Containers

/-!
# `Yabridge.Bitsery.Positional`: readers that only look at the bytes they consume

Every reader of the library takes its bytes from the front of the adapter, one primitive read
after another, and an adapter that has recorded an error stays failed. So a reader run on an
input with bytes cut off its end does what it does on the whole input until a read needs a
byte that is not there, and from then on the adapter stays failed. `Positional r` states this
of a reader `r`: on `p` it either fails, or yields what it yields on `p ++ missing` and leaves
the adapter lacking the same `missing` bytes.

The primitive read and the error keep `Positional`, and so do `bind`, branching and every
combinator built from them (`positional_readSize`, `positional_readContainer`, ...).
`Positional.truncated` draws the consequence for frames: a positional reader that consumes a
frame to its end fails on every strict prefix of it, so a truncated frame is rejected and never
decoded to a partial value.
-/

set_option autoImplicit false

namespace Yabridge.Bitsery

open Deserializer

variable {α β : Type}

/-- A reader that reads only from the front of the adapter. -/
structure Positional (r : Deserializer α) : Prop where
  /-- A failed adapter stays failed. -/
  failed : ∀ e, (r (.failed e)).2.isOk = false
  /-- On an input lacking the bytes `missing` at its end, the reader fails, or it yields what it
  yields on the whole input and leaves the adapter lacking the same bytes. -/
  cut : ∀ p missing, (r (.ok p)).2.isOk = false ∨
    ∃ a q, r (.ok p) = (a, .ok q) ∧ r (.ok (p ++ missing)) = (a, .ok (q ++ missing))

/-- An adapter that is not healthy has failed with some error. -/
theorem Input.eq_failed {i : Input} (h : i.isOk = false) : ∃ e, i = .failed e := by
  cases i with
  | ok _ => cases h
  | failed e => exact ⟨e, rfl⟩

namespace Positional

/-- Reading nothing is positional. -/
theorem pure (a : α) : Positional (pure a : Deserializer α) :=
  ⟨fun _ => rfl, fun p _ => .inr ⟨a, p, rfl, rfl⟩⟩

/-- Sequencing keeps `Positional`: the second reader starts where the first stopped, on the
whole input and on the cut one alike. -/
theorem bind {x : Deserializer α} {f : α → Deserializer β} (hx : Positional x)
    (hf : ∀ a, Positional (f a)) : Positional (x >>= f) where
  failed e := by
    obtain ⟨e', he⟩ := Input.eq_failed (hx.failed e)
    simp only [bind_apply, he]
    exact (hf _).failed e'
  cut p missing := by
    rcases hx.cut p missing with h | ⟨a, q, h₁, h₂⟩
    · obtain ⟨e, he⟩ := Input.eq_failed h
      left
      simp only [bind_apply, he]
      exact (hf _).failed e
    · simp only [bind_apply, h₁, h₂]
      exact (hf a).cut q missing

/-- Transforming what a positional reader read keeps it positional. -/
theorem map {x : Deserializer α} (f : α → β) (hx : Positional x) : Positional (f <$> x) :=
  hx.bind fun a => Positional.pure (f a)

/-- A choice between two positional readers, on a condition fixed before the read, is
positional. -/
theorem ite (c : Prop) [Decidable c] {x y : Deserializer α} (hx : Positional x)
    (hy : Positional y) : Positional (if c then x else y) := by
  split <;> assumption

/-- **Truncated frames are rejected.** A positional reader that reads the frame `bs` to its end
fails on every strict prefix of it. -/
theorem truncated {r : Deserializer α} (hr : Positional r) {bs : List UInt8} {x : α}
    (h : r (.ok bs) = (x, .ok [])) {p : List UInt8} (hp : p <+: bs) (hlt : p.length < bs.length) :
    (r (.ok p)).2.isOk = false := by
  obtain ⟨missing, rfl⟩ := hp
  rcases hr.cut p missing with hf | ⟨a, q, -, h₂⟩
  · exact hf
  · -- the whole frame was consumed, so no byte of it was missing
    have : q ++ missing = [] := Input.ok.inj (congrArg Prod.snd (h₂.symm.trans h))
    simp [List.append_eq_nil.mp this] at hlt

end Positional

open Positional

/-- Recording an error is positional: it fails on every input. -/
theorem positional_fail (e : ReaderError) : Positional (fail e) :=
  ⟨fun _ => rfl, fun _ _ => .inl rfl⟩

/-- The primitive read is positional: with enough bytes it takes the same ones from the cut
and the whole input, and otherwise it fails. -/
theorem positional_readBuffer (n : Nat) : Positional (readBuffer n) where
  failed _ := rfl
  cut p missing := by
    by_cases h : n ≤ p.length
    · have h' : n ≤ (p ++ missing).length := by simp only [List.length_append]; omega
      refine .inr ⟨_, _, Prod.ext rfl (readBuffer_of_le h).2, Prod.ext ?_ ?_⟩
      · ext1
        rw [(readBuffer_of_le h').1, (readBuffer_of_le h).1, List.take_append_of_le_length h]
      · rw [(readBuffer_of_le h').2, List.drop_append_of_le_length h]
    · left
      rw [readBuffer_of_lt (by omega)]
      rfl

/-- A read of `n` bytes is positional. -/
theorem positional_readBytes (n : Nat) : Positional (readBytes n) :=
  (positional_readBuffer n).map _

/-- A read of an `n`-byte number is positional. -/
theorem positional_readNat (n : Nat) : Positional (readNat n) :=
  (positional_readBytes n).map _

/-- A read of an `n`-byte value is positional. -/
theorem positional_readValue (n : Nat) : Positional (readValue n) :=
  (positional_readNat n).map _

/-- The size prefix is positional: its first byte chooses how many more are read. -/
theorem positional_readSizeBytes : Positional readSizeBytes :=
  (positional_readNat 1).bind fun _ => .ite _ (.pure _) <|
    (positional_readNat 1).bind fun _ => .ite _ (.pure _) <|
      (positional_readNat 2).bind fun _ => .pure _

/-- The checked size is positional. -/
theorem positional_readSize (maxSize : Nat) : Positional (readSize maxSize) :=
  positional_readSizeBytes.bind fun _ =>
    .ite _ ((positional_fail _).bind fun _ => .pure _) (.pure _)

/-- The presence flag is positional. -/
theorem positional_readBool : Positional readBool :=
  (positional_readNat 1).bind fun _ =>
    .ite _ ((positional_fail _).bind fun _ => .pure _) ((Positional.pure _).bind fun _ => .pure _)

/-- A blob is positional: the size read chooses how many bytes follow. -/
theorem positional_readBlob (maxSize : Nat) : Positional (readBlob maxSize) :=
  (positional_readSize maxSize).bind positional_readBytes

/-- Reading elements in place is positional when each element's reader is. -/
theorem positional_readElems {f : α → Deserializer α} (hf : ∀ x, Positional (f x)) :
    ∀ ys : List α, Positional (readElems f ys)
  | [] => Positional.pure _
  | y :: ys => (hf y).bind fun _ =>
      (positional_readElems hf ys).bind fun _ => Positional.pure _

/-- A container is positional when its element reader is. -/
theorem positional_readContainer (maxSize : Nat) {f : α → Deserializer α}
    (hf : ∀ x, Positional (f x)) (d : α) (obj : List α) :
    Positional (readContainer maxSize f d obj) :=
  (positional_readSize maxSize).bind fun _ => positional_readElems hf _

/-- An optional is positional when its value's reader is. -/
theorem positional_readOptional {f : Deserializer α} (hf : Positional f) :
    Positional (readOptional f) :=
  positional_readBool.bind fun _ => .ite _ (hf.map _) (Positional.pure _)

/-- A discriminant is positional. -/
theorem positional_readIndex (count : Nat) : Positional (readIndex count) :=
  positional_readSize _

end Yabridge.Bitsery
