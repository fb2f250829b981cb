import Yabridge.Serialization.Structs

/-!
# `Yabridge.Proofs.AEffect`: merging a descriptor into the live one

The plugin descriptor is the one value both sides keep alive: `serialize(S&, AEffect&)` says
it touches none of the pointer fields, "that way you can deserialize to an existing `AEffect`
instance". This module states what such a merge does.

* `AEffect.deserialize_sets_numeric_fields`: on a complete frame the merge consumes 48 bytes,
  sets the twelve numeric fields and leaves every other field of the live descriptor as it
  was.
* `AEffect.deserialize_ok` describes the merge on *every* input. The twelve reads run in
  order and each writes its field at once; a read past the end zeroes its field and fails the
  adapter, and the reads after it yield zeros. `wordAt bs i` is what field `i` ends up
  holding. So a failed merge leaves the pointers alone but not the numeric fields:
  `AEffect.deserialize_truncated` states it, and `AEffect.failed_deserialize_modifies`
  refutes "a failed decode leaves the descriptor untouched" on a 4-byte input.

The description runs by a cursor over the input: `afterWords bs i` is the adapter after `i`
words, and `readValue_afterWords` is the step lemma, one read moving the cursor by one word.

A side keeps its live descriptor for as long as the plugin is loaded and decodes every
descriptor frame it receives into it. `AEffect.updates` folds these decodes over the frames
received, in order. The model assumes nothing about the frames: complete, truncated and garbage
inputs all update the descriptor, as a failed decode is not undone. One decode is a merge of what
the frame decodes to in a fresh descriptor (`AEffect.deserialize_eq_merge`), and a run keeps
every pointer field (`AEffect.merge_updates`). So `AEffect.updates_eq_merge_last` holds: after
any run, the descriptor holds its initial pointers and what the last frame alone decodes to.
-/

set_option autoImplicit false

namespace Yabridge

open Bitsery Deserializer

/-- **A merge on a complete frame.** Deserializing `a`'s 48-byte frame into a live `b`, with
any bytes after it, sets `b`'s twelve numeric fields to `a`'s, `unkown_float` bit for bit, and
keeps every other field of `b`: the dispatcher, process, parameter and `processReplacing`
function pointers, and `ptr1`, `ptr2`, `ptr3` and `user`. -/
theorem AEffect.deserialize_sets_numeric_fields (a b : AEffect) (rest : List UInt8) :
    a.serialize.length = 48 ∧
    b.deserialize (.ok (a.serialize ++ rest)) =
      ({ b with
          magic := a.magic, numPrograms := a.numPrograms, numParams := a.numParams,
          numInputs := a.numInputs, numOutputs := a.numOutputs, flags := a.flags,
          initialDelay := a.initialDelay, empty3a := a.empty3a, empty3b := a.empty3b,
          unkownFloat := a.unkownFloat, uniqueID := a.uniqueID, version := a.version },
        .ok rest) :=
  ⟨a.length_serialize, b.deserialize_serialize a rest⟩

/-- The `i`-th 4-byte word of `bs`, or `0` when `bs` ends before that word is complete. -/
def wordAt (bs : List UInt8) (i : Nat) : BitVec 32 :=
  if 4 * (i + 1) ≤ bs.length then BitVec.ofNat 32 (leValue ((bs.drop (4 * i)).take 4)) else 0

/-- The adapter after `i` words of `bs` have been read. -/
def afterWords (bs : List UInt8) (i : Nat) : Input :=
  if 4 * i ≤ bs.length then .ok (bs.drop (4 * i)) else .failed .dataOverflow

/-- One read moves the cursor by one word and yields that word, or zero past the end. -/
theorem readValue_afterWords (bs : List UInt8) (i : Nat) :
    readValue 4 (afterWords bs i) = (wordAt bs i, afterWords bs (i + 1)) := by
  by_cases hi : 4 * (i + 1) ≤ bs.length
  · have hd : 4 ≤ (bs.drop (4 * i)).length := by simp; omega
    simp only [afterWords, if_pos (show 4 * i ≤ bs.length by omega), if_pos hi, wordAt,
      readValue_of_le hd, List.drop_drop]
    rw [show 4 * (i + 1) = 4 * i + 4 by omega]
  · have hw : wordAt bs i = 0 := if_neg hi
    have ha : afterWords bs (i + 1) = .failed .dataOverflow := if_neg hi
    rw [hw, ha]
    unfold afterWords
    split_ifs with h0
    · exact readValue_of_lt (by simp; omega)
    · exact readValue_failed 4 _

/-- **The merge on any input.** Field `i` of the twelve ends up holding `wordAt bs i`; every
other field keeps `b`'s value; the adapter ends after twelve words, or failed. -/
theorem AEffect.deserialize_ok (b : AEffect) (bs : List UInt8) :
    b.deserialize (.ok bs) =
      ({ b with
          magic := wordAt bs 0, numPrograms := wordAt bs 1, numParams := wordAt bs 2,
          numInputs := wordAt bs 3, numOutputs := wordAt bs 4, flags := wordAt bs 5,
          initialDelay := wordAt bs 6, empty3a := wordAt bs 7, empty3b := wordAt bs 8,
          unkownFloat := wordAt bs 9, uniqueID := wordAt bs 10, version := wordAt bs 11 },
        afterWords bs 12) := by
  have h0 : Input.ok bs = afterWords bs 0 := by simp [afterWords]
  rw [h0]
  simp [AEffect.deserialize, readValue_afterWords]

/-- **A failed merge.** On an input of fewer than 48 bytes the merge fails with
`dataOverflow`, and the live descriptor is left with its pointer fields unchanged, the numeric
fields whose four bytes arrived set to the bytes, and the remaining numeric fields zeroed. -/
theorem AEffect.deserialize_truncated (b : AEffect) (bs : List UInt8) (h : bs.length < 48) :
    b.deserialize (.ok bs) =
      ({ b with
          magic := wordAt bs 0, numPrograms := wordAt bs 1, numParams := wordAt bs 2,
          numInputs := wordAt bs 3, numOutputs := wordAt bs 4, flags := wordAt bs 5,
          initialDelay := wordAt bs 6, empty3a := wordAt bs 7, empty3b := wordAt bs 8,
          unkownFloat := wordAt bs 9, uniqueID := wordAt bs 10, version := wordAt bs 11 },
        .failed .dataOverflow) := by
  rw [AEffect.deserialize_ok, afterWords, if_neg (by omega)]

/-- A live descriptor, with the magic `VstP`, eight parameters and non-null function pointers,
given the four bytes `1 0 0 0`: the merge fails, `magic` becomes `1`, the parameter count is
zeroed with the other numeric fields, and every pointer is kept. -/
theorem AEffect.deserialize_truncated_magic :
    ([1, 0, 0, 0] : List UInt8).length < 48 ∧
    ({ (default : AEffect) with
        magic := 0x56737450, numParams := 8, dispatcher := 0x1000, process := 0x2000,
        setParameter := 0x3000, getParameter := 0x4000, processReplacing := 0x5000 } :
          AEffect).deserialize (.ok [1, 0, 0, 0]) =
      ({ (default : AEffect) with
          magic := 1, dispatcher := 0x1000, process := 0x2000, setParameter := 0x3000,
          getParameter := 0x4000, processReplacing := 0x5000 }, .failed .dataOverflow) :=
  ⟨by decide, by rw [AEffect.deserialize_truncated _ _ (by decide)]; decide⟩

/-- "A failed decode into a live `AEffect` leaves it untouched" is false: the 4-byte input
`1 0 0 0` fails the merge after overwriting `magic`. -/
theorem AEffect.failed_deserialize_modifies :
    ¬ ∀ (b : AEffect) (bs : List UInt8), (b.deserialize (.ok bs)).2.isOk = false →
      (b.deserialize (.ok bs)).1 = b := by
  intro h
  have := h default [1, 0, 0, 0] (by rw [AEffect.deserialize_ok]; decide)
  rw [AEffect.deserialize_ok] at this
  exact absurd (congrArg AEffect.magic this) (by decide)

/-! ### The live descriptor over a run of updates -/

/-- Modelled from the spec: the live descriptor a side keeps for a loaded plugin, after each of
`frames` has been deserialized into it in turn (§3: it "is only ever *updated in place* via the
serializable subset of its fields"). -/
def AEffect.updates (live : AEffect) (frames : List (List UInt8)) : AEffect :=
  frames.foldl (fun b frame => (b.deserialize (.ok frame)).1) live

/-- One decode, on any input, is a merge of what that input decodes to in a fresh descriptor:
it writes the twelve numeric fields and no other. -/
theorem AEffect.deserialize_eq_merge (b : AEffect) (i : Input) :
    b.deserialize i =
      (b.merge ((default : AEffect).deserialize i).1, ((default : AEffect).deserialize i).2) :=
  rfl

/-- A second merge overwrites everything the first one wrote. -/
theorem AEffect.merge_merge (b a a' : AEffect) : (b.merge a).merge a' = b.merge a' := rfl

/-- A run of updates changes no field outside the twelve. -/
theorem AEffect.merge_updates (live : AEffect) (frames : List (List UInt8)) (a : AEffect) :
    (live.updates frames).merge a = live.merge a := by
  induction frames generalizing live with
  | nil => rfl
  | cons frame frames ih =>
    exact (ih _).trans (merge_merge live ((default : AEffect).deserialize (.ok frame)).1 a)

/-- **The live descriptor after any run of updates.** Whatever frames a side has decoded into
its live descriptor, complete, truncated or garbage, and however many: after the last one, the
descriptor holds the pointer fields it started with and the twelve numeric fields that the last
frame alone decodes to. No earlier frame leaves a trace. -/
theorem AEffect.updates_eq_merge_last (live : AEffect) (frames : List (List UInt8))
    (frame : List UInt8) :
    live.updates (frames ++ [frame]) =
      live.merge ((default : AEffect).deserialize (.ok frame)).1 := by
  simp only [AEffect.updates, List.foldl_append, List.foldl_cons, List.foldl_nil]
  exact merge_updates live frames ((default : AEffect).deserialize (.ok frame)).1

end Yabridge
