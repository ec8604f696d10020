import WheeltecVcuSerial.Framing.Parity
import WheeltecVcuSerial.Protocol.Encoding

namespace WheeltecVcuSerial

open Framing

/-- Bytes as the words of a parity. -/
def byteWords (data : List UInt8) : List (BitVec 8) := data.map UInt8.toBitVec

/-- A frame with the bits of an error pattern flipped. -/
def corrupt (frame error : FeedbackFrame) : FeedbackFrame := frame.zipWith (· ^^^ ·) error

/-! ### The checksum -/

theorem toBitVec_foldl_xor (data : List UInt8) (value : UInt8) :
    (data.foldl (fun value byte => value ^^^ byte) value).toBitVec =
      value.toBitVec ^^^ parity (byteWords data) := by
  induction data generalizing value with
  | nil => exact BitVec.xor_zero.symm
  | cons byte data ih =>
    rw [List.foldl_cons, ih, UInt8.toBitVec_xor, BitVec.xor_assoc]
    rfl

theorem toBitVec_xorRange (data : List UInt8) :
    (xorRange data data.length).toBitVec = parity (byteWords data) := by
  rw [xorRange, List.take_length, toBitVec_foldl_xor]
  exact BitVec.zero_xor

/-- The checksum takes bytes 0 to 22 to zero, which leaves the tail. -/
theorem WellFormedFeedback.parity_eq {data : List UInt8} (h : WellFormedFeedback data) :
    parity (byteWords data) = frameTail.toBitVec := by
  have hxor : xorRange data 24 = frameTail := by
    rw [xorRange_succ (by rw [h.size]; decide), xorRange_succ (by rw [h.size]; decide),
      h.checksum, h.tail, UInt8.xor_self, UInt8.zero_xor]
  rw [← toBitVec_xorRange, h.size, ← hxor]

/-! ### Corrupted frames -/

@[simp] theorem length_byteWords (frame : FeedbackFrame) :
    (byteWords frame.toList).length = feedbackFrameSize := by
  rw [byteWords, List.length_map, Vector.length_toList]

theorem byteWords_corrupt (frame error : FeedbackFrame) :
    byteWords (corrupt frame error).toList =
      Framing.flip (byteWords frame.toList) (byteWords error.toList) := by
  rw [corrupt, Vector.toList_zipWith, byteWords, byteWords, byteWords, Framing.flip,
    List.map_zipWith, List.zipWith_map]
  rfl

theorem eq_zero_of_byteWords {error : FeedbackFrame}
    (h : ∀ word ∈ byteWords error.toList, word = 0) : error = Vector.replicate _ 0 := by
  apply Vector.ext
  intro index hindex
  rw [Vector.getElem_replicate]
  apply UInt8.toBitVec_inj.mp
  apply h
  apply List.mem_map_of_mem
  rw [Vector.mem_toList_iff]
  exact Vector.getElem_mem hindex

/-- No burst leads from an accepted frame to an accepted frame. -/
theorem decode_corrupt {frame error : FeedbackFrame} {order : BitOrder} {start : Nat}
    (hok : (decodeFeedbackFrame frame).ok = true)
    (hburst : order.Burst start (byteWords error.toList)) (herror : error ≠ Vector.replicate _ 0) :
    (decodeFeedbackFrame (corrupt frame error)).ok = false := by
  rw [Bool.eq_false_iff]
  intro hcorrupt
  have hframe := (decodeFeedbackSpan_ok_iff.mp hok).parity_eq
  have hflipped := (decodeFeedbackSpan_ok_iff.mp hcorrupt).parity_eq
  rw [byteWords_corrupt] at hflipped
  exact herror (eq_zero_of_byteWords
    (hburst.eq_zero_of_parity (by simp) (hflipped.trans hframe.symm)))

/-- The pattern of a change to one byte. -/
def changedByte (frame : FeedbackFrame) (index : Nat) (h : index < feedbackFrameSize)
    (byte : UInt8) : FeedbackFrame :=
  (Vector.replicate _ 0).set index (frame[index] ^^^ byte)

theorem corrupt_changedByte (frame : FeedbackFrame) (h : index < feedbackFrameSize) (byte : UInt8) :
    corrupt frame (changedByte frame index h byte) = frame.set index byte := by
  apply Vector.ext
  intro position hposition
  rw [corrupt, changedByte, Vector.getElem_zipWith, Vector.getElem_set, Vector.getElem_set]
  split
  · case isTrue heq =>
    subst heq
    rw [← UInt8.xor_assoc, UInt8.xor_self, UInt8.zero_xor]
  · rw [Vector.getElem_replicate, UInt8.xor_zero]

theorem burst_changedByte (frame : FeedbackFrame) (h : index < feedbackFrameSize) (byte : UInt8) :
    BitOrder.leastSignificantFirst.Burst (index * 8)
      (byteWords (changedByte frame index h byte).toList) := by
  have hwords : byteWords (changedByte frame index h byte).toList =
      (List.replicate feedbackFrameSize 0).set index (frame[index] ^^^ byte).toBitVec := by
    rw [byteWords, changedByte, Vector.toList_set, List.map_set, Vector.toList_replicate,
      List.map_replicate]
    rfl
  rw [hwords]
  exact BitOrder.burst_set _ _ _ _

theorem decode_changed {frame : FeedbackFrame} {byte : UInt8}
    (hok : (decodeFeedbackFrame frame).ok = true) (h : index < feedbackFrameSize)
    (hbyte : byte ≠ frame[index]) : (decodeFeedbackFrame (frame.set index byte)).ok = false := by
  rw [← corrupt_changedByte frame h byte]
  apply decode_corrupt hok (burst_changedByte frame h byte)
  intro hzero
  have hxor := congrArg (·[index]) hzero
  simp only [changedByte, Vector.getElem_set_self, Vector.getElem_replicate] at hxor
  exact hbyte (UInt8.xor_eq_zero_iff.mp hxor).symm

end WheeltecVcuSerial
