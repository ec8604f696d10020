import WheeltecVcuSerial.Parser.FeedbackParser
import WheeltecVcuSerial.Protocol.Wire
import WheeltecVcuSerial.Framing.Scan

namespace WheeltecVcuSerial

open Framing

def feedbackFormat : FrameFormat UInt8 where
  size := feedbackFrameSize
  accepts window := (decodeFeedbackSpan (.bytes window)).ok
  starts byte := byte == frameHeader
  size_pos := feedbackFrameSize_pos
  starts_of_accepts h := by simpa using (decodeFeedbackSpan_ok_iff.mp h).header

@[simp] theorem feedbackFormat_size : feedbackFormat.size = feedbackFrameSize := rfl

@[simp] theorem feedbackFormat_starts (byte : UInt8) :
    feedbackFormat.starts byte = (byte == frameHeader) := rfl

@[simp] theorem feedbackFormat_accepts (frame : FeedbackFrame) :
    feedbackFormat.accepts frame.toList = (decodeFeedbackFrame frame).ok := rfl

/-- The bytes that a call of `consume` reads. -/
def ByteSpan.content : ByteSpan → List UInt8
  | .null _ => []
  | .bytes data => data

/-- A frame with the feedback that it decodes to. -/
def ParsedFeedbackFrame.Decoded (parsed : ParsedFeedbackFrame) : Prop :=
  (decodeFeedbackFrame parsed.frame).ok = true ∧
    parsed.feedback = (decodeFeedbackFrame parsed.frame).feedback

namespace FeedbackParser

/-! ### The buffer -/

theorem moveToFront_toList {retained : FeedbackFrame} {count : Nat} :
    (moveToFront retained count).toList.take (feedbackFrameSize - count) =
      retained.toList.drop count := by
  apply List.ext_getElem
  · simp
  · intro i hi hi'
    simp only [List.length_drop, Vector.length_toList] at hi'
    simp only [moveToFront, List.getElem_take, List.getElem_drop, Vector.getElem_toList,
      Vector.getElem_ofFn]
    rw [dif_pos (by omega)]
    simp [Nat.add_comm]

theorem retainedBytes_resynchronize (retained : FeedbackFrame)
    (statistics : FeedbackParserStatistics) :
    (resynchronizeAfterInvalidCandidate retained statistics).retainedBytes =
      feedbackFormat.resync retained.toList.tail := by
  have hresync : feedbackFormat.resync retained.toList.tail =
      retained.toList.drop (discardCount retained) := by
    rw [FrameFormat.resync, List.dropWhile_eq_drop_findIdx_not, List.drop_tail]
    simp [discardCount, feedbackFormat]
  rw [hresync, resynchronizeAfterInvalidCandidate]
  split
  · case isTrue hnone =>
    rw [hnone, List.drop_eq_nil_of_le (by simp)]
    rfl
  · exact moveToFront_toList

theorem retainedBytes_store (parser : FeedbackParser) (byte : UInt8) :
    (parser.retained.set parser.retainedSize byte parser.bounded).toList.take
      (parser.retainedSize + 1) = parser.retainedBytes ++ [byte] := by
  have hbounded := parser.bounded
  rw [Vector.toList_set, List.take_succ_eq_append_getElem (by simpa using hbounded)]
  simp [retainedBytes, List.take_set_of_le]

/-- The last byte of a candidate completes it. -/
theorem candidate_eq {parser : FeedbackParser} (h : ¬ parser.retainedSize + 1 < feedbackFrameSize)
    (byte : UInt8) :
    (parser.retained.set parser.retainedSize byte parser.bounded).toList =
      parser.retainedBytes ++ [byte] := by
  rw [← retainedBytes_store, List.take_of_length_le]
  simpa using h

theorem retainedBytes_eq_nil_iff {parser : FeedbackParser} :
    parser.retainedBytes = [] ↔ parser.retainedSize = 0 := by
  rw [← List.length_eq_zero_iff, length_retainedBytes, retainedByteCount]

/-! ### One byte -/

/-- A byte does to the parser what it does to a reader of the format. -/
theorem consumeByte_push (parser : FeedbackParser) (byte : UInt8) :
    feedbackFormat.push parser.retainedBytes byte =
      ((parser.consumeByte byte).2.map (·.frame.toList),
        (parser.consumeByte byte).1.retainedBytes) := by
  have hconsumed := parser.consumed byte
  generalize parser.consumeByte byte = result at hconsumed
  unfold FrameFormat.push
  simp only [retainedBytes_eq_nil_iff, feedbackFormat_starts, feedbackFormat_size,
    length_retainedBytes, retainedByteCount, beq_eq_false_iff_ne]
  cases hconsumed with
  | skipped hempty hbyte =>
    rw [if_pos ⟨hempty, hbyte⟩]
    simp [retainedBytes, hempty]
  | stored hstored hshort =>
    rw [if_neg hstored, if_pos hshort, ← retainedBytes_store]
    rfl
  | accepted hstored hfull hcandidate hok =>
    rw [if_neg hstored, if_neg hfull, ← candidate_eq hfull, hcandidate, feedbackFormat_accepts,
      if_pos hok]
    rfl
  | rejected hstored hfull hcandidate hfail =>
    rw [if_neg hstored, if_neg hfull, ← candidate_eq hfull, hcandidate, feedbackFormat_accepts,
      if_neg hfail, ← retainedBytes_resynchronize]
    rfl

theorem consumeByte_decoded {parser : FeedbackParser} {byte : UInt8}
    {parsed : ParsedFeedbackFrame} (h : (parser.consumeByte byte).2 = some parsed) :
    parsed.Decoded := by
  have hconsumed := parser.consumed byte
  generalize parser.consumeByte byte = result at h hconsumed
  cases hconsumed with
  | accepted hstored hfull hcandidate hok =>
    cases h
    exact ⟨hok, rfl⟩
  | _ => cases h

/-! ### Whole streams -/

theorem consumeBytes_pushAll (parser : FeedbackParser) (data : List UInt8) :
    feedbackFormat.pushAll parser.retainedBytes data =
      ((parser.consumeBytes data).2.map (·.frame.toList),
        (parser.consumeBytes data).1.retainedBytes) := by
  induction data generalizing parser with
  | nil => rfl
  | cons byte data ih =>
    rw [FrameFormat.pushAll, consumeByte_push, ih, consumeBytes]
    simp [Option.toList_map]

theorem consumeBytes_decoded (parser : FeedbackParser) (data : List UInt8) :
    ∀ parsed ∈ (parser.consumeBytes data).2, parsed.Decoded := by
  induction data generalizing parser with
  | nil => simp [consumeBytes]
  | cons byte data ih =>
    intro parsed hparsed
    simp only [consumeBytes, List.mem_append, Option.mem_toList] at hparsed
    cases hparsed with
    | inl hfirst => exact consumeByte_decoded hfirst
    | inr hrest => exact ih _ parsed hrest

/-- A null pointer changes the statistics at most. -/
theorem consume_null (parser : FeedbackParser) (size : Nat) :
    (parser.consume (.null size)).1.retainedBytes = parser.retainedBytes ∧
      (parser.consume (.null size)).2 = [] := by
  unfold consume
  split <;> exact ⟨rfl, rfl⟩

theorem consume_bytes (parser : FeedbackParser) (data : List UInt8) :
    parser.consume (.bytes data) = parser.consumeBytes data := by
  unfold consume
  split
  · case isTrue hempty =>
    rw [List.eq_nil_of_length_eq_zero hempty]
    rfl
  · rfl

theorem consume_pushAll (parser : FeedbackParser) (chunk : ByteSpan) :
    feedbackFormat.pushAll parser.retainedBytes chunk.content =
      ((parser.consume chunk).2.map (·.frame.toList), (parser.consume chunk).1.retainedBytes) := by
  cases chunk with
  | null size =>
    rw [(consume_null parser size).1, (consume_null parser size).2]
    rfl
  | bytes data => rw [consume_bytes]; exact consumeBytes_pushAll parser data

theorem consume_decoded (parser : FeedbackParser) (chunk : ByteSpan) :
    ∀ parsed ∈ (parser.consume chunk).2, parsed.Decoded := by
  cases chunk with
  | null size => simp [consume_null]
  | bytes data => rw [consume_bytes]; exact consumeBytes_decoded parser data

theorem consumeAll_pushAll (parser : FeedbackParser) (chunks : List ByteSpan) :
    feedbackFormat.pushAll parser.retainedBytes (chunks.flatMap ByteSpan.content) =
      ((parser.consumeAll chunks).2.map (·.frame.toList),
        (parser.consumeAll chunks).1.retainedBytes) := by
  induction chunks generalizing parser with
  | nil => rfl
  | cons chunk chunks ih =>
    rw [List.flatMap_cons, FrameFormat.pushAll_append, consume_pushAll, ih, consumeAll]
    simp

theorem consumeAll_decoded (parser : FeedbackParser) (chunks : List ByteSpan) :
    ∀ parsed ∈ (parser.consumeAll chunks).2, parsed.Decoded := by
  induction chunks generalizing parser with
  | nil => simp [consumeAll]
  | cons chunk chunks ih =>
    intro parsed hparsed
    simp only [consumeAll, List.mem_append] at hparsed
    cases hparsed with
    | inl hfirst => exact consume_decoded parser chunk parsed hfirst
    | inr hrest => exact ih _ parsed hrest

/-- `consume` calls on a parser return the frames of the scan of all their bytes. -/
structure Streams (parser : FeedbackParser) (chunks : List ByteSpan) : Prop where
  frames : (parser.consumeAll chunks).2.map (·.frame.toList) =
    (feedbackFormat.scan (chunks.flatMap ByteSpan.content)).1
  decoded : ∀ parsed ∈ (parser.consumeAll chunks).2, parsed.Decoded
  retained : (parser.consumeAll chunks).1.retainedBytes =
    (feedbackFormat.scan (chunks.flatMap ByteSpan.content)).2.dropWhile (· != frameHeader)

theorem streams_of_empty {parser : FeedbackParser} (h : parser.retainedBytes = [])
    (chunks : List ByteSpan) : parser.Streams chunks := by
  have hparse := FrameFormat.Partial.nil.pushAll (F := feedbackFormat)
    (chunks.flatMap ByteSpan.content)
  rw [← h, consumeAll_pushAll, h, List.nil_append] at hparse
  constructor
  · exact congrArg Prod.fst hparse
  · exact consumeAll_decoded parser chunks
  · exact congrArg Prod.snd hparse

theorem equals_scan (parser : FeedbackParser) (chunks : List ByteSpan) :
    ({} : FeedbackParser).Streams chunks ∧ parser.reset.Streams chunks :=
  ⟨streams_of_empty rfl chunks, streams_of_empty rfl chunks⟩

end FeedbackParser

end WheeltecVcuSerial
