import WheeltecVcuSerial.Protocol.Codec

namespace WheeltecVcuSerial

structure ParsedFeedbackFrame where
  frame : FeedbackFrame := Vector.replicate _ 0
  feedback : FeedbackData := {}
  deriving DecidableEq

structure FeedbackParserStatistics where
  validFrames : UInt64 := 0
  checksumFailures : UInt64 := 0
  framingFailures : UInt64 := 0
  discardedBytes : UInt64 := 0
  deriving DecidableEq

theorem feedbackFrameSize_pos : 0 < feedbackFrameSize := by decide

/-- A `FeedbackParser` between two bytes: its storage never holds a complete candidate. -/
structure FeedbackParser where
  retained : FeedbackFrame := Vector.replicate _ 0
  retainedSize : Nat := 0
  statistics : FeedbackParserStatistics := {}
  bounded : retainedSize < feedbackFrameSize := by exact feedbackFrameSize_pos

namespace FeedbackParserStatistics

def discard (statistics : FeedbackParserStatistics) (count : Nat) : FeedbackParserStatistics :=
  { statistics with discardedBytes := statistics.discardedBytes + .ofNat count }

def countFramingFailure (statistics : FeedbackParserStatistics) : FeedbackParserStatistics :=
  { statistics with framingFailures := statistics.framingFailures + 1 }

def countFailure (statistics : FeedbackParserStatistics) :
    FeedbackDecodeError → FeedbackParserStatistics
  | .checksumMismatch => { statistics with checksumFailures := statistics.checksumFailures + 1 }
  | _ => statistics.countFramingFailure

def countValid (statistics : FeedbackParserStatistics) : FeedbackParserStatistics :=
  { statistics with validFrames := statistics.validFrames + 1 }

end FeedbackParserStatistics

namespace FeedbackParser

def retainedByteCount (parser : FeedbackParser) : Nat := parser.retainedSize

/-- Where `std::find` stops in the bytes behind the first one, counted from the first one. -/
def discardCount (retained : FeedbackFrame) : Nat :=
  retained.toList.tail.findIdx (· == frameHeader) + 1

/-- `std::move` of the bytes from `count` on to the front: those behind them stay as they were. -/
def moveToFront (retained : FeedbackFrame) (count : Nat) : FeedbackFrame :=
  Vector.ofFn fun i =>
    if h : i + count < feedbackFrameSize then retained[i + count] else retained[i]

/-- The parser is entered with `retained_` complete, which no `FeedbackParser` is. -/
def resynchronizeAfterInvalidCandidate (retained : FeedbackFrame)
    (statistics : FeedbackParserStatistics) : FeedbackParser :=
  let count := discardCount retained
  if count = feedbackFrameSize then
    { retained := retained, retainedSize := 0, statistics := statistics.discard count }
  else
    { retained := moveToFront retained count
      retainedSize := feedbackFrameSize - count
      statistics := statistics.discard count
      bounded := Nat.sub_lt feedbackFrameSize_pos (Nat.succ_pos _) }

/-- One round of the loop of `consume`. -/
def consumeByte (parser : FeedbackParser) (byte : UInt8) :
    FeedbackParser × Option ParsedFeedbackFrame :=
  if parser.retainedSize = 0 ∧ byte ≠ frameHeader then
    ({ parser with statistics := parser.statistics.discard 1 }, none)
  else
    let retained := parser.retained.set parser.retainedSize byte parser.bounded
    if h : parser.retainedSize + 1 < feedbackFrameSize then
      ({ parser with retained := retained, retainedSize := parser.retainedSize + 1, bounded := h },
        none)
    else
      let decoded := decodeFeedbackFrame retained
      if decoded.ok then
        ({ retained := retained, retainedSize := 0, statistics := parser.statistics.countValid },
          some { frame := retained, feedback := decoded.feedback })
      else
        (resynchronizeAfterInvalidCandidate retained
          (parser.statistics.countFailure decoded.error), none)

/-- The four ways through the loop's body. -/
inductive Consumed (parser : FeedbackParser) (byte : UInt8) :
    FeedbackParser × Option ParsedFeedbackFrame → Prop
  | skipped (hempty : parser.retainedSize = 0) (hbyte : byte ≠ frameHeader) :
      Consumed parser byte ({ parser with statistics := parser.statistics.discard 1 }, none)
  | stored (hstored : ¬(parser.retainedSize = 0 ∧ byte ≠ frameHeader))
      (hshort : parser.retainedSize + 1 < feedbackFrameSize) :
      Consumed parser byte
        ({ parser with
            retained := parser.retained.set parser.retainedSize byte parser.bounded
            retainedSize := parser.retainedSize + 1
            bounded := hshort }, none)
  | accepted (hstored : ¬(parser.retainedSize = 0 ∧ byte ≠ frameHeader))
      (hfull : ¬parser.retainedSize + 1 < feedbackFrameSize)
      (hcandidate : parser.retained.set parser.retainedSize byte parser.bounded = candidate)
      (hok : (decodeFeedbackFrame candidate).ok = true) :
      Consumed parser byte
        ({ retained := candidate, retainedSize := 0, statistics := parser.statistics.countValid },
          some { frame := candidate, feedback := (decodeFeedbackFrame candidate).feedback })
  | rejected (hstored : ¬(parser.retainedSize = 0 ∧ byte ≠ frameHeader))
      (hfull : ¬parser.retainedSize + 1 < feedbackFrameSize)
      (hcandidate : parser.retained.set parser.retainedSize byte parser.bounded = candidate)
      (hfail : ¬(decodeFeedbackFrame candidate).ok = true) :
      Consumed parser byte
        (resynchronizeAfterInvalidCandidate candidate
          (parser.statistics.countFailure (decodeFeedbackFrame candidate).error), none)

theorem consumed (parser : FeedbackParser) (byte : UInt8) :
    parser.Consumed byte (parser.consumeByte byte) := by
  unfold consumeByte
  split
  · case isTrue hskip => exact .skipped hskip.1 hskip.2
  · case isFalse hstored =>
    dsimp only
    split
    · case isTrue hshort => exact .stored hstored hshort
    · case isFalse hfull =>
      split
      · case isTrue hok => exact .accepted hstored hfull rfl hok
      · case isFalse hfail => exact .rejected hstored hfull rfl hfail

def consumeBytes (parser : FeedbackParser) : List UInt8 → FeedbackParser × List ParsedFeedbackFrame
  | [] => (parser, [])
  | byte :: data =>
    let first := parser.consumeByte byte
    let rest := first.1.consumeBytes data
    (rest.1, first.2.toList ++ rest.2)

def consume (parser : FeedbackParser) (span : ByteSpan) :
    FeedbackParser × List ParsedFeedbackFrame :=
  if span.size = 0 then (parser, [])
  else
    match span with
    | .null size =>
      ({ parser with statistics := parser.statistics.countFramingFailure.discard size }, [])
    | .bytes data => parser.consumeBytes data

def reset (_ : FeedbackParser) : FeedbackParser :=
  { retained := Vector.replicate _ 0, retainedSize := 0, statistics := {} }

/-- Calls of `consume`, one after the other, with all that they return. -/
def consumeAll (parser : FeedbackParser) :
    List ByteSpan → FeedbackParser × List ParsedFeedbackFrame
  | [] => (parser, [])
  | chunk :: chunks =>
    let first := parser.consume chunk
    let rest := first.1.consumeAll chunks
    (rest.1, first.2 ++ rest.2)

/-- The bytes of `retained_` in use. -/
def retainedBytes (parser : FeedbackParser) : List UInt8 :=
  parser.retained.toList.take parser.retainedSize

@[simp] theorem length_retainedBytes (parser : FeedbackParser) :
    parser.retainedBytes.length = parser.retainedByteCount := by
  have := parser.bounded
  simp only [retainedBytes, retainedByteCount, List.length_take, Vector.length_toList]
  omega

end FeedbackParser

end WheeltecVcuSerial
