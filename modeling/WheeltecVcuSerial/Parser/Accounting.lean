import WheeltecVcuSerial.Parser.Storage
import WheeltecVcuSerial.Parser.Streaming

namespace WheeltecVcuSerial

/-- The counters of a parser before they are cut to 64 bits. -/
structure Tally where
  validFrames : Nat := 0
  checksumFailures : Nat := 0
  framingFailures : Nat := 0
  discardedBytes : Nat := 0

namespace Tally

def statistics (tally : Tally) : FeedbackParserStatistics where
  validFrames := .ofNat tally.validFrames
  checksumFailures := .ofNat tally.checksumFailures
  framingFailures := .ofNat tally.framingFailures
  discardedBytes := .ofNat tally.discardedBytes

def failures (tally : Tally) : Nat := tally.checksumFailures + tally.framingFailures

def discard (tally : Tally) (count : Nat) : Tally :=
  { tally with discardedBytes := tally.discardedBytes + count }

def countFramingFailure (tally : Tally) : Tally :=
  { tally with framingFailures := tally.framingFailures + 1 }

def countFailure (tally : Tally) : FeedbackDecodeError → Tally
  | .checksumMismatch => { tally with checksumFailures := tally.checksumFailures + 1 }
  | _ => tally.countFramingFailure

def countValid (tally : Tally) : Tally := { tally with validFrames := tally.validFrames + 1 }

theorem statistics_discard (tally : Tally) (count : Nat) :
    (tally.discard count).statistics = tally.statistics.discard count := by
  simp [statistics, discard, FeedbackParserStatistics.discard, UInt64.ofNat_add]

theorem statistics_countFramingFailure (tally : Tally) :
    tally.countFramingFailure.statistics = tally.statistics.countFramingFailure := by
  simp [statistics, countFramingFailure, FeedbackParserStatistics.countFramingFailure,
    UInt64.ofNat_add]

theorem statistics_countFailure (tally : Tally) (error : FeedbackDecodeError) :
    (tally.countFailure error).statistics = tally.statistics.countFailure error := by
  cases error with
  | checksumMismatch =>
    simp [statistics, countFailure, FeedbackParserStatistics.countFailure, UInt64.ofNat_add]
  | _ => exact statistics_countFramingFailure tally

theorem statistics_countValid (tally : Tally) :
    tally.countValid.statistics = tally.statistics.countValid := by
  simp [statistics, countValid, FeedbackParserStatistics.countValid, UInt64.ofNat_add]

theorem countFailure_discardedBytes (tally : Tally) (error : FeedbackDecodeError) :
    (tally.countFailure error).discardedBytes = tally.discardedBytes := by
  cases error <;> rfl

theorem countFailure_validFrames (tally : Tally) (error : FeedbackDecodeError) :
    (tally.countFailure error).validFrames = tally.validFrames := by
  cases error <;> rfl

theorem countFailure_failures (tally : Tally) (error : FeedbackDecodeError) :
    (tally.countFailure error).failures = tally.failures + 1 := by
  cases error with
  | checksumMismatch => exact Nat.add_right_comm _ 1 _
  | _ => rfl

end Tally

namespace FeedbackParser

/-- `tally` accounts for the `total` bytes behind `frames` frames and what `parser` retains. -/
structure Balanced (tally : Tally) (total frames : Nat) (parser : FeedbackParser) : Prop where
  statistics : parser.statistics = tally.statistics
  bytes : feedbackFrameSize * tally.validFrames + tally.discardedBytes +
    parser.retainedByteCount = total
  frames : tally.validFrames = frames
  failures : tally.failures ≤ tally.discardedBytes

theorem Balanced.zero {parser : FeedbackParser} (hstatistics : parser.statistics = {})
    (hretained : parser.retainedByteCount = 0) : Balanced {} 0 0 parser where
  statistics := hstatistics
  bytes := by rw [hretained]; rfl
  frames := rfl
  failures := Nat.le_refl 0

theorem discardCount_pos (retained : FeedbackFrame) : 0 < discardCount retained :=
  Nat.succ_pos _

theorem retainedByteCount_resynchronize (retained : FeedbackFrame)
    (statistics : FeedbackParserStatistics) :
    (resynchronizeAfterInvalidCandidate retained statistics).retainedByteCount =
      feedbackFrameSize - discardCount retained := by
  unfold resynchronizeAfterInvalidCandidate
  dsimp only
  split
  · case isTrue hnone => rw [hnone, Nat.sub_self]; rfl
  · rfl

theorem statistics_resynchronize (retained : FeedbackFrame)
    (statistics : FeedbackParserStatistics) :
    (resynchronizeAfterInvalidCandidate retained statistics).statistics =
      statistics.discard (discardCount retained) := by
  unfold resynchronizeAfterInvalidCandidate
  dsimp only
  split <;> rfl

section

variable {tally : Tally} {total frames : Nat} {parser : FeedbackParser}

theorem Balanced.skipped (h : Balanced tally total frames parser)
    (hempty : parser.retainedSize = 0) :
    Balanced (tally.discard 1) (total + 1) frames
      { parser with statistics := parser.statistics.discard 1 } where
  statistics := by rw [Tally.statistics_discard, h.statistics]
  bytes := by
    have := h.bytes
    simp only [retainedByteCount, Tally.discard] at this ⊢
    omega
  frames := h.frames
  failures := Nat.le_succ_of_le h.failures

theorem Balanced.stored (h : Balanced tally total frames parser) (retained : FeedbackFrame)
    (hshort : parser.retainedSize + 1 < feedbackFrameSize) :
    Balanced tally (total + 1) frames
      { parser with
          retained := retained, retainedSize := parser.retainedSize + 1, bounded := hshort } where
  statistics := h.statistics
  bytes := by rw [← h.bytes]; rfl
  frames := h.frames
  failures := h.failures

theorem Balanced.accepted (h : Balanced tally total frames parser) (retained : FeedbackFrame)
    (hfull : ¬parser.retainedSize + 1 < feedbackFrameSize) :
    Balanced tally.countValid (total + 1) (frames + 1)
      { retained := retained, retainedSize := 0,
        statistics := parser.statistics.countValid } where
  statistics := by rw [Tally.statistics_countValid, h.statistics]
  bytes := by
    have hbytes := h.bytes
    have hbounded := parser.bounded
    simp only [retainedByteCount, Tally.countValid, Nat.mul_succ] at hbytes ⊢
    omega
  frames := congrArg Nat.succ h.frames
  failures := h.failures

/-- A rejected candidate gives up as many bytes as it discards, one at least. -/
theorem Balanced.rejected (h : Balanced tally total frames parser) (retained : FeedbackFrame)
    (error : FeedbackDecodeError) (hfull : ¬parser.retainedSize + 1 < feedbackFrameSize) :
    Balanced ((tally.countFailure error).discard (discardCount retained)) (total + 1) frames
      (resynchronizeAfterInvalidCandidate retained (parser.statistics.countFailure error)) where
  statistics := by
    rw [statistics_resynchronize, Tally.statistics_discard, Tally.statistics_countFailure,
      h.statistics]
  bytes := by
    have hbytes := h.bytes
    have hbounded := parser.bounded
    have hcount := discardCount_le retained
    rw [retainedByteCount_resynchronize]
    simp only [retainedByteCount, Tally.discard, Tally.countFailure_discardedBytes,
      Tally.countFailure_validFrames] at hbytes ⊢
    omega
  frames := (tally.countFailure_validFrames error).trans h.frames
  failures := by
    have hfailures := h.failures
    have hcount := discardCount_pos retained
    have hcounted := tally.countFailure_failures error
    have hkept := tally.countFailure_discardedBytes error
    simp only [Tally.discard, Tally.failures] at hcounted hfailures ⊢
    omega

theorem Balanced.consumeByte (h : Balanced tally total frames parser) (byte : UInt8) :
    ∃ next, Balanced next (total + 1) (frames + (parser.consumeByte byte).2.toList.length)
      (parser.consumeByte byte).1 := by
  have hconsumed := parser.consumed byte
  generalize parser.consumeByte byte = result at hconsumed
  cases hconsumed with
  | skipped hempty hbyte => exact ⟨_, h.skipped hempty⟩
  | stored hstored hshort => exact ⟨_, h.stored _ hshort⟩
  | accepted hstored hfull hcandidate hok => exact ⟨_, h.accepted _ hfull⟩
  | rejected hstored hfull hcandidate hfail => exact ⟨_, h.rejected _ _ hfull⟩

theorem Balanced.consumeBytes (h : Balanced tally total frames parser) (data : List UInt8) :
    ∃ next, Balanced next (total + data.length) (frames + (parser.consumeBytes data).2.length)
      (parser.consumeBytes data).1 := by
  induction data generalizing tally total frames parser with
  | nil => exact ⟨tally, h⟩
  | cons byte data ih =>
    obtain ⟨first, hfirst⟩ := h.consumeByte byte
    obtain ⟨next, hnext⟩ := ih hfirst
    refine ⟨next, ?_⟩
    rw [FeedbackParser.consumeBytes, List.length_append, List.length_cons, ← Nat.add_assoc,
      ← Nat.add_right_comm, ← Nat.add_assoc]
    exact hnext

/-- A null pointer counts as one failure, with a byte to match it. -/
theorem Balanced.null (h : Balanced tally total frames parser) (hsize : size ≠ 0) :
    Balanced (tally.countFramingFailure.discard size) (total + size) frames
      { parser with statistics := parser.statistics.countFramingFailure.discard size } where
  statistics := by
    rw [Tally.statistics_discard, Tally.statistics_countFramingFailure, h.statistics]
  bytes := by
    have hbytes := h.bytes
    simp only [retainedByteCount, Tally.discard, Tally.countFramingFailure] at hbytes ⊢
    omega
  frames := h.frames
  failures := by
    have hfailures := h.failures
    simp only [Tally.discard, Tally.countFramingFailure, Tally.failures] at hfailures ⊢
    omega

theorem Balanced.consume (h : Balanced tally total frames parser) (chunk : ByteSpan) :
    ∃ next, Balanced next (total + chunk.size) (frames + (parser.consume chunk).2.length)
      (parser.consume chunk).1 := by
  cases chunk with
  | null size =>
    unfold FeedbackParser.consume
    split
    · case isTrue hzero =>
      rw [hzero]
      exact ⟨tally, h⟩
    · case isFalse hsize => exact ⟨_, h.null hsize⟩
  | bytes data =>
    rw [consume_bytes]
    exact h.consumeBytes data

theorem Balanced.consumeAll (h : Balanced tally total frames parser) (chunks : List ByteSpan) :
    ∃ next, Balanced next (total + (chunks.map ByteSpan.size).sum)
      (frames + (parser.consumeAll chunks).2.length) (parser.consumeAll chunks).1 := by
  induction chunks generalizing tally total frames parser with
  | nil => exact ⟨tally, h⟩
  | cons chunk chunks ih =>
    obtain ⟨first, hfirst⟩ := h.consume chunk
    obtain ⟨next, hnext⟩ := ih hfirst
    refine ⟨next, ?_⟩
    rw [FeedbackParser.consumeAll, List.length_append, List.map_cons, List.sum_cons,
      ← Nat.add_assoc, ← Nat.add_assoc]
    exact hnext

end

/-- The bytes passed to calls of `consume`, null pointers with their sizes. -/
def totalSize (chunks : List ByteSpan) : Nat := (chunks.map ByteSpan.size).sum

/-- The counters of a parser against the `total` bytes passed in and the frames returned. -/
structure Accounted (total : Nat) (parsed : List ParsedFeedbackFrame) (parser : FeedbackParser) :
    Prop where
  bytes : total < UInt64.size → 24 * parser.statistics.validFrames.toNat +
    parser.statistics.discardedBytes.toNat + parser.retainedByteCount = total
  frames : parsed.length < UInt64.size → parser.statistics.validFrames.toNat = parsed.length
  failures : total < UInt64.size → parser.statistics.checksumFailures.toNat +
    parser.statistics.framingFailures.toNat ≤ parser.statistics.discardedBytes.toNat
  retained : parser.retainedByteCount ≤ 23
  header : 0 < parser.retainedByteCount → parser.retained[0] = frameHeader

/-- `Accounted` after calls of `consume` whose writes all fall into `retained_`. -/
structure Accounts (parser : FeedbackParser) (chunks : List ByteSpan) : Prop where
  accounted : Accounted (totalSize chunks) (parser.consumeAll chunks).2 (parser.consumeAll chunks).1
  inRange : (parser.members.consumeAll chunks).isSome

/-- What is retained starts where the scan stopped at a header. -/
theorem header_of_streams {parser : FeedbackParser} {chunks : List ByteSpan}
    (h : parser.Streams chunks) (hretained : 0 < (parser.consumeAll chunks).1.retainedByteCount) :
    (parser.consumeAll chunks).1.retained[0] = frameHeader := by
  have hhead := List.head?_dropWhile_not (· != frameHeader)
    (feedbackFormat.scan (chunks.flatMap ByteSpan.content)).2
  rw [← h.retained] at hhead
  generalize (parser.consumeAll chunks).1 = final at *
  have hfirst : final.retainedBytes.head? = some final.retained[0] := by
    rw [retainedBytes, List.head?_take, if_neg (by exact Nat.ne_of_gt hretained),
      List.head?_eq_getElem?, Vector.getElem?_toList]
    rfl
  rw [hfirst] at hhead
  simpa using hhead

/-- Counters that the bytes bound are not cut while the bytes fit into 64 bits. -/
theorem Balanced.accounted {tally : Tally} {total : Nat} {parsed : List ParsedFeedbackFrame}
    {parser : FeedbackParser} (h : Balanced tally total parsed.length parser)
    (hheader : 0 < parser.retainedByteCount → parser.retained[0] = frameHeader) :
    Accounted total parsed parser := by
  have hbytes : 24 * tally.validFrames + tally.discardedBytes + parser.retainedByteCount = total :=
    h.bytes
  have hfailures : tally.checksumFailures + tally.framingFailures ≤ tally.discardedBytes :=
    h.failures
  constructor
  · intro htotal
    rw [h.statistics]
    simp only [Tally.statistics]
    rw [UInt64.toNat_ofNat_of_lt' (by omega), UInt64.toNat_ofNat_of_lt' (by omega)]
    exact hbytes
  · intro hparsed
    rw [h.statistics, ← h.frames]
    exact UInt64.toNat_ofNat_of_lt' (h.frames ▸ hparsed)
  · intro htotal
    rw [h.statistics]
    simp only [Tally.statistics]
    rw [UInt64.toNat_ofNat_of_lt' (by omega), UInt64.toNat_ofNat_of_lt' (by omega),
      UInt64.toNat_ofNat_of_lt' (by omega)]
    exact hfailures
  · exact Nat.le_of_lt_succ parser.bounded
  · exact hheader

theorem accounts_of_empty {parser : FeedbackParser} (hstatistics : parser.statistics = {})
    (hretained : parser.retainedByteCount = 0) (chunks : List ByteSpan) :
    parser.Accounts chunks := by
  obtain ⟨tally, htally⟩ := (Balanced.zero hstatistics hretained).consumeAll chunks
  rw [Nat.zero_add, Nat.zero_add] at htally
  constructor
  · apply htally.accounted
    exact header_of_streams (streams_of_empty (retainedBytes_eq_nil_iff.mpr hretained) chunks)
  · rw [members_consumeAll]
    rfl

/-- The counters of a parser add up to the bytes passed to it. -/
theorem accounts (parser : FeedbackParser) (chunks : List ByteSpan) :
    ({} : FeedbackParser).Accounts chunks ∧ parser.reset.Accounts chunks :=
  ⟨accounts_of_empty rfl rfl chunks, accounts_of_empty rfl rfl chunks⟩

/-- A byte behind a null pointer with the largest size takes `discarded_bytes` back to zero. -/
theorem failures_exceed_discarded :
    let statistics := (({} : FeedbackParser).consumeAll
      [.null (2 ^ 64 - 1), .bytes [0]]).1.statistics
    statistics.discardedBytes.toNat <
      statistics.checksumFailures.toNat + statistics.framingFailures.toNat := by
  decide

end FeedbackParser

end WheeltecVcuSerial
