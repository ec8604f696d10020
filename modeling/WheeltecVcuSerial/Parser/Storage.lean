import WheeltecVcuSerial.Parser.FeedbackParser

namespace WheeltecVcuSerial

/-- The members of a `FeedbackParser` as they are declared: nothing bounds `retained_size_`. -/
structure ParserMembers where
  retained : FeedbackFrame
  retainedSize : Nat
  statistics : FeedbackParserStatistics

namespace ParserMembers

/-- A write behind the end of `retained_` has no result. -/
def write (retained : FeedbackFrame) (index : Nat) (byte : UInt8) : Option FeedbackFrame :=
  if h : index < feedbackFrameSize then some (retained.set index byte h) else none

/-- `std::move` of `size` bytes from `source` on to the front, the first one first. -/
def moveRange (retained : FeedbackFrame) (source : Nat) : Nat → Option FeedbackFrame
  | 0 => some retained
  | size + 1 => do
    let moved ← moveRange retained source size
    let byte ← moved[source + size]?
    write moved size byte

def resynchronizeAfterInvalidCandidate (members : ParserMembers) : Option ParserMembers :=
  let discardCount := FeedbackParser.discardCount members.retained
  let statistics := members.statistics.discard discardCount
  if discardCount = feedbackFrameSize then
    some { members with retainedSize := 0, statistics := statistics }
  else do
    let suffixSize := feedbackFrameSize - discardCount
    let retained ← moveRange members.retained discardCount suffixSize
    some { retained := retained, retainedSize := suffixSize, statistics := statistics }

/-- One round of the loop of `consume`, with every write to `retained_` checked. -/
def consumeByte (members : ParserMembers) (byte : UInt8) :
    Option (ParserMembers × Option ParsedFeedbackFrame) :=
  if members.retainedSize = 0 ∧ byte ≠ frameHeader then
    some ({ members with statistics := members.statistics.discard 1 }, none)
  else do
    let retained ← write members.retained members.retainedSize byte
    if members.retainedSize + 1 < feedbackFrameSize then
      some ({ members with retained := retained, retainedSize := members.retainedSize + 1 }, none)
    else
      let decoded := decodeFeedbackFrame retained
      if decoded.ok then
        some ({ retained := retained, retainedSize := 0,
                statistics := members.statistics.countValid },
          some { frame := retained, feedback := decoded.feedback })
      else do
        let resynchronized ← resynchronizeAfterInvalidCandidate
          { retained := retained
            retainedSize := members.retainedSize + 1
            statistics := members.statistics.countFailure decoded.error }
        some (resynchronized, none)

def consumeBytes (members : ParserMembers) :
    List UInt8 → Option (ParserMembers × List ParsedFeedbackFrame)
  | [] => some (members, [])
  | byte :: data => do
    let first ← members.consumeByte byte
    let rest ← first.1.consumeBytes data
    some (rest.1, first.2.toList ++ rest.2)

def consume (members : ParserMembers) (span : ByteSpan) :
    Option (ParserMembers × List ParsedFeedbackFrame) :=
  if span.size = 0 then some (members, [])
  else
    match span with
    | .null size =>
      some ({ members with statistics := members.statistics.countFramingFailure.discard size }, [])
    | .bytes data => members.consumeBytes data

def consumeAll (members : ParserMembers) :
    List ByteSpan → Option (ParserMembers × List ParsedFeedbackFrame)
  | [] => some (members, [])
  | chunk :: chunks => do
    let first ← members.consume chunk
    let rest ← first.1.consumeAll chunks
    some (rest.1, first.2 ++ rest.2)

/-! ### Writes in range -/

theorem write_eq_some (retained : FeedbackFrame) (byte : UInt8) (h : index < feedbackFrameSize) :
    write retained index byte = some (retained.set index byte h) := dif_pos h

/-- The bytes that are still to be moved have not been written to. -/
theorem moveRange_eq_some (retained : FeedbackFrame) {source size : Nat}
    (h : source + size ≤ feedbackFrameSize) :
    ∃ moved, moveRange retained source size = some moved ∧
      (∀ i, (hi : i < size) → moved[i] = retained[source + i]) ∧
      ∀ i, (hi : i < feedbackFrameSize) → size ≤ i → moved[i] = retained[i] := by
  induction size with
  | zero => exact ⟨retained, rfl, by simp, fun i hi _ => rfl⟩
  | succ size ih =>
    obtain ⟨moved, hrange, hmoved, hrest⟩ := ih (by omega)
    have hread : moved[source + size]? = some retained[source + size] := by
      rw [Vector.getElem?_eq_getElem (by omega), hrest _ _ (by omega)]
    refine ⟨moved.set size retained[source + size] (by omega), ?_, ?_, ?_⟩
    · simp only [moveRange, hrange, Option.bind_eq_bind, Option.bind_some, hread]
      exact write_eq_some moved _ _
    · intro i hi
      rw [Vector.getElem_set]
      split
      · case isTrue hlast =>
        subst hlast
        rfl
      · exact hmoved i (by omega)
    · intro i hi hsize
      rw [Vector.getElem_set_ne _ _ (by omega)]
      exact hrest i hi (by omega)

theorem moveRange_suffix (retained : FeedbackFrame) (hcount : count ≤ feedbackFrameSize) :
    moveRange retained count (feedbackFrameSize - count) =
      some (FeedbackParser.moveToFront retained count) := by
  have hfits : count + (feedbackFrameSize - count) ≤ feedbackFrameSize := by omega
  obtain ⟨moved, hrange, hmoved, hrest⟩ := moveRange_eq_some retained hfits
  rw [hrange, Option.some_inj]
  apply Vector.ext
  intro i hi
  rw [FeedbackParser.moveToFront, Vector.getElem_ofFn]
  dsimp only
  split
  · case isTrue hinside =>
    rw [hmoved i (by omega)]
    simp only [Nat.add_comm]
  · exact hrest i hi (by omega)

end ParserMembers

namespace FeedbackParser

def members (parser : FeedbackParser) : ParserMembers :=
  { retained := parser.retained
    retainedSize := parser.retainedSize
    statistics := parser.statistics }

theorem discardCount_le (retained : FeedbackFrame) :
    discardCount retained ≤ feedbackFrameSize := by
  have hfound : retained.toList.tail.findIdx (· == frameHeader) ≤ retained.toList.tail.length :=
    List.findIdx_le_length
  rw [List.length_tail, Vector.length_toList] at hfound
  have hsize := feedbackFrameSize_pos
  unfold discardCount
  omega

theorem members_resynchronize (retained : FeedbackFrame) (retainedSize : Nat)
    (statistics : FeedbackParserStatistics) :
    ParserMembers.resynchronizeAfterInvalidCandidate
        { retained := retained, retainedSize := retainedSize, statistics := statistics } =
      some (resynchronizeAfterInvalidCandidate retained statistics).members := by
  unfold ParserMembers.resynchronizeAfterInvalidCandidate resynchronizeAfterInvalidCandidate
  dsimp only
  split
  · rfl
  · rw [ParserMembers.moveRange_suffix _ (discardCount_le retained)]
    rfl

theorem members_consumeByte (parser : FeedbackParser) (byte : UInt8) :
    parser.members.consumeByte byte =
      some ((parser.consumeByte byte).1.members, (parser.consumeByte byte).2) := by
  have hwrite : ParserMembers.write parser.members.retained parser.members.retainedSize byte =
      some (parser.retained.set parser.retainedSize byte parser.bounded) :=
    ParserMembers.write_eq_some _ _ parser.bounded
  have hconsumed := parser.consumed byte
  generalize parser.consumeByte byte = result at hconsumed
  rw [ParserMembers.consumeByte, hwrite, Option.bind_eq_bind, Option.bind_some]
  cases hconsumed with
  | skipped hempty hbyte => exact if_pos ⟨hempty, hbyte⟩
  | stored hstored hshort => exact (if_neg hstored).trans (if_pos hshort)
  | accepted hstored hfull hcandidate hok =>
    rw [hcandidate]
    exact (if_neg hstored).trans ((if_neg hfull).trans (if_pos hok))
  | rejected hstored hfull hcandidate hfail =>
    rw [hcandidate]
    refine (if_neg hstored).trans ((if_neg hfull).trans ((if_neg hfail).trans ?_))
    rw [members_resynchronize]
    rfl

theorem members_consumeBytes (parser : FeedbackParser) (data : List UInt8) :
    parser.members.consumeBytes data =
      some ((parser.consumeBytes data).1.members, (parser.consumeBytes data).2) := by
  induction data generalizing parser with
  | nil => rfl
  | cons byte data ih =>
    rw [ParserMembers.consumeBytes, members_consumeByte, Option.bind_eq_bind, Option.bind_some,
      ih]
    rfl

theorem members_consume (parser : FeedbackParser) (chunk : ByteSpan) :
    parser.members.consume chunk =
      some ((parser.consume chunk).1.members, (parser.consume chunk).2) := by
  unfold ParserMembers.consume consume
  split
  · rfl
  · cases chunk with
    | null size => rfl
    | bytes data => exact members_consumeBytes parser data

/-- No call of `consume` writes behind the end of `retained_`. -/
theorem members_consumeAll (parser : FeedbackParser) (chunks : List ByteSpan) :
    parser.members.consumeAll chunks =
      some ((parser.consumeAll chunks).1.members, (parser.consumeAll chunks).2) := by
  induction chunks generalizing parser with
  | nil => rfl
  | cons chunk chunks ih =>
    rw [ParserMembers.consumeAll, members_consume, Option.bind_eq_bind, Option.bind_some, ih]
    rfl

end FeedbackParser

end WheeltecVcuSerial
