import WheeltecVcuSerial.Parser.Streaming
import WheeltecVcuSerial.Transport.Reception

/-! From the bytes of a connection to the frames that the session observes. -/

namespace WheeltecVcuSerial

open Framing

/-- The frame that a call shows to the session. -/
def Op.shown : Op → Option FeedbackFrame
  | .observeFeedback frame _ => some frame
  | _ => none

namespace Reception

/-- The frames that a round shows to the session. -/
def frames (e : Reception) : List (List UInt8) :=
  (e.received.calls.filterMap Op.shown).map (·.toList)

/-- The frames that the session is shown in a generation. -/
def observed : Nat → List Reception → List (List UInt8) := together frames

end Reception

/-- How a round reads: its bytes go through the parser, or the parser starts over with a new
connection. -/
inductive Parses (s : CliLoop) (e : Reception) (s' : CliLoop) : Prop
  | same : s'.transport.generation = s.transport.generation →
      feedbackFormat.pushAll s.parser.retainedBytes e.received.chunk =
        (e.frames, s'.parser.retainedBytes) → Parses s e s'
  | reset : s'.transport.generation = s.transport.generation + 1 → e.received.chunk = [] →
      e.frames = [] → s'.parser.retainedBytes = [] → Parses s e s'

variable {s s' : CliLoop} {e : Reception} {h : List Reception} {reconnectIntervalNs : Int}

/-! ### One round -/

namespace CliLoop

theorem dispatch_parses (s : CliLoop) (round : CliRound) (result : IoResult) :
    feedbackFormat.pushAll s.parser.retainedBytes (s.dispatch round result).2.chunk =
      (((s.dispatch round result).2.calls.filterMap Op.shown).map (·.toList),
        (s.dispatch round result).1.parser.retainedBytes) := by
  unfold dispatch
  cases result.status with
  | ok =>
    have hparse := FeedbackParser.consume_pushAll s.parser
      (.bytes (s.serialBuffer.take result.bytesTransferred))
    rw [ByteSpan.content] at hparse
    dsimp only
    rw [hparse, List.filterMap_map]
    congr 1
    rw [show Op.shown ∘ _ = some ∘ ParsedFeedbackFrame.frame from rfl, ← List.filterMap_map,
      List.filterMap_some, List.map_map]
    rfl
  | _ => rfl

theorem dispatch_transport (s : CliLoop) (round : CliRound) (result : IoResult) :
    (s.dispatch round result).1.transport = s.transport := by
  unfold dispatch
  cases result.status <;> rfl

theorem finish_generation (s : CliLoop) (round : CliRound) :
    (s.finish round).transport.generation = s.transport.generation := by
  unfold finish
  split <;> rfl

end CliLoop

theorem PosixSerialTransport.readSome_generation {t t' : PosixSerialTransport} {capacity : Nat}
    {absoluteDeadlineNs : Int} {answers : List Answer} {result : IoResult} {data : List UInt8}
    (h : t.readSome capacity absoluteDeadlineNs answers = some (result, data, t')) :
    t'.generation = t.generation := by
  unfold readSome at h
  split at h
  · split at h <;> cases h
    rfl
  · obtain ⟨⟨result', data'⟩, -, heq⟩ := Option.map_eq_some_iff.mp h
    cases heq
    split <;> rfl

theorem cli_parses (h : (cliMachine reconnectIntervalNs).step s e s') : Parses s e s' := by
  obtain ⟨-, round, received, s'', hreceive, rfl, rfl⟩ := h
  unfold CliLoop.receive at hreceive
  split_ifs at hreceive with hclock hanswers hdown hanswers hreconnect
  · cases hreceive
    exact .same (CliLoop.finish_generation _ round) rfl
  · -- only an open device starts a generation, and with it the parser starts over
    cases hopened : round.opened with
    | none =>
      simp only [hopened] at hreceive
      cases hreceive
      exact .same (CliLoop.finish_generation _ round) rfl
    | some fd =>
      simp only [hopened] at hreceive
      cases hreceive
      exact .reset (CliLoop.finish_generation _ round) rfl rfl rfl
  · cases hreceive
    exact .same (CliLoop.finish_generation _ round) rfl
  · obtain ⟨⟨result, data, transport⟩, hread, heq⟩ := Option.map_eq_some_iff.mp hreceive
    dsimp only at heq
    have hparse := CliLoop.dispatch_parses { s with
      transport := transport
      serialBuffer := storeFront s.serialBuffer data } round result
    have htransport := CliLoop.dispatch_transport { s with
      transport := transport
      serialBuffer := storeFront s.serialBuffer data } round result
    rw [heq] at hparse htransport
    refine .same ?_ hparse
    rw [CliLoop.finish_generation, htransport]
    exact PosixSerialTransport.readSome_generation hread

/-! ### Whole runs -/

/-- How far the rounds so far have been read: each generation from its own first byte on. -/
structure Parsed (h : List Reception) (s : CliLoop) : Prop where
  past : ∀ e ∈ h, e.generation ≤ s.transport.generation
  retained : (feedbackFormat.pushAll [] (Reception.consumed s.transport.generation h)).2 =
    s.parser.retainedBytes
  observed : ∀ generation, (feedbackFormat.pushAll [] (Reception.consumed generation h)).1 =
    Reception.observed generation h

theorem Parsed.next (ih : Parsed h s) (hgeneration : e.generation = s.transport.generation)
    (hstep : Parses s e s') : Parsed (e :: h) s' := by
  cases hstep with
  | same hsame hparse =>
    have hconsumed : Reception.consumed s.transport.generation (e :: h) =
        Reception.consumed s.transport.generation h ++ e.received.chunk := by
      rw [← hgeneration]
      exact Reception.together_cons _ h
    refine ⟨?_, ?_, fun generation => ?_⟩
    · rw [hsame]
      exact List.forall_mem_cons.mpr ⟨hgeneration.le, ih.past⟩
    · rw [hsame, hconsumed, FrameFormat.pushAll_append, ih.retained, hparse]
    · by_cases hcurrent : generation = s.transport.generation
      · subst hcurrent
        rw [hconsumed, FrameFormat.pushAll_append, ih.retained, hparse, ih.observed]
        rw [← hgeneration]
        exact (Reception.together_cons Reception.frames h).symm
      · have hother : ¬ e.generation = generation := fun heq => hcurrent (heq ▸ hgeneration)
        rw [Reception.consumed, Reception.observed,
          Reception.together_skip _ fun heq => absurd heq hother,
          Reception.together_skip _ fun heq => absurd heq hother]
        exact ih.observed generation
  | reset hnext hchunk hframes hretained =>
    have hpast : ∀ e' ∈ e :: h, e'.generation < s'.transport.generation := by
      rw [hnext]
      exact List.forall_mem_cons.mpr
        ⟨Nat.lt_succ_of_le hgeneration.le, fun e' he' => Nat.lt_succ_of_le (ih.past e' he')⟩
    refine ⟨fun e' he' => (hpast e' he').le, ?_, fun generation => ?_⟩
    · rw [Reception.consumed, Reception.together_eq_nil _ hpast, hretained]
      rfl
    · rw [Reception.consumed, Reception.observed, Reception.together_skip _ fun _ => hchunk,
        Reception.together_skip _ fun _ => hframes]
      exact ih.observed generation

theorem parsed_of_run (run : (cliMachine reconnectIntervalNs).Run h s) : Parsed h s := by
  induction run with
  | start hinit =>
    obtain ⟨fd, rfl⟩ := hinit
    exact ⟨by simp, rfl, fun _ => rfl⟩
  | next _ hstep ih =>
    refine ih.next ?_ (cli_parses hstep)
    obtain ⟨-, round, received, s'', -, -, rfl⟩ := hstep
    rfl

/-- In each generation the CLI shows the session the frames of the scan of the bytes that the
parser was given in it, and no bytes of another one. -/
theorem observed_eq_scan (run : (cliMachine reconnectIntervalNs).Run h s) (generation : Nat) :
    Reception.observed generation h =
      (feedbackFormat.scan (Reception.consumed generation h)).1 := by
  rw [← (parsed_of_run run).observed, FrameFormat.Partial.nil.pushAll]
  rfl

end WheeltecVcuSerial
