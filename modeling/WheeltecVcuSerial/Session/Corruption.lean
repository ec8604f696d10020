import WheeltecVcuSerial.Protocol.Burst
import WheeltecVcuSerial.Session.Machine

namespace WheeltecVcuSerial

open Framing

namespace SafetySession

/-- Any allowed feedback that `s'` has is what `s` had. -/
def Unrefreshed (s s' : SafetySession) : Prop :=
  s'.feedbackAllowedSeen = true → s.feedbackAllowedSeen = true ∧
    s'.latestAllowedFeedbackReceiptNs = s.latestAllowedFeedbackReceiptNs

def Entry.session : Entry → SafetySession
  | .clockInvalid s => s
  | .disconnected s => s
  | .ready s _ => s

variable {s s' : SafetySession}

theorem unrefreshed_of_forgotten (h : s'.feedbackAllowedSeen = false) : Unrefreshed s s' := by
  intro hseen
  rw [h] at hseen
  cases hseen

theorem beginZeroEpisode_feedbackAllowedSeen (s : SafetySession) (link : Link)
    (stateAfterZero : SessionState) (earliestAttemptNs : Int) :
    (s.beginZeroEpisode link stateAfterZero earliestAttemptNs).feedbackAllowedSeen =
      s.feedbackAllowedSeen := by
  unfold beginZeroEpisode
  split_ifs <;> rfl

theorem handleClockFailure_feedbackAllowedSeen (s : SafetySession) (link : Link) :
    (s.handleClockFailure link).feedbackAllowedSeen = false := by
  unfold handleClockFailure
  dsimp only
  split
  · rw [beginZeroEpisode_feedbackAllowedSeen]
    rfl
  · rfl

theorem synchronizeConnection_unrefreshed (s : SafetySession) (link : Link) :
    Unrefreshed s (s.synchronizeConnection link).1 := by
  unfold synchronizeConnection
  split
  · apply unrefreshed_of_forgotten
    unfold handleDisconnect
    dsimp only
    split <;> rfl
  · split
    · apply unrefreshed_of_forgotten
      exact beginZeroEpisode_feedbackAllowedSeen _ _ _ _
    · exact fun hseen => ⟨hseen, rfl⟩

theorem observed_unrefreshed {now : Int} (h : s.observeMonotonicTime now = some s') :
    s'.feedbackAllowedSeen = s.feedbackAllowedSeen ∧
      s'.latestAllowedFeedbackReceiptNs = s.latestAllowedFeedbackReceiptNs := by
  unfold observeMonotonicTime at h
  split_ifs at h <;> cases h <;> exact ⟨rfl, rfl⟩

theorem enter_unrefreshed (s : SafetySession) (link : Link) (now : Int) :
    Unrefreshed s (s.enter link now).session := by
  unfold enter
  split
  · exact unrefreshed_of_forgotten (handleClockFailure_feedbackAllowedSeen s link)
  · case _ s₁ hclock =>
    obtain ⟨hseen, hreceipt⟩ := observed_unrefreshed hclock
    have hsync := synchronizeConnection_unrefreshed s₁ link
    split
    all_goals
      case _ heq =>
      rw [heq, Unrefreshed, hseen, hreceipt] at hsync
      exact hsync

/-- A call of `observeFeedback` that takes nothing from its frame. -/
structure Ignores (s : SafetySession) (link : Link) (frame : FeedbackFrame) (now : Int) : Prop where
  unrefreshed : Unrefreshed s (s.observeFeedback link frame now).1
  invalid : (s.observeFeedback link frame now).2.validFrame = false
  disallowed : (s.observeFeedback link frame now).2.controlAllowed = false

/-- A frame that does not decode only opens the call. -/
theorem ignores_of_rejected {frame : FeedbackFrame}
    (hfail : (decodeFeedbackFrame frame).ok = false) (s : SafetySession) (link : Link) (now : Int) :
    s.Ignores link frame now := by
  have hobserve : (s.observeFeedback link frame now).1 =
        (if s.configurationValid then (s.enter link now).session else s) ∧
      (s.observeFeedback link frame now).2.validFrame = false ∧
      (s.observeFeedback link frame now).2.controlAllowed = false := by
    unfold observeFeedback
    cases s.configurationValid with
    | false => exact ⟨rfl, rfl, rfl⟩
    | true => cases s.enter link now <;> simp [hfail, Entry.session]
  obtain ⟨hsession, hinvalid, hdisallowed⟩ := hobserve
  refine ⟨?_, hinvalid, hdisallowed⟩
  rw [hsession]
  split
  · exact s.enter_unrefreshed link now
  · exact fun hseen => ⟨hseen, rfl⟩

end SafetySession

/-- A frame that decodes to nothing and that no session takes anything from. -/
structure Rejected (frame : FeedbackFrame) : Prop where
  decode : (decodeFeedbackFrame frame).ok = false
  disallowed : (decodeFeedbackFrame frame).feedback.controlAllowed = false
  ignored : ∀ (s : SafetySession) (link : Link) (now : Int), s.Ignores link frame now

theorem disallowed_of_failed {span : ByteSpan} (h : (decodeFeedbackSpan span).ok = false) :
    (decodeFeedbackSpan span).feedback.controlAllowed = false := by
  cases span with
  | null size => rfl
  | bytes data =>
    simp only [decodeFeedbackSpan] at h ⊢
    split_ifs at h ⊢ <;> first | rfl | cases h

theorem rejected_of_failed {frame : FeedbackFrame} (h : (decodeFeedbackFrame frame).ok = false) :
    Rejected frame :=
  ⟨h, disallowed_of_failed h, SafetySession.ignores_of_rejected h⟩

/-- Neither a burst nor a change to one byte leaves a frame that is accepted. -/
structure DetectsBursts (frame : FeedbackFrame) : Prop where
  burst : ∀ (order : BitOrder) (start : Nat) (error : FeedbackFrame),
    order.Burst start (byteWords error.toList) → error ≠ Vector.replicate _ 0 →
    Rejected (corrupt frame error)
  byte : ∀ (index : Nat) (h : index < feedbackFrameSize) (byte : UInt8), byte ≠ frame[index] →
    Rejected (frame.set index byte)

theorem detectsBursts {frame : FeedbackFrame} (hok : (decodeFeedbackFrame frame).ok = true) :
    DetectsBursts frame where
  burst _ _ _ hburst herror := rejected_of_failed (decode_corrupt hok hburst herror)
  byte _ h _ hbyte := rejected_of_failed (decode_changed hok h hbyte)

theorem detectsBursts_allowed :
    (decodeFeedbackFrame allowedFeedback).ok = true ∧ DetectsBursts allowedFeedback :=
  ⟨by decide, detectsBursts (by decide)⟩

end WheeltecVcuSerial
