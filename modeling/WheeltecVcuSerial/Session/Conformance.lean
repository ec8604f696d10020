import WheeltecVcuSerial.Session.Transition
import WheeltecVcuSerial.Protocol.Wire

namespace WheeltecVcuSerial

namespace SafetySession

variable {s s₁ : SafetySession} {link : Link} {connection : ConnectionSync} {now : Int}

theorem handleClockFailure_eq_pend (htransport : s.transport = true)
    (hknown : s.connectionKnown = true) (hlink : link.connected = true)
    (hstate : s.state ≠ .faulted) :
    s.handleClockFailure link = s.forgotten.pend s.inhibitedState s.lastObservedMonotonicNs := by
  simp only [handleClockFailure]
  rw [if_pos (by simp [hknown, htransport, hlink])]
  exact beginZeroEpisode_eq_pend (s := s.forgotten) hknown htransport hlink hstate _ _

theorem handleClockFailure_of_settled (htransport : s.transport = true)
    (hsettled : s.connectionKnown = true → link.connected = true → s.state = .faulted) :
    s.handleClockFailure link = s.forgotten := by
  simp only [handleClockFailure]
  split
  · case isTrue hup =>
    simp only [revokeAuthorization_connectionKnown, clearMotionIntent_connectionKnown,
      forgetFeedback_connectionKnown, Bool.and_eq_true] at hup
    exact beginZeroEpisode_of_faulted (s := s.forgotten) hup.1.1 htransport hup.2
      (hsettled hup.1.1 hup.2) _ _
  · rfl

theorem inhibits_of_decoded {frame : FeedbackFrame}
    (hok : (decodeFeedbackFrame frame).ok = true)
    (hallowed : (decodeFeedbackFrame frame).feedback.controlAllowed = false) :
    inhibits frame = true := by
  unfold inhibits
  rw [hok, Bool.true_and]
  exact (controlInhibited_of_ok hok).trans (by rw [← decodeFeedbackFrame, hallowed]; rfl)

theorem acceptCommand_response (command : TimedMotionCommand) (frame : CommandFrame) (now : Int) :
    (s.acceptCommand command frame now).2 =
      if (s.acceptCommand command frame now).1.state = .active then .accepted
      else .recoveryPending := by
  simp only [acceptCommand]
  split
  · exact (if_pos rfl).symm
  · exact (if_neg (by simp)).symm

theorem Enters.zero_of_new (h : Enters s link s₁ .newGeneration) : s₁.zeroEpisodeActive = true := by
  cases h with
  | newGeneration => rfl

/-- The time that `latchEmergencyStop` works with, whether the clock check passes or not. -/
theorem latch_time (s : SafetySession) (now : Int) :
    ∃ time, time = (if s.AcceptsTime now then now else s.lastObservedMonotonicNs) ∧
    (s.assertEmergencyStop.observeMonotonicTime now).getD s.assertEmergencyStop =
      s.assertEmergencyStop.observed time ∧
    ∀ s₁ : SafetySession, s₁.lastObservedMonotonicNs = time →
      (if (s.assertEmergencyStop.observeMonotonicTime now).isSome then now
        else s₁.lastObservedMonotonicNs) = time := by
  refine ⟨_, rfl, ?_⟩
  by_cases hclock : s.AcceptsTime now
  · have haccepts : s.assertEmergencyStop.AcceptsTime now := hclock
    rw [observeMonotonicTime_of_accepts haccepts, if_pos hclock]
    exact ⟨rfl, fun _ _ => rfl⟩
  · have hrejects : ¬ s.assertEmergencyStop.AcceptsTime now := hclock
    rw [observeMonotonicTime_of_rejects hrejects, if_neg hclock]
    exact ⟨rfl, fun _ h => h⟩

end SafetySession

namespace Transition

variable {s : SafetySession} {link : Link} {op : Op}

open SafetySession

theorem of_rejected (htransport : s.transport = true) (hvalid : s.configurationValid = true)
    (hchecked : op.checksClock s = true) (hlatch : op.isLatch = false)
    (hclock : ¬ s.AcceptsTime op.now) (htakes : op.takes response = false) :
    Transition s link op ⟨s.handleClockFailure link, link, response, []⟩ := by
  by_cases hup : s.connectionKnown = true ∧ link.connected = true ∧ s.state ≠ .faulted
  · obtain ⟨hknown, hlink, hstate⟩ := hup
    rw [handleClockFailure_eq_pend htransport hknown hlink hstate]
    exact .clockRejectedPending hvalid hchecked hlatch hclock htakes hknown hlink hstate
  · have hsettled : s.connectionKnown = true → link.connected = true → s.state = .faulted := by
      intro hknown hlink
      by_contra hstate
      exact hup ⟨hknown, hlink, hstate⟩
    rw [handleClockFailure_of_settled htransport hsettled]
    exact .clockRejected hvalid hchecked hlatch hclock htakes hsettled

/-- The opening that the operations with a plain answer share. -/
theorem opening {answer : Type} (op : Op) (respond : answer → Response)
    {invalid rejected lost : answer}
    {body : SafetySession → ConnectionSync → SafetySession × answer} (hwired : s.Wired)
    (hchecks : op.checksClock s = s.configurationValid) (hlatch : op.isLatch = false)
    (hinvalid : op.takes (respond invalid) = false)
    (hrejected : op.takes (respond rejected) = false)
    (hlost : op.takes (respond lost) = false)
    (hbody : ∀ {s₁ connection}, s.transport = true → Opens s link op s₁ →
      Enters (s.observed op.now) link s₁ connection →
      Transition s link op
        ⟨(body s₁ connection).1, link, respond (body s₁ connection).2, []⟩) :
    let r :=
      if !s.configurationValid then (s, invalid)
      else
        match s.enter link op.now with
        | .clockInvalid s => (s, rejected)
        | .disconnected s => (s, lost)
        | .ready s connection => body s connection
    Transition s link op ⟨r.1, link, respond r.2, []⟩ := by
  cases hvalid : s.configurationValid with
  | false => exact .unconfigured hvalid hlatch hinvalid
  | true =>
    have htransport := hwired hvalid
    have hchecked := hchecks.trans hvalid
    rcases enter_cases hvalid htransport link op.now with
      ⟨hclock, heq⟩ | ⟨hclock, hlink, heq⟩ | ⟨s₁, connection, hclock, henters, heq⟩
    · simp only [heq]
      exact .of_rejected htransport hvalid hchecked hlatch hclock hrejected
    · simp only [heq]
      exact .disconnected hvalid hchecked hlatch hclock hlink hlost
    · simp only [heq]
      exact hbody htransport ⟨hvalid, hchecked, hclock, connection, henters⟩ henters

variable {s₁ : SafetySession} {connection : ConnectionSync} {now : Int}

theorem authorize (hwired : s.Wired) (token : Nat) (now : Int) :
    Transition s link (.authorize token now) (s.perform link (.authorize token now)) := by
  refine opening (.authorize token now) .authorization hwired rfl rfl rfl rfl rfl ?_
  intro s₁ connection _ hopens _
  have hdeclined : ∀ {status : AuthorizationStatus}, status ≠ .authorized →
      Transition s link (.authorize token now) ⟨s₁, link, .authorization status, []⟩ := by
    intro status hstatus
    exact .declined hopens rfl (by simpa [Op.takes, Op.grants] using hstatus) (by simp [Op.stops])
      (by simp) (by simp)
  split
  · exact hdeclined (by simp)
  split
  · exact hdeclined (by simp)
  split
  · exact hdeclined (by simp)
  split
  · exact hdeclined (by simp)
  split
  · exact hdeclined (by simp)
  · case isFalse hlatched hstate hpending htoken hfeedback =>
    simp only [Bool.or_eq_true, decide_eq_true_eq, not_or, Bool.not_eq_true, not_le]
      at hpending htoken
    exact .authorized hopens (by simpa using hlatched) hstate hpending.1 htoken.2
      (by simpa using hfeedback)

theorem disarm (hwired : s.Wired) (now : Int) :
    Transition s link (.disarm now) (s.perform link (.disarm now)) := by
  refine opening (.disarm now) .flag hwired rfl rfl rfl rfl rfl ?_
  intro s₁ connection htransport hopens henters
  split
  · case isTrue hstate => exact .declined hopens rfl rfl (fun _ => hstate) (by simp) (by simp)
  · case isFalse hstate =>
    dsimp only
    rw [beginZeroEpisode_eq_pend (s := s₁.revokeAuthorization.clearMotionIntent) henters.known
      (henters.transport.trans htransport) henters.up.1 hstate]
    exact .revoked hopens hstate rfl rfl rfl rfl .disarm

theorem requestStop (hwired : s.Wired) (now : Int) :
    Transition s link (.requestStop now) (s.perform link (.requestStop now)) := by
  refine opening (.requestStop now) .flag hwired rfl rfl rfl rfl rfl ?_
  intro s₁ connection htransport hopens henters
  split
  · case isTrue hstate => exact .declined hopens rfl rfl (fun _ => hstate) (by simp) (by simp)
  · case isFalse hstate =>
    dsimp only
    rw [beginZeroEpisode_eq_pend (s := s₁.clearMotionIntent) henters.known
      (henters.transport.trans htransport) henters.up.1 hstate]
    exact .stopped hopens hstate rfl rfl rfl rfl .requestStop

theorem observeFeedback (hwired : s.Wired) (frame : FeedbackFrame) (now : Int) :
    Transition s link (.observeFeedback frame now)
      (s.perform link (.observeFeedback frame now)) := by
  refine opening (.observeFeedback frame now) .feedback hwired rfl rfl rfl rfl rfl ?_
  intro s₁ connection htransport hopens henters
  dsimp only
  split
  · case isTrue hinvalid =>
    have hinhibits : inhibits frame = false := by simp_all [inhibits]
    exact .declined hopens hinhibits rfl (by simp [Op.stops, hinhibits]) (by simp) (by simp)
  · case isFalse hvalid =>
    simp only [Bool.not_eq_true', Bool.not_eq_false] at hvalid
    split
    · case isTrue hallowed => exact .feedbackAllowed hopens hvalid hallowed
    · case isFalse hforbidden =>
      have hinhibits := inhibits_of_decoded hvalid (by simpa using hforbidden)
      dsimp only
      by_cases hstate : s₁.state = .faulted
      · rw [beginZeroEpisode_of_faulted
          (s := s₁.forgetFeedback.revokeAuthorization.clearMotionIntent) henters.known
          (henters.transport.trans htransport) henters.up.1 hstate]
        exact .inhibitedFaulted hopens hinhibits hstate
      · rw [beginZeroEpisode_eq_pend
          (s := s₁.forgetFeedback.revokeAuthorization.clearMotionIntent) henters.known
          (henters.transport.trans htransport) henters.up.1 hstate]
        exact .inhibited hopens hinhibits hstate

theorem latched {time : Int} (htransport : s.transport = true)
    (hvalid : s.configurationValid = true)
    (htime : time = if s.AcceptsTime now then now else s.lastObservedMonotonicNs)
    (henters : Enters (s.assertEmergencyStop.observed time) link s₁ connection) :
    Transition s link (.latchEmergencyStop now)
      ⟨if s₁.state = .faulted then s₁ else s₁.beginZeroEpisode link .emergencyStopLatched time,
        link, .nothing, []⟩ := by
  split
  · case isTrue hstate => exact .latchedFaulted hvalid htime henters hstate
  · case isFalse hstate =>
    rw [beginZeroEpisode_eq_pend henters.known (henters.transport.trans htransport) henters.up.1
      hstate]
    exact .latchedPending hvalid htime henters hstate

theorem latchEmergencyStop (hwired : s.Wired) (now : Int) :
    Transition s link (.latchEmergencyStop now) (s.perform link (.latchEmergencyStop now)) := by
  simp only [perform, SafetySession.latchEmergencyStop]
  cases hvalid : s.configurationValid with
  | false =>
    rw [if_pos (by simp [hvalid])]
    exact .unconfiguredLatch hvalid
  | true =>
    rw [if_neg (by simp [hvalid])]
    obtain ⟨time, htime, hobserved, hstart⟩ := latch_time s now
    rw [hobserved]
    by_cases hlink : link.Up
    · obtain ⟨s₁, connection, henters, hsync⟩ :=
        synchronizeConnection_of_up (s := s.assertEmergencyStop.observed time) (hwired hvalid) hlink
      rw [hsync]
      have htime₁ : s₁.lastObservedMonotonicNs = time := by cases henters <;> rfl
      have hlatched := latched (hwired hvalid) hvalid htime henters
      cases connection with
      | unchanged => simpa only [hstart s₁ htime₁] using hlatched
      | newGeneration => simpa only [hstart s₁ htime₁] using hlatched
      | disconnected => exact absurd rfl henters.ne_disconnected
    · rw [synchronizeConnection_of_down (s := s.assertEmergencyStop.observed time) hvalid hlink]
      exact .latchedDown hvalid hlink htime

theorem resetEmergencyStop (hwired : s.Wired) (token : Nat) (now : Int) :
    Transition s link (.resetEmergencyStop token now)
      (s.perform link (.resetEmergencyStop token now)) := by
  simp only [perform, SafetySession.resetEmergencyStop]
  cases hvalid : s.configurationValid with
  | false => exact .unconfigured hvalid rfl rfl
  | true =>
    cases hlatched : s.emergencyStopLatched with
    | false => exact .notLatched hvalid hlatched
    | true =>
      have hchecked : (Op.resetEmergencyStop token now).checksClock s = true := by
        simp [Op.checksClock, hvalid, hlatched]
      rcases enter_cases hvalid (hwired hvalid) link now with
        ⟨hclock, heq⟩ | ⟨hclock, hlink, heq⟩ | ⟨s₁, connection, hclock, henters, heq⟩
      · simp only [heq]
        exact .of_rejected (hwired hvalid) hvalid hchecked rfl hclock rfl
      · simp only [heq]
        exact .disconnected hvalid hchecked rfl hclock hlink rfl
      · have hopens : Opens s link (.resetEmergencyStop token now) s₁ :=
          ⟨hvalid, hchecked, hclock, connection, henters⟩
        simp only [heq, Bool.not_true, Bool.or_false, Bool.false_eq_true, if_false]
        split
        · exact .declined hopens rfl rfl (by simp [Op.stops]) (by simp) (by simp)
        · case isFalse hready =>
          simp only [Bool.or_eq_true, decide_eq_true_eq, not_or, Bool.not_eq_true,
            Bool.not_eq_false', not_le] at hready
          obtain ⟨⟨⟨⟨⟨_, hzero⟩, hstate⟩, _⟩, htoken⟩, hfeedback⟩ := hready
          exact .reset hopens hzero hstate htoken hfeedback

/-- A `submit` that answers with a stop and takes the permission. -/
theorem rejectRevoking {command : TimedMotionCommand} {status : SubmissionStatus}
    (htransport : s₁.transport = true) (hknown : s₁.connectionKnown = true)
    (hlink : link.connected = true) (hopens : Opens s link (.submit command now) s₁)
    (hlatched : s₁.emergencyStopLatched = false) (hstate : s₁.state ≠ .faulted)
    (hrevokes : status.revokes = true) (hstops : status.stops = true)
    (hgrants : Op.grants (.submit command now) (.submission status) = false)
    (hconsumes : Consumes s₁ (.submit command now) (.submission status) sequenceId) :
    Transition s link (.submit command now)
      ⟨((s₁.consumeSequence sequenceId).rejectRevoking link now status).1, link,
        .submission ((s₁.consumeSequence sequenceId).rejectRevoking link now status).2, []⟩ := by
  have hafter : s₁.inhibitedState = .connectedInhibited := by simp [inhibitedState, hlatched]
  simp only [SafetySession.rejectRevoking]
  rw [beginZeroEpisode_eq_pend
    (s := (s₁.consumeSequence sequenceId).revokeAuthorization.clearMotionIntent) hknown htransport
    hlink hstate, ← hafter]
  exact .revoked hopens hstate rfl hstops hrevokes hgrants hconsumes

/-- A `submit` that answers with a stop and keeps the permission. -/
theorem rejectStopping {command : TimedMotionCommand} {status : SubmissionStatus}
    {after : SessionState}
    (htransport : s₁.transport = true) (hknown : s₁.connectionKnown = true)
    (hlink : link.connected = true) (hopens : Opens s link (.submit command now) s₁)
    (hstate : s₁.state ≠ .faulted) (hafter : after = s₁.permittedState)
    (hrevokes : status.revokes = false) (hstops : status.stops = true)
    (hgrants : Op.grants (.submit command now) (.submission status) = false)
    (hconsumes : Consumes s₁ (.submit command now) (.submission status) sequenceId) :
    Transition s link (.submit command now)
      ⟨((s₁.consumeSequence sequenceId).rejectStopping link now after status).1, link,
        .submission ((s₁.consumeSequence sequenceId).rejectStopping link now after status).2,
        []⟩ := by
  simp only [SafetySession.rejectStopping]
  rw [beginZeroEpisode_eq_pend (s := (s₁.consumeSequence sequenceId).clearMotionIntent) hknown
    htransport hlink hstate, hafter]
  exact .stopped hopens hstate rfl hstops hrevokes hgrants hconsumes

/-- A test of `submit`, which decides on its session and its answer alike. -/
theorem submit_test {test : Prop} [Decidable test] {yes no : SafetySession × SubmissionStatus}
    (hyes : test → Transition s link op ⟨yes.1, link, .submission yes.2, []⟩)
    (hno : ¬ test → Transition s link op ⟨no.1, link, .submission no.2, []⟩) :
    Transition s link op
      ⟨(if test then yes else no).1, link, .submission (if test then yes else no).2, []⟩ :=
  iteInduction (motive := fun r : SafetySession × SubmissionStatus =>
    Transition s link op ⟨r.1, link, .submission r.2, []⟩) hyes hno

theorem submit (hwired : s.Wired) (command : TimedMotionCommand) (now : Int) :
    Transition s link (.submit command now) (s.perform link (.submit command now)) := by
  refine opening (.submit command now) .submission hwired rfl rfl rfl rfl rfl ?_
  intro s₁ connection htransport hopens henters
  have hwired₁ := henters.transport.trans htransport
  have hlink := henters.up.1
  refine submit_test (fun hlatched => ?_) fun hlatched => ?_
  · refine .declined hopens rfl rfl (by simp [Op.stops, SubmissionStatus.stops]) ?_ (by simp)
    exact fun _ _ _ => .inl hlatched
  simp only [Bool.not_eq_true] at hlatched
  refine submit_test (fun hstate => ?_) fun hstate => ?_
  · exact .declined hopens rfl rfl (fun _ => hstate) (fun _ _ _ => .inr hstate) (by simp)
  refine submit_test (fun hsequence => ?_) fun hsequence => ?_
  · simp only [Bool.or_eq_true, decide_eq_true_eq] at hsequence
    exact rejectRevoking hwired₁ henters.known hlink hopens hlatched hstate rfl rfl rfl
      (.sequenceInvalid hsequence)
  simp only [Bool.or_eq_true, decide_eq_true_eq, not_or, not_le] at hsequence
  have hconsumes : ∀ response, Consumes s₁ (.submit command now) response command.sequenceId :=
    fun response => .submit hsequence.2
  refine submit_test (fun _ => ?_) fun htimestamp => ?_
  · exact rejectRevoking hwired₁ henters.known hlink hopens hlatched hstate rfl rfl rfl
      (hconsumes _)
  simp only [Bool.or_eq_true, decide_eq_true_eq, not_or, not_le, not_lt] at htimestamp
  obtain ⟨⟨hcreated, hreceipt⟩, horder⟩ := htimestamp
  refine submit_test (fun _ => ?_) fun hstale => ?_
  · refine rejectStopping hwired₁ henters.known hlink hopens hstate ?_ rfl rfl rfl (hconsumes _)
    simp only [permittedState, hlatched, Bool.false_eq_true, if_false]
    rfl
  simp only [Bool.or_eq_true, decide_eq_true_eq, not_or, not_lt] at hstale
  refine submit_test (fun hunpermitted => ?_) fun hpermitted => ?_
  · refine .unpermitted hopens hlatched hstate hsequence.2 ?_
    simp only [Bool.or_eq_true, Bool.not_eq_true', decide_eq_true_eq] at hunpermitted
    rcases hunpermitted with (hauthorized | hzero) | hnew
    · exact .inl hauthorized
    · exact .inr hzero
    · subst hnew
      exact .inr henters.zero_of_new
  simp only [Bool.or_eq_true, Bool.not_eq_true', decide_eq_true_eq, not_or, Bool.not_eq_true,
    Bool.not_eq_false] at hpermitted
  obtain ⟨⟨hauthorized, hzero⟩, _⟩ := hpermitted
  have hauthorized₁ : s₁.authorized = true := hauthorized
  have hafter : .recovering = s₁.permittedState := by
    simp [permittedState, hlatched, hauthorized₁]
  refine submit_test (fun _ => ?_) fun hpostdates => ?_
  · exact rejectStopping hwired₁ henters.known hlink hopens hstate hafter rfl rfl rfl (hconsumes _)
  refine submit_test (fun _ => ?_) fun hmotion => ?_
  · exact rejectRevoking hwired₁ henters.known hlink hopens hlatched hstate rfl rfl rfl
      (hconsumes _)
  simp only [Bool.or_eq_true, Bool.not_eq_true', not_or, Bool.not_eq_true,
    Bool.not_eq_false] at hmotion
  obtain ⟨⟨hyaw, hlimit⟩, hlateral⟩ := hmotion
  refine submit_test (fun _ => ?_) fun hencoded => ?_
  · exact rejectRevoking hwired₁ henters.known hlink hopens hlatched hstate rfl rfl rfl
      (hconsumes _)
  refine submit_test (fun _ => ?_) fun hmoves => ?_
  · exact rejectStopping hwired₁ henters.known hlink hopens hstate hafter rfl rfl rfl (hconsumes _)
  refine submit_test (fun _ => ?_) fun hfeedback => ?_
  · exact rejectStopping hwired₁ henters.known hlink hopens hstate hafter rfl rfl rfl (hconsumes _)
  have hadmissible : Admissible s₁ command now :=
    { unlatched := hlatched, sound := hstate, sequence := hsequence.2, created := hcreated
      receipt := hreceipt, order := horder, deadline := hstale.1, age := hstale.2
      permitted := hauthorized, settled := hzero, postdates := not_le.mp hpostdates
      yawFinite := hyaw, yawLimit := hlimit, lateral := hlateral
      encodes := by simpa using hencoded, moves := by simpa using hmoves
      feedback := by rwa [Bool.not_eq_true', Bool.not_eq_false] at hfeedback }
  refine submit_test (fun hprevious => ?_) fun hprevious => ?_
  · rw [Bool.and_eq_true] at hprevious
    exact .readmitted hopens hadmissible hprevious.1 hprevious.2 (acceptCommand_response _ _ _)
  refine submit_test (fun _ => ?_) fun horder => ?_
  · exact rejectRevoking hwired₁ henters.known hlink hopens hlatched hstate rfl rfl rfl
      (hconsumes _)
  refine .admitted hopens hadmissible ?_ (acceptCommand_response _ _ _)
  intro hvalid
  have hvalid₁ : (s₁.consumeSequence command.sequenceId).latestCommandValid = true := hvalid
  simp only [hvalid₁, Bool.true_and, decide_eq_true_eq, not_le, Bool.not_eq_true]
    at hprevious horder
  exact ⟨hprevious, horder⟩

theorem writeMotion {motionOutcome zeroOutcome : WriteOutcome}
    (htransport : s.transport = true)
    (hopens : Opens s link (.tick now motionOutcome zeroOutcome) s₁)
    (henters : Enters (s.observed now) link s₁ connection) (hready : MotionReady s₁ now)
    (result : CycleResult) :
    let cycle := s₁.writeMotion link now result motionOutcome zeroOutcome
    Transition s link (.tick now motionOutcome zeroOutcome)
      ⟨cycle.session, cycle.link, .cycle cycle.result, cycle.writes⟩ := by
  have hvalid : s₁.configurationValid = true := henters.configurationValid.trans hopens.configured
  have htransport₁ : s₁.transport = true := henters.transport.trans htransport
  simp only [SafetySession.writeMotion]
  split
  · case isTrue hdone => exact .motionSent hopens hready hdone rfl
  case isFalse hfailed =>
  simp only [Bool.not_eq_true] at hfailed
  split
  · case isTrue hlost =>
    rw [handleDisconnect_eq (s := s₁.revokeAuthorization.clearMotionIntent) hvalid]
    exact .motionLost hopens hready hfailed (by simpa using hlost)
  · case isFalse hkept =>
    simp only [Bool.or_eq_true, decide_eq_true_eq, Bool.not_eq_true', not_or,
      Bool.not_eq_false] at hkept
    have hstate : s₁.revokeAuthorization.clearMotionIntent.state ≠ .faulted := by
      simp [hready.active]
    rw [beginZeroEpisode_eq_pend (s := s₁.revokeAuthorization.clearMotionIntent) henters.known
      htransport₁ hkept.2 hstate]
    exact .motionFailed hopens hready hfailed hkept.1 hkept.2 rfl
      (attemptZero_spec (by exact hvalid) rfl _ _ _ _)

/-- The watchdog of `tick`: a lapsed condition opens a zero episode and attempts it at once. -/
theorem watch {motionOutcome zeroOutcome : WriteOutcome} {after : SessionState}
    (htransport : s.transport = true)
    (hopens : Opens s link (.tick now motionOutcome zeroOutcome) s₁)
    (henters : Enters (s.observed now) link s₁ connection)
    (hzero : s₁.zeroEpisodeActive = false) (hlatched : s₁.emergencyStopLatched = false)
    (hstate : s₁.state = .active)
    (hlapsed : ¬ (s₁.authorized = true ∧ s₁.feedbackIsFresh now = true ∧
      s₁.commandIsFresh now = true))
    (hafter : after = s₁.permittedState) (result : CycleResult) :
    let cycle :=
      (s₁.clearMotionIntent.beginZeroEpisode link after now).attemptZero link now result zeroOutcome
    Transition s link (.tick now motionOutcome zeroOutcome)
      ⟨cycle.session, cycle.link, .cycle cycle.result, cycle.writes⟩ := by
  have hvalid : s₁.configurationValid = true := henters.configurationValid.trans hopens.configured
  have hsound : s₁.clearMotionIntent.state ≠ .faulted := by simp [hstate]
  rw [beginZeroEpisode_eq_pend (s := s₁.clearMotionIntent) henters.known
    (henters.transport.trans htransport) henters.up.1 hsound, hafter]
  exact .watchdog hopens hzero hlatched hstate hlapsed
    (attemptZero_spec (by exact hvalid) rfl _ _ _ _)

theorem tick (hwired : s.Wired) (now : Int) (motionOutcome zeroOutcome : WriteOutcome) :
    Transition s link (.tick now motionOutcome zeroOutcome)
      (s.perform link (.tick now motionOutcome zeroOutcome)) := by
  simp only [perform, SafetySession.tick]
  cases hvalid : s.configurationValid with
  | false => exact .unconfigured hvalid rfl rfl
  | true =>
  have htransport := hwired hvalid
  rcases enter_cases hvalid htransport link now with
    ⟨hclock, heq⟩ | ⟨hclock, hlink, heq⟩ | ⟨s₁, connection, hclock, henters, heq⟩
  · simp only [heq]
    exact .of_rejected htransport hvalid hvalid rfl hclock rfl
  · simp only [heq]
    exact .disconnected hvalid hvalid rfl hclock hlink rfl
  have hopens : Opens s link (.tick now motionOutcome zeroOutcome) s₁ :=
    ⟨hvalid, hvalid, hclock, connection, henters⟩
  have hvalid₁ : s₁.configurationValid = true := henters.configurationValid.trans hvalid
  simp only [heq, Bool.not_true, Bool.false_eq_true, if_false]
  split
  · case isTrue hzero => exact .retry hopens hzero (attemptZero_spec hvalid₁ hzero _ _ _ _)
  case isFalse hzero =>
  rw [Bool.not_eq_true] at hzero
  split
  · case isTrue hstate => exact .idle hopens hzero (.inl hstate) (by simp [hstate])
  case isFalse hsound =>
  split
  · case isTrue hlatched => exact .idleLatched hopens hzero hsound hlatched
  case isFalse hlatched =>
  rw [Bool.not_eq_true] at hlatched
  split
  · case isTrue hstate => exact .idle hopens hzero (.inr hlatched) (fun h => absurd h hstate)
  case isFalse hstate =>
  rw [not_not] at hstate
  split
  · case isTrue hauthorized =>
    rw [Bool.not_eq_true'] at hauthorized
    refine watch htransport hopens henters hzero hlatched hstate (by simp [hauthorized]) ?_ _
    simp [permittedState, hlatched, hauthorized]
  case isFalse hauthorized =>
  rw [Bool.not_eq_true', Bool.not_eq_false] at hauthorized
  split
  · case isTrue hlapsed =>
    refine watch htransport hopens henters hzero hlatched hstate ?_ ?_ _
    · rintro ⟨_, hfeedback, hcommand⟩
      simp [hfeedback, hcommand] at hlapsed
    · simp [permittedState, hlatched, hauthorized]
  case isFalse hfresh =>
  simp only [Bool.or_eq_true, Bool.not_eq_true', not_or, Bool.not_eq_false] at hfresh
  split
  · exact .idle hopens hzero (.inr hlatched) (fun _ => ⟨hauthorized, hfresh⟩)
  · case isFalse hrate =>
    refine writeMotion htransport hopens henters
      ⟨hzero, hlatched, hstate, hauthorized, hfresh.1, hfresh.2, ?_⟩ _
    intro hsent
    simpa [hsent] using hrate

end Transition

theorem perform_transition {s : SafetySession} (hwired : s.Wired) (link : Link) (op : Op) :
    Transition s link op (s.perform link op) := by
  cases op with
  | authorize token now => exact .authorize hwired token now
  | disarm now => exact .disarm hwired now
  | requestStop now => exact .requestStop hwired now
  | submit command now => exact .submit hwired command now
  | observeFeedback frame now => exact .observeFeedback hwired frame now
  | latchEmergencyStop now => exact .latchEmergencyStop hwired now
  | resetEmergencyStop token now => exact .resetEmergencyStop hwired token now
  | tick now motionOutcome zeroOutcome => exact .tick hwired now motionOutcome zeroOutcome

end WheeltecVcuSerial
