import WheeltecVcuSerial.Session.CycleReport
import WheeltecVcuSerial.Session.FreshRun

namespace WheeltecVcuSerial

open SafetySession

/-- A cycle that sends a frame, or holds it back for the transmit rate alone. -/
inductive Cycle.Transmits (frame : List UInt8) (cycle : Cycle) : Prop
  | rateLimited : cycle.result.action = .transmitRateLimited → cycle.result.state = .active →
      cycle.session.state = .active → cycle.writes = [] → Transmits frame cycle
  | sent : cycle.writes = write :: rest → write.kind = .motion → write.buffer = frame →
      (∀ zero ∈ rest, zero.kind = .zero) → Transmits frame cycle

namespace SafetySession

variable {s s₁ : SafetySession} {link : Link} {command : TimedMotionCommand} {now : Int}
  {motionOutcome zeroOutcome : WriteOutcome} {result : CycleResult}

theorem attemptZero_writes (s : SafetySession) (link : Link) (now : Int) (result : CycleResult)
    (zeroOutcome : WriteOutcome) :
    ∀ write ∈ (s.attemptZero link now result zeroOutcome).writes, write.kind = .zero := by
  simp only [attemptZero]
  split_ifs <;> simp [zeroWrite]

theorem writeMotion_transmits (s : SafetySession) (link : Link) (now : Int) (result : CycleResult)
    (motionOutcome zeroOutcome : WriteOutcome) :
    (s.writeMotion link now result motionOutcome zeroOutcome).Transmits s.latestFrame.toList := by
  simp only [writeMotion]
  split
  · exact .sent rfl rfl rfl (by simp)
  · split
    · exact .sent rfl rfl rfl (by simp)
    · exact .sent rfl rfl rfl (attemptZero_writes _ _ _ _ _)

/-- A session in motion that a tick finds as it is. -/
theorem tick_transmits (hs : s.Coherent)
    (hopens : Opens s link (.tick now motionOutcome zeroOutcome) s₁) (h : s₁.Moving now) :
    (s.tick link now motionOutcome zeroOutcome).Transmits s₁.latestFrame.toList := by
  rw [tick_of_moving hs.wired hopens h]
  split
  · exact .rateLimited rfl h.active h.active rfl
  · exact writeMotion_transmits _ _ _ _ _ _

/-- What an accepted command leaves behind. -/
structure Holds (s : SafetySession) (link : Link) (command : TimedMotionCommand) (now : Int) :
    Prop where
  configured : s.configurationValid = true
  observed : s.lastObservedMonotonicNs = now
  up : link.Up
  known : s.connectionKnown = true
  generation : link.generation = s.connectionGeneration
  moving : s.Moving now
  command : s.latestCommand = command

theorem Holds.opens (h : s.Holds link command now) (hnow : 0 < now) :
    Opens s link (.tick now motionOutcome zeroOutcome) s where
  configured := h.configured
  checked := h.configured
  accepted := ⟨hnow, h.observed.le⟩
  enters := by
    have hsame : s.observed now = s := by
      rw [← h.observed]
      rfl
    change ∃ connection, Enters (s.observed now) link s connection
    rw [hsame]
    exact ⟨.unchanged, .unchanged h.up h.known h.generation⟩

/-- What `submit` and `tick` at one instant see alike. -/
theorem Admissible.holds (h : Admissible s command now) (hnow : 0 < now)
    (hage : 0 ≤ s.config.maxCommandAgeNs) (hvalid : s.configurationValid = true)
    (hobserved : s.lastObservedMonotonicNs = now) (hup : link.Up)
    (hknown : s.connectionKnown = true) (hgeneration : link.generation = s.connectionGeneration)
    (hactive : (s.admitting command now).state = .active) :
    (s.admitting command now).Holds link command now := by
  have hpermitted := h.permitted
  rw [admitting_eq] at hactive ⊢
  refine ⟨hvalid, hobserved, hup, hknown, hgeneration,
    ⟨h.settled, h.unlatched, hactive, ?_, h.feedback, ?_⟩, rfl⟩
  · rw [authorized_iff]
    exact
      { authorized_iff.mp hpermitted with
        sound := by
          rw [hactive]
          simp }
  · simp [commandIsFresh, hnow, h.receipt, h.deadline, h.age, hage]

theorem Admissible.clearMotionIntent (h : Admissible s command now) :
    Admissible s.clearMotionIntent command now :=
  { h with }

theorem holds_of_opens {t : SafetySession} (hs : s.Coherent)
    (hopens : Opens s link (.submit command now) s₁) (hcommand : Admissible s₁ command now)
    (ht : t = s₁ ∨ t = s₁.clearMotionIntent) (hactive : (t.admitting command now).state = .active) :
    0 < now ∧ (t.admitting command now).Holds link command now := by
  obtain ⟨connection, henters⟩ := hopens.enters
  obtain ⟨rfl, -, hknown, hgeneration⟩ := henters.eq_of_settled hcommand.settled
  have hnow : 0 < now := hopens.accepted.1
  have hage := (hs.limits hopens.configured).agePositive.le
  refine ⟨hnow, ?_⟩
  rcases ht with rfl | rfl
  · exact hcommand.holds hnow hage hopens.configured rfl henters.up hknown hgeneration hactive
  · exact hcommand.clearMotionIntent.holds hnow hage hopens.configured rfl henters.up hknown
      hgeneration hactive

theorem submit_holds (hs : s.Coherent) (haccepted : (s.submit link command now).2 = .accepted) :
    0 < now ∧ (s.submit link command now).1.Holds link command now := by
  have htransition := perform_transition hs.wired link (.submit command now)
  have hresponse : (s.perform link (.submit command now)).response = .submission .accepted :=
    congrArg Response.submission haccepted
  change 0 < now ∧ (s.perform link (.submit command now)).session.Holds link command now
  generalize s.perform link (.submit command now) = o at htransition hresponse ⊢
  have hactive : ∀ {admitted : SafetySession} {status : SubmissionStatus},
      status = (if admitted.state = .active then .accepted else .recoveryPending) →
        status = .accepted → admitted.state = .active := by
    rintro admitted _ rfl haccepted
    by_contra hidle
    simp [hidle] at haccepted
  have htaken : ∀ {response : Response}, response = .submission .accepted →
      (Op.submit command now).takes response ≠ false := by
    rintro _ rfl
    simp [Op.takes, Op.grants]
  have hgranted : ∀ {response : Response}, response = .submission .accepted →
      (Op.submit command now).grants response ≠ false := by
    rintro _ rfl
    simp [Op.grants]
  cases htransition with
  | admitted hopens hcommand _ hstatus =>
    exact holds_of_opens hs hopens hcommand (.inl rfl)
      (hactive hstatus (Response.submission.inj hresponse))
  | readmitted hopens hcommand _ _ hstatus =>
    exact holds_of_opens hs hopens hcommand (.inr rfl)
      (hactive hstatus (Response.submission.inj hresponse))
  | unpermitted => cases hresponse
  | unconfigured _ _ htakes => exact absurd htakes (htaken hresponse)
  | clockRejected _ _ _ _ htakes => exact absurd htakes (htaken hresponse)
  | clockRejectedPending _ _ _ _ htakes => exact absurd htakes (htaken hresponse)
  | disconnected _ _ _ _ _ htakes => exact absurd htakes (htaken hresponse)
  | declined _ _ htakes => exact absurd htakes (htaken hresponse)
  | stopped _ _ _ _ _ hgrants => exact absurd hgrants (hgranted hresponse)
  | revoked _ _ _ _ _ hgrants => exact absurd hgrants (hgranted hresponse)

/-- No motion leaves a session like this. -/
def Still (s : SafetySession) : Prop :=
  s.state ≠ .active ∨ s.authorizationActive = false ∨ s.latestCommandValid = false ∨
    s.zeroEpisodeActive = true ∨ s.emergencyStopLatched = true

theorem Still.tick (h : s.Still) (hs : s.Coherent) :
    ∀ write ∈ (s.tick link now motionOutcome zeroOutcome).writes, write.kind ≠ .motion := by
  intro write hwrite hkind
  have htransition := perform_transition hs.wired link (.tick now motionOutcome zeroOutcome)
  obtain ⟨now', _, _, hop, -, hready, -⟩ := htransition.motion hwrite hkind
  have hpermitted : s.authorizationActive = true := (authorized_iff.mp hready.permitted).active
  have hcommand : s.latestCommandValid = true := (commandFresh_of_isFresh hready.command).valid
  have hzero : s.zeroEpisodeActive = false := hready.settled
  have hlatched : s.emergencyStopLatched = false := hready.unlatched
  rcases h with hstate | h
  · exact hstate hready.active
  · simp [hpermitted, hcommand, hzero, hlatched] at h

theorem submit_still (hs : s.Coherent) (hrefused : (s.submit link command now).2 ≠ .accepted) :
    (s.submit link command now).1.Still := by
  have htransition := perform_transition hs.wired link (.submit command now)
  have hresponse : (s.perform link (.submit command now)).response ≠ .submission .accepted :=
    fun h => hrefused (Response.submission.inj h)
  change (s.perform link (.submit command now)).session.Still
  generalize s.perform link (.submit command now) = o at htransition hresponse ⊢
  have hactive : ∀ {admitted : SafetySession} {status : SubmissionStatus},
      status = (if admitted.state = .active then .accepted else .recoveryPending) →
        Response.submission status ≠ .submission .accepted → admitted.Still := by
    rintro admitted _ rfl hother
    refine .inl fun hactive => hother ?_
    rw [if_pos hactive]
  cases htransition with
  | admitted _ _ _ hstatus => exact hactive hstatus hresponse
  | readmitted _ _ _ _ hstatus => exact hactive hstatus hresponse
  | unconfigured hinvalid => exact .inr (.inr (.inl (hs.silent_of_unconfigured hinvalid)))
  | clockRejected => exact .inr (.inl rfl)
  | clockRejectedPending => exact .inr (.inl rfl)
  | disconnected => exact .inr (.inl rfl)
  | declined _ _ _ _ hsubmit =>
    rcases hsubmit _ _ rfl with hlatched | hfault
    · exact .inr (.inr (.inr (.inr hlatched)))
    · exact .inl (by simp [hfault])
  | stopped => exact .inr (.inr (.inl rfl))
  | revoked => exact .inr (.inl rfl)
  | unpermitted => exact .inr (.inr (.inl rfl))

end SafetySession

/-- What becomes of a command at the tick that follows its submission at the same time: it is sent,
or held back for the transmit rate, if it was accepted and the link has not changed, and nothing is
sent as motion if it was not. -/
structure Agrees (config : SafetyConfig) (s : SafetySession) (link : Link)
    (command : TimedMotionCommand) (now : Int) : Prop where
  accepted : (s.submit link command now).2 = .accepted →
    ∀ motionOutcome zeroOutcome,
      ((s.submit link command now).1.tick link now motionOutcome zeroOutcome).Transmits
        (encodeCommand command.motion config.maxLinearSpeedMps).frame.toList
  refused : (s.submit link command now).2 ≠ .accepted →
    ∀ link' motionOutcome zeroOutcome,
      ∀ write ∈ ((s.submit link command now).1.tick link' now motionOutcome zeroOutcome).writes,
        write.kind ≠ .motion

theorem submit_agrees {admits : Link → Link → Prop} {config : SafetyConfig} {h : List Event}
    {w : World} (run : (sessionMachine admits config).Run h w) (link : Link)
    (command : TimedMotionCommand) (now : Int) :
    Agrees config w.session link command now := by
  have hs := coherent_of_run run
  have htransition := perform_transition hs.wired link (.submit command now)
  have hafter : (w.session.submit link command now).1.Coherent := htransition.coherent hs
  have hconfig : (w.session.submit link command now).1.config = config :=
    htransition.config.trans (config_of_run run)
  constructor
  · intro haccepted motionOutcome zeroOutcome
    obtain ⟨hnow, hholds⟩ := submit_holds hs haccepted
    have hopens : Opens _ link (.tick now motionOutcome zeroOutcome) _ := hholds.opens hnow
    have htransmits := tick_transmits hafter hopens hholds.moving
    have hcommand := commandFresh_of_isFresh hholds.moving.command
    obtain ⟨-, -, -, -, -, -, hframe⟩ := hafter.command hcommand.valid
    rw [hframe, hholds.command, hconfig] at htransmits
    exact htransmits
  · intro hrefused link' motionOutcome zeroOutcome
    exact (submit_still hs hrefused).tick hafter

theorem submit_agrees_replayed :
    ((steadyReplay movingCalls).2.session.submit steadyLink (forwardCommand 3 106) 106).2 =
        .accepted ∧
      Agrees steadyConfig (steadyReplay movingCalls).2.session steadyLink (forwardCommand 3 106)
        106 :=
  ⟨by decide +kernel, submit_agrees moving_run _ _ _⟩

end WheeltecVcuSerial
