import WheeltecVcuSerial.Session.ZeroFirst

namespace WheeltecVcuSerial

open SafetySession

theorem SafetySession.ZeroAttempt.buffer {s s' : SafetySession} {link link' : Link} {now : Int}
    {outcome : WriteOutcome} {writes : List Write}
    (h : ZeroAttempt s link now outcome s' link' writes) :
    ∀ write ∈ writes, write.buffer = makeZeroCommandFrame.toList := by
  cases h with
  | waiting => simp
  | _ => simp [zeroWrite]

/-- A write needs a configuration, and what is no motion frame is the exact zero frame. -/
theorem Transition.zero_or_motion {s : SafetySession} {link : Link} {op : Op} {o : Outcome}
    {write : Write} (h : Transition s link op o) (hmem : write ∈ o.writes) :
    s.configurationValid = true ∧
      (write.buffer = makeZeroCommandFrame.toList ∨ write.kind = .motion) := by
  cases h with
  | retry hopens _ hattempt => exact ⟨hopens.configured, .inl (hattempt.buffer write hmem)⟩
  | watchdog hopens _ _ _ _ hattempt =>
    exact ⟨hopens.configured, .inl (hattempt.buffer write hmem)⟩
  | motionSent hopens =>
    obtain rfl := List.mem_singleton.mp hmem
    exact ⟨hopens.configured, .inr rfl⟩
  | motionLost hopens =>
    obtain rfl := List.mem_singleton.mp hmem
    exact ⟨hopens.configured, .inr rfl⟩
  | motionFailed hopens _ _ _ _ _ hattempt =>
    rcases List.mem_cons.mp hmem with rfl | hmem
    · exact ⟨hopens.configured, .inr rfl⟩
    · exact ⟨hopens.configured, .inl (hattempt.buffer write hmem)⟩
  | _ => simp at hmem

theorem SafetySession.Coherent.latestFrame_withinLimits {s : SafetySession} (hs : s.Coherent)
    (hvalid : s.configurationValid = true) (hcommand : s.latestCommandValid = true) :
    WithinLimits s.config.maxLinearSpeedMps s.config.maxAbsYawRateRadps s.latestFrame.toList := by
  obtain ⟨_, _, _, hok, hyaw, hlateral, hframe⟩ := hs.command hcommand
  obtain ⟨hlinear, hfinite⟩ := hs.limits hvalid
  simp only [isValidMaxLinearSpeed, Bool.and_eq_true] at hlinear
  rw [hframe]
  exact encodeCommand_withinLimits hok hlinear.1.1 hlateral hfinite hyaw

theorem Transition.withinLimits {s : SafetySession} {link : Link} {op : Op} {o : Outcome}
    {write : Write} (h : Transition s link op o) (hs : s.Coherent) (hmem : write ∈ o.writes)
    (hkind : write.kind = .motion) :
    WithinLimits s.config.maxLinearSpeedMps s.config.maxAbsYawRateRadps write.buffer := by
  obtain ⟨now, motionOutcome, _, _, hopens, hready, rfl⟩ := h.motion hmem hkind
  exact hs.latestFrame_withinLimits hopens.configured (commandFresh_of_isFresh hready.command).valid

/-- Every frame of a session is the exact zero frame or a well-formed frame within the limits, and
an invalid configuration sends none. -/
theorem wire_language {admits : Link → Link → Prop} {config : SafetyConfig} {h : List Event}
    {w : World} (run : (sessionMachine admits config).Run h w) :
    (∀ e ∈ h, ∀ write ∈ e.writes,
      (write.buffer = makeZeroCommandFrame.toList ∨
        WithinLimits config.maxLinearSpeedMps config.maxAbsYawRateRadps write.buffer) ∧
      write.buffer.length = commandFrameSize ∧
      write.buffer ≠ List.replicate commandFrameSize 0 ∧
      wireLimit config.maxLinearSpeedMps < 6000 ∧ wireLimit config.maxAbsYawRateRadps ≤ 32767) ∧
    (safetyConfigIsValid config = false → ∀ e ∈ h, e.writes = []) := by
  have hvalid : ∀ e ∈ h, ∀ write ∈ e.writes, safetyConfigIsValid config = true := by
    intro e he write hwrite
    have hconfigured := ((transition_of_mem run he).zero_or_motion hwrite).1
    exact config_of_mem run he ▸ (coherent_of_mem run he).config_valid hconfigured
  refine ⟨fun e he write hwrite => ?_, fun hinvalid e he => ?_⟩
  · have hframe : write.buffer = makeZeroCommandFrame.toList ∨
        WithinLimits config.maxLinearSpeedMps config.maxAbsYawRateRadps write.buffer := by
      have htransition := transition_of_mem run he
      refine (htransition.zero_or_motion hwrite).2.imp_right fun hkind => ?_
      exact config_of_mem run he ▸ htransition.withinLimits (coherent_of_mem run he) hwrite hkind
    have hwellFormed : WellFormedCommand write.buffer := by
      rcases hframe with hzero | hmotion
      · exact hzero ▸ wellFormed_makeZeroCommandFrame
      · exact hmotion.toWellFormedCommand
    obtain ⟨hlinear, hfinite, hpos, hyaw⟩ := safetyConfigIsValid_iff.mp (hvalid e he write hwrite)
    refine ⟨hframe, hwellFormed.size, fun hblank => ?_, wireLimit_lt hlinear,
      wireLimit_le hfinite hpos hyaw⟩
    have hheader := hwellFormed.header
    rw [hblank] at hheader
    exact absurd hheader (by decide)
  · refine List.eq_nil_iff_forall_not_mem.mpr fun write hwrite => ?_
    simp [hinvalid] at hvalid
    exact hvalid e he write hwrite

theorem wire_language_replayed :
    let h := (steadyReplay (steadyCalls ++ [plainTick 105])).1
    ∀ e ∈ h, ∀ write ∈ e.writes, write.buffer = makeZeroCommandFrame.toList ∨
      WithinLimits (.finite (1 / 2)) (.finite 1) write.buffer := by
  intro h e he write hwrite
  have run := steady_run (steadyCalls ++ [plainTick 105]) (by decide +kernel) rfl
  exact ((wire_language run).1 e he write hwrite).1

end WheeltecVcuSerial
