import WheeltecVcuSerial.Cli.Ends
import WheeltecVcuSerial.Session.WireLanguage

namespace WheeltecVcuSerial

open Trace Program

theorem Guarded.run {p : SerialPort} {trace more : List ProcessCall} {g g' : Guard}
    (h : Guarded p trace g) (hmore : more.foldlM guard g = some g') :
    Guarded p (trace ++ more) g' := by
  induction more generalizing trace g with
  | nil =>
    cases hmore
    rwa [List.append_nil]
  | cons call more ih =>
    obtain ⟨between, hcall, hmore⟩ := Option.bind_eq_some_iff.mp hmore
    rw [List.append_cons]
    exact ih (h.step hcall) hmore

namespace Cli

variable {config : RuntimeConfig} {limits : SafetyConfig} {d d' : Service} {s : CliState}
  {made : List ProcessCall} {h : List (List ProcessCall)} {next : Phase ⊕ Nat}

/-- The guard goes along with every act. -/
theorem Act.guarded (h : Act limits d made d') : made.foldlM guard d.guard = some d'.guard := by
  have hone {call : ProcessCall} {g g' : Guard} (hcall : guard g call = some g') :
      [call].foldlM guard g = some g' := by
    rw [List.foldlM_cons, hcall]
    rfl
  cases h with
  | call _ hguard => exact hone hguard
  | enter | leave | read | ended | interrupted | unreadable | take | spent | unpolled | pass => rfl
  | line _ _ _ _ hguard => exact hone hguard
  | trailing _ _ _ _ _ _ hguard => exact hone hguard
  | disarm _ _ hguard => exact hone hguard
  | zero _ _ hguard => exact hone hguard
  | tick _ _ _ _ _ _ hguard => exact hone hguard
  | stop _ _ _ hguard hguard' =>
    rw [List.foldlM_cons, hguard]
    exact hone hguard'

theorem Acts.guarded (h : Acts limits d made d') : made.foldlM guard d.guard = some d'.guard := by
  induction h with
  | refl => rfl
  | next _ hact ih =>
    rw [List.foldlM_append, ih]
    exact hact.guarded

theorem Finished.acts {code : Nat} (h : Finished config limits s code made)
    (hstage : d.stage ≠ .ended) (hd : d.guard = s.guard) :
    ∃ d', Acts limits d made d' ∧ d'.guard.port.connected = false := by
  cases h with
  | @mk ns stopped g _ _ _ _ _ _ _ p'' shutdown hstopped hattempted _ hclosed hrestored
      hdestroyed =>
    have hrestoring : Ordinarily limits _ (.shutdownRequested shutdown :: _) _ :=
      (Ordinarily.one rfl rfl).trans
        ((Ordinarily.aside hrestored.aside).trans (hdestroyed.calls (some g.session)))
    have hclosing := ((hclosed.calls (some g.session)).trans hrestoring).acts
      (d := { d with guard := { g.guard with port := _ }, stage := .ended })
    have hclock : Acts limits d [.monotonicNow ns] d := .aside (by simp [ProcessCall.aside])
    have hleft : Acts limits d [.monotonicNow ns] { d with stage := .over } :=
      hclock.next (.leave hstage)
    have hsession : Acts limits { d with stage := .over } _
        { d with guard := g.guard, stage := .over } := hstopped.acts rfl hd
    have hpassed := (hleft.trans hsession).next (.pass rfl)
    have hattempts := hattempted.acts { d with guard := g.guard, stage := .ended } rfl rfl
    have hafter := hattempts.trans hclosing
    rw [List.append_nil] at hpassed
    exact ⟨_, List.append_assoc .. ▸ hpassed.trans hafter, hdestroyed.closed⟩

theorem Over.acts {code : Nat} (h : Over config limits code made) :
    ∃ d, Acts limits { guard := opening config } made d ∧ d.guard.port.connected = false := by
  cases h with
  | refused hrefused => exact hrefused.acts
  | finished hacts hd hleaves _ _ hfinished =>
    obtain ⟨d', hmade, hclosed⟩ := hfinished.acts hleaves.not_ended hd
    exact ⟨d', hacts.trans hmade, hclosed⟩

/-- What the acts of a process have led to, as far as its state tells. -/
structure Standing (next : Phase ⊕ Nat) (d : Service) : Prop where
  running {s : CliState} : next = .inl (.running s) → d = s.service .head []
  leaving {s : CliState} : next = .inl (.leaving s) → d.guard = s.guard
  exited {code : Nat} : next = .inr code → d.guard.port.connected = false

/-- Whatever a process has done is a sequence of acts. -/
theorem acts_of_run (run : (process config).Run h next) :
    ∃ d, Acts (makeSafetyConfig config) { guard := opening config } (called h) d ∧
      Standing next d := by
  have hconducted := conducted run
  rcases next with phase | code
  · cases phase with
    | starting =>
      have hcalled : called h = [] := hconducted
      refine ⟨{ guard := opening config }, ?_, by simp, by simp, by simp⟩
      rw [hcalled]
      exact .refl
    | running s =>
      refine ⟨_, hconducted.1, ?_, by simp, by simp⟩
      rintro _ ⟨⟩
      rfl
    | leaving s =>
      obtain ⟨⟨d, hacts, hd, -⟩, -⟩ := hconducted
      refine ⟨d, hacts, by simp, ?_, by simp⟩
      rintro _ ⟨⟩
      exact hd
  · obtain ⟨d, hacts, hclosed⟩ := Over.acts hconducted
    exact ⟨d, hacts, by simp, by simp, fun _ => hclosed⟩

theorem opening_sound : (opening config).port.Sound :=
  ⟨by simp [opening, SerialPort.construct], fun _ => rfl, Nat.zero_le _⟩

theorem Acts.guarded_opening (h : Acts limits { guard := opening config } made d) :
    Guarded (opening config).port made d.guard :=
  (guarded_start opening_sound).run h.guarded

/-- Every session of a process is made for its limits. -/
theorem Acts.constructed (h : Acts limits d made d') :
    ∀ config link, .construct config link ∈ made → config = limits := by
  refine h.invariant (I := fun _ made =>
    ∀ config link, .construct config link ∈ made → config = limits) (by simp) ?_
  intro made d more d' _ hmade hact config link hmem
  rw [List.mem_append] at hmem
  refine hmem.elim (hmade config link) fun hmem => ?_
  cases hact with
  | call hcall =>
    obtain rfl := List.mem_singleton.mp hmem
    simpa [ordinary] using hcall
  | _ => simp at hmem

/-! ### The process over the session and the port -/

/-- What a process is for its session and for its port. -/
structure Refines (config : RuntimeConfig) (trace : List ProcessCall) (next : Phase ⊕ Nat) :
    Prop where
  session : ∃ w, (sessionMachine Link.Evolves (makeSafetyConfig config)).Run
    (sessionHistory trace) w ∧ ∀ s, next = .inl (.running s) ∨ next = .inl (.leaving s) →
      w.session = s.session ∧ w.link.Evolves s.port.link
  answered : ∀ e answers, .session e answers ∈ trace →
    List.Forall₂ (fun write e => PortEvent.Answers e write) e.writes answers
  direct : ∀ e data deadlineNs, .port e ∈ trace → e.record.call = .writeAll data deadlineNs →
    data = .bytes makeZeroCommandFrame.toList
  port : ∃ p, PortRun (opening config).port (portTrace trace) p ∧
    ∀ s, next = .inl (.running s) ∨ next = .inl (.leaving s) → p = s.port

theorem Standing.guard (h : Standing next d) {s : CliState}
    (hs : next = .inl (.running s) ∨ next = .inl (.leaving s)) : d.guard = s.guard := by
  rcases hs with hs | hs
  · exact congrArg Service.guard (h.running hs)
  · exact h.leaving hs

theorem Acts.session (h : Acts limits { guard := opening config } made d) :
    ∃ w, (sessionMachine Link.Evolves limits).Run (sessionHistory made) w ∧
      ∀ s, d.guard.session = some s → w.session = s ∧ w.link.Evolves d.guard.port.link := by
  have hguarded := h.guarded_opening
  cases hsession : d.guard.session with
  | none =>
    rw [hguarded.silent hsession]
    exact ⟨⟨.construct limits none, ⟨false, 0⟩⟩, .start (.inr rfl), by simp⟩
  | some s =>
    obtain ⟨config', link, hmem, w, run, hw, hlink⟩ := hguarded.attended s hsession
    obtain rfl := h.constructed _ _ hmem
    refine ⟨w, run, ?_⟩
    rintro _ ⟨⟩
    exact ⟨hw, hlink⟩

theorem Acts.answered (h : Acts limits { guard := opening config } made d) {e : Event}
    {answers : List PortEvent} (hmem : .session e answers ∈ made) :
    List.Forall₂ (fun write e => PortEvent.Answers e write) e.writes answers := by
  obtain ⟨g, g', hsound, hguard⟩ := (guarded_start opening_sound).of_mem h.guarded hmem
  obtain ⟨-, hmap⟩ := Option.ite_none_right_eq_some.mp hguard
  obtain ⟨q, hanswer, -⟩ := Option.map_eq_some_iff.mp hmap
  exact (hsound.answered hanswer).each

theorem Acts.direct (h : Acts limits { guard := opening config } made d) {e : PortEvent}
    {data : ByteSpan} {deadlineNs : Int} (hmem : .port e ∈ made)
    (hcall : e.record.call = .writeAll data deadlineNs) :
    data = .bytes makeZeroCommandFrame.toList := by
  obtain ⟨g, g', -, hguard⟩ := (guarded_start opening_sound).of_mem h.guarded hmem
  obtain ⟨⟨-, hharmless⟩, -⟩ := Option.ite_none_right_eq_some.mp hguard
  rw [hcall] at hharmless
  simpa [PortCall.harmless] using hharmless

/-- Whatever a process has done: its session has gone through a run of the session machine over a
transport that keeps its contract, and what the session has written is what the port was asked. -/
theorem process_refines (run : (process config).Run h next) : Refines config (called h) next := by
  obtain ⟨d, hacts, hstanding⟩ := acts_of_run run
  obtain ⟨w, hrun, hw⟩ := hacts.session
  refine ⟨⟨w, hrun, fun s hs => ?_⟩, fun e answers hmem => hacts.answered hmem,
    fun e data deadlineNs hmem hcall => hacts.direct hmem hcall,
    d.guard.port, portRun_of_guarded hacts.guarded, fun s hs => ?_⟩
  · have hguard := hstanding.guard hs
    have hlink := hw s.session (by rw [hguard]; rfl)
    rw [hguard] at hlink
    exact hlink
  · rw [hstanding.guard hs]
    rfl

theorem drive_refines : Refines driveConfig (called drive.reverse) (.inr 0) :=
  process_refines drive_run

/-- A frame that moves the vehicle: it comes from a tick of a session that was ready for it. -/
structure MotionFrame (config : RuntimeConfig) (trace : List ProcessCall) (e : PortEvent)
    (frame : List UInt8) : Prop where
  limits : WithinLimits config.maxLinearSpeedMps config.maxAbsYawRateRadps frame
  tick : ∃ x answers now motionOutcome zeroOutcome, .session x answers ∈ trace ∧ e ∈ answers ∧
    x.op = .tick now motionOutcome zeroOutcome ∧ frame = x.before.latestFrame.toList ∧
      SafetySession.MotionReady (x.before.observed now) now

/-- Every frame that a process hands to its port is the exact zero frame, or a frame within the
limits of the configuration that a session was ready to send. -/
theorem process_wire (run : (process config).Run h next) :
    ∀ e ∈ portTrace (called h), ∀ data deadlineNs, e.record.call = .writeAll data deadlineNs →
      ∃ frame, data = .bytes frame ∧ frame.length = commandFrameSize ∧
        (frame = makeZeroCommandFrame.toList ∨ MotionFrame config (called h) e frame) := by
  intro e he data deadlineNs hcall
  obtain ⟨d, hacts, -⟩ := acts_of_run run
  obtain ⟨call, hmem, he⟩ := List.mem_flatMap.mp he
  have hzero := wellFormed_makeZeroCommandFrame.size
  cases call with
  | port e' =>
    obtain rfl := List.mem_singleton.mp he
    exact ⟨_, hacts.direct hmem hcall, hzero, .inl rfl⟩
  | session x answers =>
    obtain ⟨w, hrun, -⟩ := hacts.session
    have hx : x ∈ sessionHistory (called h) :=
      List.mem_reverse.mpr (List.mem_filterMap.mpr ⟨_, hmem, rfl⟩)
    obtain ⟨write, hwrite, hasked, -⟩ := exists_of_forall₂ (hacts.answered hmem) e he
    obtain ⟨rfl, -⟩ := PortCall.writeAll.inj (hasked.symm.trans hcall)
    have htransition := transition_of_mem hrun hx
    rcases (htransition.zero_or_motion hwrite).2 with hzeroFrame | hkind
    · exact ⟨_, rfl, hzeroFrame ▸ hzero, .inl hzeroFrame⟩
    · have hlimits := htransition.withinLimits (coherent_of_mem hrun hx) hwrite hkind
      rw [config_of_mem hrun hx] at hlimits
      obtain ⟨now, motionOutcome, zeroOutcome, hop, -, hready, hmotion⟩ :=
        htransition.motion hwrite hkind
      refine ⟨_, rfl, hlimits.size, .inr ⟨hlimits, ?_⟩⟩
      refine ⟨x, answers, now, motionOutcome, zeroOutcome, hmem, he, hop, ?_, hready⟩
      rw [hmotion]
      rfl
  | _ => cases he

/-- One of the frames moves the vehicle. -/
theorem drive_moves :
    ∃ e ∈ portTrace (called drive.reverse), e.record.call.harmless = false := by decide +kernel

theorem drive_wire : ∃ e ∈ portTrace (called drive.reverse), ∃ frame,
    MotionFrame driveConfig (called drive.reverse) e frame := by
  obtain ⟨e, he, hmoves⟩ := drive_moves
  obtain ⟨data, deadlineNs, hcall, hdata⟩ := PortCall.write_of_not_harmless hmoves
  obtain ⟨frame, rfl, -, hframe⟩ := process_wire drive_run e he data deadlineNs hcall
  exact ⟨e, he, frame, hframe.resolve_left fun hzero => hdata (congrArg _ hzero)⟩

end Cli

end WheeltecVcuSerial
