import WheeltecVcuSerial.Monitor.Run
import WheeltecVcuSerial.Process.Reception

/-! The monitor goes through the rounds of its receiving loop. -/

namespace WheeltecVcuSerial.Monitor

open Process Trace Program

variable {options : Options} {s s' : MonitorState} {made more : List ProcessCall}

/-- The state of the loop as the receiving loop has it. -/
def MonitorState.loop (s : MonitorState) : MonitorLoop :=
  { transport := s.port.toPosixSerialTransport
    parser := s.parser
    buffer := s.buffer
    frames := s.aggregate.frames }

theorem addFrames_frames {a : Aggregate} {frameCount : Nat} (h : a.frames < frameCount)
    (frames : List ParsedFeedbackFrame) :
    (a.addFrames frameCount frames).frames = min (a.frames + frames.length) frameCount := by
  induction frames generalizing a with
  | nil => exact (min_eq_left h.le).symm
  | cons frame frames ih =>
    have hadd : (a.add frame.feedback).frames = a.frames + 1 := rfl
    rw [Aggregate.addFrames, List.length_cons]
    split
    · case isTrue hfull => omega
    · case isFalse hmore =>
      rw [ih (not_le.mp hmore), hadd, Nat.add_right_comm, Nat.add_assoc]

/-- Where a round leaves the receiving loop: one round on, or out of it. -/
def Phase.Follows (options : Options) (s : MonitorState) (made : List ProcessCall) :
    Phase → Prop
  | .starting => False
  | .running s' => s'.port.Ready ∧ s'.sessionDeadlineNs = s.sessionDeadlineNs ∧
      (ReadsWithin (systemTrace made) →
        ∃ e, (monitorMachine options.frameCount s.sessionDeadlineNs).step s.loop e s'.loop ∧
          Recounts [e] made)
  | .leaving _ _ => ReadsWithin (systemTrace made) → Unheard made ∨
      ∃ e l, (monitorMachine options.frameCount s.sessionDeadlineNs).step s.loop e l ∧
        Recounts [e] made

theorem dispatch_calls (l : MonitorLoop) (frameCount : Nat) (result : IoResult) :
    (l.dispatch frameCount result).2.calls = [] := by
  unfold MonitorLoop.dispatch
  cases result.status <;> rfl

/-- The receiving loop once a read has come back. -/
def MonitorState.loopAfter (s : MonitorState) (e : PortEvent) (data : List UInt8) : MonitorLoop :=
  { s.loop with
    transport := e.record.after.toPosixSerialTransport
    buffer := data ++ s.buffer.drop data.length }

section

variable {e : PortEvent} {nowNs : Int} {result : IoResult} {data : List UInt8}

/-- A read of the port is a round of the receiving loop. -/
theorem step_of_read (hs : s.port.Ready) (hmissing : s.aggregate.frames < options.frameCount)
    (hnow : ¬(nowNs ≤ 0 || nowNs ≥ s.sessionDeadlineNs) = true)
    (hperform : s.port.perform
      (.readSome false bufferSize (min s.sessionDeadlineNs (nowNs + 100000000))) e.calls =
        some (e.record, [])) (hresult : e.record.result = .read result data)
    (hreads : ReadsWithin (systemTrace [.port e])) :
    ∃ x, (monitorMachine options.frameCount s.sessionDeadlineNs).step s.loop x
      ((s.loopAfter e data).dispatch options.frameCount result).1 ∧ Recounts [x] [.port e] := by
  obtain ⟨result', data', hresult', hread⟩ := SerialPort.readSome_of_perform hperform
  cases hresult.symm.trans hresult'
  have hgeneration : e.generation = s.port.generation := by
    rw [PortEvent.generation, (hs.sound.performed hperform).1]
  have hcalls : systemTrace [.port e] = e.calls := by
    simp [systemTrace, portTrace, ProcessCall.portEvents]
  obtain ⟨hfits, hrefines⟩ := SerialPort.readSome_refines hs.operations hread (hcalls ▸ hreads)
  let round : MonitorRound := { nowNs := nowNs, answers := e.answers, fits := hfits }
  have hreceive : s.loop.receive options.frameCount s.sessionDeadlineNs round =
      some ((s.loopAfter e data).dispatch options.frameCount result) := by
    rw [MonitorLoop.receive, if_neg hnow]
    exact Option.map_eq_some_iff.mpr ⟨_, hrefines, rfl⟩
  have hkept : e.kept = ((s.loopAfter e data).dispatch options.frameCount result).2.chunk := by
    rw [PortEvent.kept_of_read hresult, MonitorLoop.dispatch_chunk]
    split
    · case isTrue hok =>
      rw [MonitorState.loopAfter, SerialPort.transferred_of_ok hperform hresult hok, List.take_left]
    · rfl
  refine ⟨_, ⟨rfl, hmissing, round, _, hreceive, rfl⟩, ?_⟩
  rw [show s.loop.transport.generation = e.generation from hgeneration.symm]
  exact .read (SerialPort.call_of_perform hperform) hkept rfl (by simp)
    (dispatch_calls _ options.frameCount result).symm

/-- What `main` does with the result of a read, the receiving loop does too. -/
theorem received_follows (hs : s.port.Ready)
    (hmissing : s.aggregate.frames < options.frameCount)
    (hnow : ¬(nowNs ≤ 0 || nowNs ≥ s.sessionDeadlineNs) = true)
    (hperform : s.port.perform
      (.readSome false bufferSize (min s.sessionDeadlineNs (nowNs + 100000000))) e.calls =
        some (e.record, [])) (hresult : e.record.result = .read result data) :
    Phase.Follows options s [.port e]
      ({ s with port := e.record.after, buffer := data ++ s.buffer.drop data.length }.received
        options result) := by
  have hstep := step_of_read hs hmissing hnow hperform hresult
  unfold MonitorState.received
  split
  · case isTrue hlate =>
    refine ⟨hs.performed hperform, rfl, fun hreads => ?_⟩
    obtain ⟨x, hx⟩ := hstep hreads
    rw [MonitorLoop.dispatch, hlate] at hx
    exact ⟨x, hx⟩
  · split
    · exact fun hreads => .inr ((hstep hreads).imp fun x hx => ⟨_, hx⟩)
    · case isFalse hlate hbad =>
      refine ⟨hs.performed hperform, rfl, fun hreads => ?_⟩
      obtain ⟨x, hx⟩ := hstep hreads
      rw [MonitorLoop.dispatch, not_not.mp hbad] at hx
      refine ⟨x, ?_, hx.2⟩
      have hframes := addFrames_frames hmissing
        (s.parser.consume (.bytes ((data ++ s.buffer.drop data.length).take
          result.bytesTransferred))).2
      simpa [MonitorState.loop, MonitorState.loopAfter, hframes] using hx.1

end

theorem round_follows (s : MonitorState) (hs : s.port.Ready) :
    Makes (s.round options) fun phase made => phase.Follows options s made := by
  refine .ite (fun _ => .pure fun _ => .inl .nil) fun hmissing => ?_
  refine .bind shutdownRequested_makes ?_
  rintro stopped _ rfl
  have hflag : Unheard [.shutdownRequested stopped] := .outside rfl rfl
  refine .ite (fun _ => .pure fun _ => .inl hflag) fun _ => ?_
  refine .bind monotonicNowNs_makes ?_
  rintro nowNs _ rfl
  have hclock : Unheard ([.shutdownRequested stopped] ++ [.monotonicNow nowNs]) :=
    hflag.append (.outside rfl rfl)
  refine .ite (fun _ => .pure fun _ => .inl hclock) fun hnow => ?_
  refine .bind (s.port.request_makes _) ?_
  rintro _ _ ⟨e, rfl, rfl, hperform⟩
  obtain ⟨result, data, hresult, -⟩ := SerialPort.readSome_of_perform hperform
  have hfollows := received_follows hs (not_le.mp hmissing) hnow hperform hresult
  have hstep {x : Reception} (hrecounts : Recounts [x] [.port e]) :
      Recounts [x] ([.shutdownRequested stopped] ++ ([.monotonicNow nowNs] ++ ([.port e] ++ []))) :=
    (Recounts.unheard hclock).append hrecounts
  have hreads (h : ReadsWithin (systemTrace
      ([.shutdownRequested stopped] ++ ([.monotonicNow nowNs] ++ ([.port e] ++ []))))) :
      ReadsWithin (systemTrace [.port e]) := h
  rw [hresult]
  refine .pure ?_
  cases hphase : MonitorState.received options _ result with
  | starting =>
    rw [hphase] at hfollows
    exact hfollows
  | running s' =>
    rw [hphase] at hfollows
    refine ⟨hfollows.1, hfollows.2.1, fun h => ?_⟩
    obtain ⟨x, hx, hrecounts⟩ := hfollows.2.2 (hreads h)
    exact ⟨x, hx, hstep hrecounts⟩
  | leaving s' code =>
    rw [hphase] at hfollows
    intro h
    rcases hfollows (hreads h) with hunheard | ⟨x, l, hx, hrecounts⟩
    · exact .inl (hclock.append hunheard)
    · exact .inr ⟨x, l, hx, hstep hrecounts⟩

/-! ### The process -/

/-- A close of the port reads nothing. -/
theorem close_unheard (p : SerialPort) : Makes (p.request .close) fun _ made => Unheard made := by
  refine (p.request_makes .close).weaken ?_
  rintro _ _ ⟨e, rfl, rfl, hperform⟩
  have hcall := SerialPort.call_of_perform hperform
  exact ⟨by simp [ProcessCall.portEvents, hcall, PortCall.reads],
    by simp [ProcessCall.sessionEvent]⟩

theorem closeTwice_unheard (p : SerialPort) : Makes (closeTwice p) fun _ made => Unheard made := by
  refine .bind (close_unheard p) fun closed made hclosed => ?_
  refine .bind (close_unheard closed.after) fun _ more hdestroyed => .pure ?_
  rw [List.append_nil]
  exact hclosed.append hdestroyed

theorem construct_ready :
    (SerialPort.construct options.device .readOnly {}).Ready :=
  ⟨⟨by simp [SerialPort.construct], fun _ => rfl, Nat.zero_le _⟩, rfl⟩

theorem start_hears : Makes (start options) fun next made => Unheard made ∧
    ∀ s, next = .inl (.running s) → s.port.Ready ∧
      (monitorMachine options.frameCount s.sessionDeadlineNs).init s.loop := by
  refine .bind ((SerialPort.construct options.device .readOnly {}).request_makes .open) ?_
  rintro _ _ ⟨e, rfl, rfl, hperform⟩
  have hready : (SerialPort.construct options.device .readOnly {}).Ready := construct_ready
  have hcall := SerialPort.call_of_perform hperform
  have hopen : Unheard [.port e] :=
    ⟨by simp [ProcessCall.portEvents, hcall, PortCall.reads], by simp [ProcessCall.sessionEvent]⟩
  obtain ⟨result, hresult, hopened⟩ := SerialPort.opened_of_open hready.sound rfl hperform
  rw [hresult]
  refine .ite (fun _ => ?_) fun hok => ?_
  · refine .bind (close_unheard _) fun _ made hclosed => .pure ⟨?_, by simp⟩
    simpa using hopen.append hclosed
  refine .bind monotonicNowNs_makes ?_
  rintro startedNs _ rfl
  have hclock : Unheard ([.port e] ++ [.monotonicNow startedNs]) :=
    hopen.append (.outside rfl rfl)
  refine .ite (fun _ => ?_) fun _ => .pure ⟨by simpa using hclock, ?_⟩
  · refine .bind (closeTwice_unheard _) fun _ made hclosed => .pure ⟨?_, by simp⟩
    simpa using hclock.append hclosed
  · rintro _ ⟨⟩
    refine ⟨hready.performed hperform, ?_⟩
    obtain ⟨fd, hfd⟩ := hopened.connected_of_ok hready.sound rfl (by simpa using hok)
    exact ⟨fd, congrArg (fun t => ({ transport := t } : MonitorLoop)) hfd⟩

/-- Where the reads of a monitor keep to their buffer, it has gone through its receiving loop. -/
def Accounted (made : List ProcessCall) : Prop :=
  ReadsWithin (systemTrace made) → ∃ h, Receives h ∧ Recounts h made

theorem accounted {frameCount : Nat} {deadlineNs : Int} {l : MonitorLoop}
    (h : Relayed (monitorMachine frameCount deadlineNs) made l) :
    ∃ h, Receives h ∧ Recounts h made := by
  obtain ⟨h, hrun, hrecounts⟩ := h
  exact ⟨h, .monitor hrun, hrecounts⟩

/-- How far the receiving loop has got, as the phases of the process tell. -/
def Phase.Relays (options : Options) (made : List ProcessCall) : Phase → Prop
  | .starting => Unheard made
  | .running s => s.port.Ready ∧ (ReadsWithin (systemTrace made) →
      Relayed (monitorMachine options.frameCount s.sessionDeadlineNs) made s.loop)
  | .leaving _ _ => Accounted made

end WheeltecVcuSerial.Monitor
