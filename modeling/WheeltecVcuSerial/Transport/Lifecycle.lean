import WheeltecVcuSerial.Transport.Ledger
import Mathlib.Data.List.Chain

namespace WheeltecVcuSerial

open Trace Program Syscalls

variable {access : SerialAccess} {reads : Bool} {held : Option Int}

/-! ### The calls of a port -/

namespace SerialPort

def holding (p : SerialPort) : Option Int := if p.connected then some p.fd else none

/-- What no call of a port changes. -/
def settings (p : SerialPort) : List Char × SerialAccess × IoOperations :=
  (p.devicePath, p.access, p.operations)

/-- A port holds a descriptor exactly while it is connected. -/
structure Sound (p : SerialPort) : Prop where
  connected_iff : p.connected = true ↔ 0 ≤ p.fd
  unheld : p.connected = false → p.fd = -1
  generation : p.generation ≤ generationMax

/-- What opening makes of a port that is closed. -/
inductive Opened (p : SerialPort) : SerialOpenResult → SerialPort → Prop
  | connected {fd : Int} : 0 ≤ fd → p.generation < generationMax →
      Opened p { status := .ok, generation := p.generation + 1 } (p.connect fd)
  | refused : status ≠ .ok → Opened p (p.refused status osError).1 p

def Opens (p : SerialPort) (outcome : SerialOpenResult × SerialPort) (held : Option Int) : Prop :=
  p.Opened outcome.1 outcome.2 ∧ held = outcome.2.holding

variable {p p' : SerialPort} {fd : Int}

theorem connect_generation (h : p.generation < generationMax) :
    (p.connect fd).generation = p.generation + 1 :=
  Nat.mod_eq_of_lt (by simp only [generationMax] at h; omega)

theorem Sound.connect (h : p.generation < generationMax) (hfd : 0 ≤ fd) : (p.connect fd).Sound where
  connected_iff := by simp [SerialPort.connect, hfd]
  unheld hclosed := by cases hclosed
  generation := by
    rw [connect_generation h]
    exact h

theorem holding_closed (h : p.connected = false) : p.holding = none := by
  rw [holding, h]
  rfl

/-- The exits that close the descriptor again. -/
theorem closing_triple {status : TransportStatus} {osError : Int} (hstatus : status ≠ .ok)
    (hclosed : p.connected = false) :
    Triple (guarded access reads) (some fd)
      (do let _ ← Syscalls.close fd; return p.refused status osError)
      p.Opens := by
  refine .bind close_triple ?_
  rintro _ _ rfl
  exact .pure ⟨.refused hstatus, (holding_closed hclosed).symm⟩

/-- The exits that release the terminal before they close the descriptor again. -/
theorem releasing_triple {status : TransportStatus} {osError : Int} (hstatus : status ≠ .ok)
    (hfd : 0 ≤ fd) (hclosed : p.connected = false) :
    Triple (guarded access reads) (some fd)
      (do releaseExclusiveAndClose fd; return p.refused status osError)
      p.Opens := by
  refine .bind (releaseExclusiveAndClose_triple hfd) ?_
  rintro _ _ rfl
  exact .pure ⟨.refused hstatus, (holding_closed hclosed).symm⟩

theorem openNewGeneration_triple (hgeneration : p.generation ≤ generationMax)
    (hclosed : p.connected = false) :
    Triple (guarded access reads) none p.openNewGeneration p.Opens := by
  have hrefused (status : TransportStatus) (osError : Int) (hstatus : status ≠ .ok) :
      Triple (guarded access reads) none (pure (p.refused status osError))
        p.Opens :=
    .pure ⟨.refused hstatus, (holding_closed hclosed).symm⟩
  rw [openNewGeneration]
  refine .ite (fun _ => hrefused _ _ (by simp)) fun _ => ?_
  refine .ite (fun _ => hrefused _ _ (by simp)) fun hgen => ?_
  have hgenerationLt : p.generation < generationMax := lt_of_le_of_ne hgeneration hgen
  refine .ite (fun _ => hrefused _ _ (by simp)) fun _ => ?_
  refine .bind openPath_triple ?_
  rintro opened _ rfl
  refine .ite (fun hfailed => ?_) fun hopened => ?_
  · rw [if_pos hfailed]
    refine hrefused _ _ ?_
    unfold openFailureStatus
    split_ifs <;> simp
  have hfd : 0 ≤ opened.value := not_lt.mp hopened
  rw [if_neg hopened]
  refine .bind getFileStatus_triple ?_
  rintro ⟨stat, characterDevice⟩ _ rfl
  refine .ite (fun _ => closing_triple (by simp) hclosed) fun _ => ?_
  refine .ite (fun _ => closing_triple (by simp) hclosed) fun _ => ?_
  refine .bind isatty_triple ?_
  rintro terminal _ rfl
  refine .ite (fun _ => closing_triple (by simp) hclosed) fun _ => ?_
  refine .bind ioctl_triple ?_
  rintro exclusive _ rfl
  refine .ite (fun _ => closing_triple (by simp) hclosed) fun _ => ?_
  refine .bind fcntl_triple ?_
  rintro file _ rfl
  refine .bind fcntl_triple ?_
  rintro descriptor _ rfl
  refine .ite (fun _ => releasing_triple (by simp) hfd hclosed) fun _ => ?_
  refine .ite (fun _ => releasing_triple (by simp) hfd hclosed) fun _ => ?_
  refine .bind configureSerialPort_triple ?_
  rintro failure _ rfl
  cases failure with
  | some configurationError => exact releasing_triple (by simp) hfd hclosed
  | none =>
    have hopenedPort := Opened.connected (p := p) hfd hgenerationLt
    have hnext : (p.connect opened.value).generation = p.generation + 1 :=
      connect_generation hgenerationLt
    rw [← hnext] at hopenedPort
    exact .pure ⟨hopenedPort, rfl⟩

def closed (p : SerialPort) : SerialPort := { p with fd := -1, connected := false }

theorem Sound.closed (h : p.Sound) : p.closed.Sound where
  connected_iff := by simp [SerialPort.closed]
  unheld _ := rfl
  generation := h.generation

/-- A port that is not connected is as closed as can be. -/
theorem Sound.eq_closed (h : p.Sound) (hclosed : p.connected = false) : p = p.closed := by
  rw [SerialPort.closed, ← h.unheld hclosed, ← hclosed]

theorem Sound.fd_nonneg (h : p.Sound) (hopen : p.connected = true) : 0 ≤ p.fd :=
  h.connected_iff.mp hopen

theorem Sound.closed_of_check (h : p.Sound) (hclosed : (!p.connected || p.fd < 0) = true) :
    p.connected = false := by
  by_contra hopen
  have hconnected : p.connected = true := Bool.not_eq_false _ ▸ hopen
  have hfd := h.fd_nonneg hconnected
  simp [hconnected, hfd.not_gt] at hclosed

theorem holding_of_check (hopen : ¬(!p.connected || p.fd < 0) = true) :
    p.holding = some p.fd := by
  simp only [Bool.or_eq_true, Bool.not_eq_true', not_or, Bool.not_eq_false] at hopen
  exact if_pos hopen.1

theorem close_triple (h : p.Sound) : Triple (guarded access reads) p.holding p.close
    fun p' held => p' = p.closed ∧ held = none := by
  cases hopen : p.connected with
  | true =>
    rw [close, if_pos (h.fd_nonneg hopen), holding, if_pos hopen]
    refine .bind (releaseExclusiveAndClose_triple (h.fd_nonneg hopen)) ?_
    rintro _ _ rfl
    exact .pure ⟨rfl, rfl⟩
  | false =>
    have hfd : ¬ p.fd ≥ 0 := by
      rw [h.unheld hopen]
      simp
    rw [close, if_neg hfd, holding_closed hopen]
    refine .pure ⟨?_, rfl⟩
    rw [SerialPort.closed, ← h.unheld hopen]

theorem open_triple (h : p.Sound) : Triple (guarded access reads) p.holding p.open
    fun outcome held => (p.Opened outcome.1 outcome.2 ∧ p.connected = false ∨
      outcome.1.status = .ok ∧ outcome.2 = p) ∧ held = outcome.2.holding := by
  refine .ite (fun _ => .pure ⟨.inr ⟨rfl, rfl⟩, rfl⟩) fun hopen => ?_
  have hclosed : p.connected = false := Bool.eq_false_iff.mpr hopen
  rw [holding_closed hclosed]
  refine (openNewGeneration_triple h.generation hclosed).weaken ?_
  rintro ⟨result, p'⟩ held ⟨hopened, hheld⟩
  exact ⟨.inl ⟨hopened, hclosed⟩, hheld⟩

theorem reopen_triple (h : p.Sound) : Triple (guarded access reads) p.holding p.reopen
    fun outcome held => outcome.1 = p.closed ∧ p.closed.Opens outcome.2 held := by
  refine .bind (close_triple h) ?_
  rintro _ _ ⟨rfl, rfl⟩
  refine .bind (openNewGeneration_triple h.closed.generation rfl) ?_
  rintro outcome held hopens
  exact .pure ⟨rfl, hopens⟩

/-- What a data call leaves of a port. -/
inductive Left (p : SerialPort) (result : IoResult) : SerialPort → Prop
  | kept : (result.status = .disconnected → p.connected = false) → Left p result p
  | lost : Left p result p.closed

theorem disconnectedNs_triple :
    Triple (guarded access reads) held p.disconnectedNs fun _ held' => held' = held :=
  .ite (fun _ => monotonicNow_triple) fun _ => .pure rfl

/-- A data call gives up its connection where its result says that it is lost. -/
theorem left_triple (h : p.Sound) {result : IoResult} {answer : SerialPort → α}
    {post : α → Option Int → Prop}
    (hpost : ∀ p', p.Left result p' → post (answer p') p'.holding) :
    Triple (guarded access reads) p.holding
      (if result.status = .disconnected then do return answer (← p.markDisconnected)
        else return answer p)
      post := by
  refine .ite (fun _ => ?_) fun hkept => .pure (hpost p (.kept fun hlost => absurd hlost hkept))
  refine .bind (close_triple h) ?_
  rintro _ _ ⟨rfl, rfl⟩
  exact .pure (hpost p.closed .lost)

theorem writeAll_triple {data : ByteSpan} {absoluteDeadlineNs : Int} (h : p.Sound) :
    Triple (guarded p.access reads) p.holding (p.writeAll data absoluteDeadlineNs)
      fun outcome held => p.Left outcome.1 outcome.2 ∧ held = outcome.2.holding := by
  refine .ite (fun _ => .pure ⟨.kept (by simp), rfl⟩) fun haccess => ?_
  have hwrite : p.access = .readWrite := not_not.mp haccess
  refine .ite (fun hclosed => ?_) fun hopen => ?_
  · refine .bind disconnectedNs_triple ?_
    rintro ns _ rfl
    exact .pure ⟨.kept fun _ => h.closed_of_check hclosed, rfl⟩
  · rw [holding_of_check hopen]
    refine .bind (.follow fun phase call reply hreply => ?_) ?_
    · refine guarded_answering hreply (fun _ => WriteRequest.descriptor_of_calling)
        (fun _ _ => SystemCall.io_of_toWrite) (fun _ => hwrite) fun hreads => ?_
      have hwritten := SystemCall.toWrite_of_reads hreads
      rw [SystemCall.answering, hwritten, ite_self] at hreply
      cases hreply
    · rintro phase _ rfl
      rw [← holding_of_check hopen]
      cases phase with
      | returned result => exact left_triple h fun _ hleft => ⟨hleft, rfl⟩
      | _ => exact .failure

theorem readSome_triple {dataNull : Bool} {capacity : Nat} {absoluteDeadlineNs : Int}
    (h : p.Sound) :
    Triple (guarded access true) p.holding (p.readSome dataNull capacity absoluteDeadlineNs)
      fun outcome held => p.Left outcome.1 outcome.2.2 ∧ held = outcome.2.2.holding := by
  refine .ite (fun hclosed => ?_) fun hopen => ?_
  · refine .bind disconnectedNs_triple ?_
    rintro ns _ rfl
    exact .pure ⟨.kept fun _ => h.closed_of_check hclosed, rfl⟩
  · rw [holding_of_check hopen]
    refine .bind (.follow fun phase call answer hanswer => ?_) ?_
    · refine guarded_answering hanswer (fun _ => ReadRequest.descriptor_of_calling)
        (fun _ _ => SystemCall.io_of_toRead) (fun hwrites => ?_) fun _ => rfl
      have hread := SystemCall.toRead_of_writes hwrites
      rw [SystemCall.answering, hread, ite_self] at hanswer
      cases hanswer
    · rintro phase _ rfl
      rw [← holding_of_check hopen]
      cases phase with
      | returned result data => exact left_triple h fun _ hleft => ⟨hleft, rfl⟩
      | _ => exact .failure

/-- From one state that a port shows to the next. -/
def Advances (p p' : SerialPort) : Prop :=
  p'.generation = p.generation + if p.connected = false ∧ p'.connected = true then 1 else 0

theorem advances_refl (p : SerialPort) : p.Advances p := by
  simp [Advances]

theorem advances_closed (p : SerialPort) : p.Advances p.closed := by
  simp [Advances, SerialPort.closed]

theorem Opened.sound {result : SerialOpenResult} (h : p.Opened result p') (hp : p.Sound) :
    p'.Sound := by
  cases h with
  | connected hfd hgeneration => exact .connect hgeneration hfd
  | refused _ => exact hp

theorem Opened.settings_eq {result : SerialOpenResult} (h : p.Opened result p') :
    p'.settings = p.settings := by
  cases h <;> rfl

theorem Opened.advances {result : SerialOpenResult} (h : p.Opened result p')
    (hclosed : p.connected = false) : p.Advances p' := by
  cases h with
  | connected hfd hgeneration =>
    rw [Advances, connect_generation hgeneration, if_pos ⟨hclosed, rfl⟩]
  | refused _ => exact p.advances_refl

theorem Opened.eq_of_failed {result : SerialOpenResult} (h : p.Opened result p')
    (hfailed : result.status ≠ .ok) : p' = p := by
  cases h with
  | connected _ _ => exact absurd rfl hfailed
  | refused _ => rfl

theorem Left.sound {result : IoResult} (h : p.Left result p') (hp : p.Sound) : p'.Sound := by
  cases h with
  | kept _ => exact hp
  | lost => exact hp.closed

theorem Left.settings_eq {result : IoResult} (h : p.Left result p') :
    p'.settings = p.settings := by
  cases h <;> rfl

theorem Left.advances {result : IoResult} (h : p.Left result p') : p.Advances p' := by
  cases h with
  | kept _ => exact p.advances_refl
  | lost => exact p.advances_closed

theorem Left.disconnected {result : IoResult} (h : p.Left result p')
    (hlost : result.status = .disconnected) : p'.connected = false := by
  cases h with
  | kept hkept => exact hkept hlost
  | lost => rfl

end SerialPort

/-! ### Histories -/

namespace PortRecord

/-- The states that a port shows during a call and after it. -/
def shown (record : PortRecord) : List SerialPort := record.between ++ [record.after]

/-- A call that keeps to what the port promises. -/
structure Proper (record : PortRecord) : Prop where
  sound : ∀ p ∈ record.shown, p.Sound
  advances : (record.before :: record.shown).IsChain SerialPort.Advances
  failed {opening : SerialOpenResult} : record.result = .opened opening → opening.status ≠ .ok →
    record.after.connected = false ∧ record.after.generation = record.before.generation
  wrote {outcome : IoResult} : record.result = .wrote outcome →
    outcome.status = .disconnected → record.after.connected = false
  read {outcome : IoResult} {data : List UInt8} : record.result = .read outcome data →
    outcome.status = .disconnected → record.after.connected = false

/-- A call that shows nothing of the port until it is over. -/
theorem Proper.of_step {record : PortRecord} (hbetween : record.between = [])
    (hsound : record.after.Sound) (hadvances : record.before.Advances record.after)
    (hfailed : ∀ {opening}, record.result = .opened opening → opening.status ≠ .ok →
      record.after.connected = false ∧ record.after.generation = record.before.generation)
    (hwrote : ∀ {outcome}, record.result = .wrote outcome → outcome.status = .disconnected →
      record.after.connected = false)
    (hread : ∀ {outcome data}, record.result = .read outcome data →
      outcome.status = .disconnected → record.after.connected = false) : record.Proper where
  sound := by
    rw [shown, hbetween]
    exact List.forall_mem_singleton.mpr hsound
  advances := by
    rw [shown, hbetween]
    exact List.isChain_pair.mpr hadvances
  failed := hfailed
  wrote := hwrote
  read := hread

end PortRecord

namespace SerialPort

variable {p p' : SerialPort}

theorem perform_triple (h : p.Sound) (call : PortCall) (hreads : call.reads = true → reads = true) :
    Triple (guarded p.access reads) p.holding (p.perform call) fun record held =>
      record.before = p ∧ record.Proper ∧ record.after.settings = p.settings ∧
        held = record.after.holding := by
  cases call with
  | «open» =>
    refine .bind (open_triple h) ?_
    rintro ⟨result, after⟩ _ ⟨⟨hopened, hclosed⟩ | ⟨hok, rfl⟩, rfl⟩
    · refine .pure ⟨rfl, .of_step rfl (hopened.sound h) (hopened.advances hclosed) ?_ nofun nofun,
        hopened.settings_eq, rfl⟩
      rintro _ ⟨⟩ hfailed
      obtain rfl := hopened.eq_of_failed hfailed
      exact ⟨hclosed, rfl⟩
    · refine .pure ⟨rfl, .of_step rfl h after.advances_refl ?_ nofun nofun, rfl, rfl⟩
      rintro _ ⟨⟩ hfailed
      exact absurd hok hfailed
  | reopen =>
    refine .bind (reopen_triple h) ?_
    rintro ⟨closed, result, after⟩ _ ⟨rfl, hopened, rfl⟩
    refine .pure ⟨rfl, ⟨?_, ?_, ?_, nofun, nofun⟩, hopened.settings_eq, rfl⟩
    · simpa [PortRecord.shown] using ⟨h.closed, hopened.sound h.closed⟩
    · simpa [PortRecord.shown] using ⟨p.advances_closed, hopened.advances rfl⟩
    · rintro _ ⟨⟩ hfailed
      obtain rfl := hopened.eq_of_failed hfailed
      exact ⟨rfl, rfl⟩
  | close =>
    refine .bind (close_triple h) ?_
    rintro _ _ ⟨rfl, rfl⟩
    exact .pure ⟨rfl, .of_step rfl h.closed p.advances_closed nofun nofun nofun, rfl, rfl⟩
  | writeAll data absoluteDeadlineNs =>
    refine .bind (writeAll_triple h) ?_
    rintro ⟨result, after⟩ _ ⟨hleft, rfl⟩
    refine .pure ⟨rfl, .of_step rfl (hleft.sound h) hleft.advances nofun ?_ nofun,
      hleft.settings_eq, rfl⟩
    rintro _ ⟨⟩ hlost
    exact hleft.disconnected hlost
  | readSome dataNull capacity absoluteDeadlineNs =>
    obtain rfl := hreads rfl
    refine .bind (readSome_triple h) ?_
    rintro ⟨result, data, after⟩ _ ⟨hleft, rfl⟩
    refine .pure ⟨rfl, .of_step rfl (hleft.sound h) hleft.advances nofun nofun ?_,
      hleft.settings_eq, rfl⟩
    rintro _ _ ⟨⟩ hlost
    exact hleft.disconnected hlost

/-- Where a history leaves a port. -/
def final (p : SerialPort) : List PortRecord → SerialPort
  | [] => p
  | record :: records => record.after.final records

theorem performAll_triple {calls : List PortCall} (h : p.Sound) :
    Triple (guarded p.access true) p.holding (p.performAll calls) fun records held =>
      (∀ record ∈ records, record.Proper) ∧
        (p :: records.flatMap PortRecord.shown).IsChain Advances ∧
          held = (p.final records).holding := by
  induction calls generalizing p with
  | nil => exact .pure ⟨by simp, by simp, rfl⟩
  | cons call calls ih =>
    refine .bind (perform_triple h call fun _ => rfl) ?_
    rintro record _ ⟨rfl, hproper, hsettings, rfl⟩
    have haccess : record.after.access = record.before.access := congrArg (·.2.1) hsettings
    have hafter : record.after.Sound := hproper.sound _ (by simp [PortRecord.shown])
    have hrest := ih hafter
    rw [haccess] at hrest
    refine .bind hrest ?_
    rintro records _ ⟨hrecords, hchain, rfl⟩
    refine .pure ⟨List.forall_mem_cons.mpr ⟨hproper, hrecords⟩, ?_, rfl⟩
    have hjoin : (record.before :: record.between ++
        record.after :: records.flatMap PortRecord.shown).IsChain Advances :=
      List.isChain_split.mpr ⟨hproper.advances, hchain⟩
    simpa [PortRecord.shown] using hjoin

end SerialPort

/-- A history that keeps to what the port promises. -/
structure Lifecycle (p : SerialPort) (trace : List SystemCall) (records : List PortRecord) :
    Prop where
  proper : ∀ record ∈ records, record.Proper
  advances : (p :: records.flatMap PortRecord.shown).IsChain SerialPort.Advances
  descriptors : trace.foldlM ledger none = some (p.final records).holding
  balanced (fd : Int) : trace.countP (SystemCall.opens fd) =
    trace.countP (SystemCall.closes fd) + if (p.final records).holding = some fd then 1 else 0
  receiveOnly : p.access ≠ .readWrite → ∀ call ∈ trace, call.writes = false

namespace SerialPort

/-- What opening leaves is what the reads of a transport find after it. -/
theorem Opened.reopened {p p' : SerialPort} {result : SerialOpenResult} (h : p.Opened result p')
    (hp : p.Sound) (hclosed : p.connected = false) :
    ∃ fd, p'.toPosixSerialTransport = p.toPosixSerialTransport.reopened fd := by
  cases h with
  | @connected fd hfd hgeneration =>
    refine ⟨some fd.toNat, ?_⟩
    have hnext : (p.connect fd).generation = p.generation + 1 := connect_generation hgeneration
    rw [PosixSerialTransport.reopened, Int.toNat_of_nonneg hfd, ← hnext]
    rfl
  | refused _ => exact ⟨none, congrArg toPosixSerialTransport (hp.eq_closed hclosed)⟩

/-- A port as it is constructed. -/
def construct (devicePath : List Char) (access : SerialAccess) (operations : IoOperations) :
    SerialPort :=
  { devicePath := devicePath, access := access, operations := operations }

theorem lifecycle {devicePath : List Char} {access : SerialAccess} {operations : IoOperations}
    {calls : List PortCall} {trace : List SystemCall} {records : List PortRecord}
    (h : (construct devicePath access operations).performAll calls trace = some (records, [])) :
    Lifecycle (construct devicePath access operations) trace records := by
  have hsound : (construct devicePath access operations).Sound :=
    ⟨by simp [construct], fun _ => rfl, Nat.zero_le _⟩
  obtain ⟨made, held, hmade, hguarded, hproper, hadvances, rfl⟩ :=
    performAll_triple hsound trace records [] h
  rw [List.append_nil] at hmade
  subst hmade
  obtain ⟨hledger, hwrites, -⟩ := SystemCall.ledger_of_guarded hguarded
  exact ⟨hproper, hadvances, hledger, SystemCall.ledger_count hledger, hwrites⟩

end SerialPort

/-! The port disappears while a frame is written, comes back once, and is closed. -/

def samplePort : SerialPort := .construct ['/', 'x'] .readWrite {}

def sampleSettings : Termios := ⟨0, 0, 0, 0, 0, 0, 0, 0⟩

def sampleOpening (fd : Int) : List SystemCall :=
  [.open ['/', 'x'] (SerialPort.openFlags .readWrite) ⟨fd, 0⟩, .fstat fd ⟨0, 0⟩ true,
    .isatty fd ⟨1, 0⟩, .ioctl fd .tiocexcl ⟨-1, Errno.eintr⟩, .ioctl fd .tiocexcl ⟨0, 0⟩,
    .fcntl fd .getFl ⟨0x800, 0⟩, .fcntl fd .getFd ⟨1, 0⟩, .tcgetattr fd ⟨0, 0⟩ sampleSettings,
    .cfsetspeed .input ⟨0, 0⟩, .cfsetspeed .output ⟨0, 0⟩,
    .tcsetattr fd sampleSettings.cfmakeraw.configured ⟨0, 0⟩,
    .tcgetattr fd ⟨0, 0⟩ sampleSettings.cfmakeraw.configured]

def sampleClosing (fd : Int) : List SystemCall :=
  [.ioctl fd .tiocnxcl ⟨-1, errorIo⟩, .close fd ⟨0, 0⟩]

def sampleTrace : List SystemCall :=
  sampleOpening 3 ++
    [.monotonicNow 10, .writeBytes 3 [1] (.failed Errno.epipe), .monotonicNow 11] ++
    sampleClosing 3 ++ sampleOpening 3 ++ sampleClosing 3

def sampleCalls : List PortCall := [.open, .writeAll (.bytes [1]) 100, .reopen, .close]

def sampleRecords : List PortRecord :=
  let p := samplePort
  let q := p.connect 3
  let q' := q.closed.connect 3
  [⟨p, .open, .opened ⟨.ok, 0, 1⟩, [], q⟩,
    ⟨q, .writeAll (.bytes [1]) 100, .wrote ⟨.disconnected, 0, Errno.epipe, false, true, 11⟩, [],
      q.closed⟩,
    ⟨q.closed, .reopen, .opened ⟨.ok, 0, 2⟩, [q.closed], q'⟩,
    ⟨q', .close, .closed, [], q'.closed⟩]

theorem sample_lifecycle : Lifecycle samplePort sampleTrace sampleRecords :=
  SerialPort.lifecycle
    (show samplePort.performAll sampleCalls sampleTrace = some (sampleRecords, []) by decide)

end WheeltecVcuSerial
