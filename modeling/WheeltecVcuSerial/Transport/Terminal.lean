import WheeltecVcuSerial.Transport.Lifecycle

namespace WheeltecVcuSerial

open Trace Program

/-- What the system has said of the terminal behind a descriptor since it was opened. -/
structure Terminal where
  fd : Int
  characterDevice : Bool := false
  tty : Bool := false
  exclusive : Bool := false
  nonblocking : Bool := false
  closedOnExec : Bool := false
  /-- The settings of the last `tcsetattr` are those of the protocol. -/
  asked : Bool := false
  /-- So are those that a `tcgetattr` has seen after it. -/
  observed : Bool := false
  deriving DecidableEq

namespace Terminal

def ready (t : Terminal) : Bool :=
  t.characterDevice && t.tty && t.exclusive && t.nonblocking && t.closedOnExec && t.asked &&
    t.observed

/-- A terminal that nothing is left to be checked of. -/
def verified (fd : Int) : Terminal := ⟨fd, true, true, true, true, true, true, true⟩

/-- What a reply adds; an interrupted call has done nothing. -/
def observe (t : Terminal) : SystemCall → Terminal
  | .fstat _ reply characterDevice =>
    if reply.value = 0 then { t with characterDevice := characterDevice } else t
  | .isatty _ reply => { t with tty := reply.value = 1 }
  | .ioctl _ request reply =>
    if reply.value = 0 then { t with exclusive := request = .tiocexcl } else t
  | .fcntl _ .getFl reply =>
    if reply.value < 0 then t
    else { t with nonblocking := reply.value.toNat &&& SerialPort.oNonblock ≠ 0 }
  | .fcntl _ .getFd reply =>
    if reply.value < 0 then t
    else { t with closedOnExec := reply.value.toNat &&& SerialPort.fdCloexec ≠ 0 }
  | .tcgetattr _ reply settings =>
    if reply.interrupted then t
    else { t with observed := reply.value = 0 && settings.serialSettingsMatch }
  | .tcsetattr _ settings reply =>
    if reply.interrupted then t
    else { t with asked := reply.value = 0 && settings.serialSettingsMatch, observed := false }
  | _ => t

end Terminal

/-- Only the device at `path` is opened, and only over a terminal that is ready do bytes go or
come. -/
def terminal (path : List Char) (access : SerialAccess) (held : Option Terminal) :
    SystemCall → Option (Option Terminal)
  | .open path' flags reply =>
    if held = none ∧ path' = path ∧ flags = SerialPort.openFlags access then
      some (if reply.value < 0 then none else some { fd := reply.value })
    else none
  | .close fd _ => if held.map Terminal.fd = some fd then some none else none
  | .cfsetspeed _ _ | .monotonicNow _ => some held
  | .writeBytes fd _ _ | .readBytes fd _ _ | .pollOne fd _ _ _ =>
    if held.any fun t => t.fd = fd && t.ready then some held else none
  | call =>
    held.bind fun t => if call.descriptor = some t.fd then some (some (t.observe call)) else none

namespace Syscalls

variable {path : List Char} {access : SerialAccess} {t : Terminal} {held : Option Terminal}

theorem openPath_terminal :
    Triple (terminal path access) none (openPath path (SerialPort.openFlags access))
      fun reply held => held = if reply.value < 0 then none else some { fd := reply.value } := by
  have hopen (path' flags reply) (h : path' = path ∧ flags = SerialPort.openFlags access) :
      terminal path access none (.open path' flags reply) =
        some (if reply.value < 0 then none else some { fd := reply.value }) := if_pos ⟨rfl, h⟩
  refine .retry (fun call reply h hagain => ?_) (fun call reply h _ => ?_)
  · cases call with
    | «open» path' flags reply' =>
      obtain ⟨hasked, ⟨⟩⟩ := Option.ite_none_right_eq_some.mp h
      rw [hopen _ _ _ hasked, if_pos]
      simpa [SystemReply.interrupted] using (Bool.and_eq_true_iff.mp hagain).1
    | _ => cases h
  · cases call with
    | «open» path' flags reply' =>
      obtain ⟨hasked, ⟨⟩⟩ := Option.ite_none_right_eq_some.mp h
      exact ⟨_, hopen _ _ _ hasked, rfl⟩
    | _ => cases h

theorem terminal_using {call : SystemCall} (hfd : call.descriptor = some t.fd)
    (hclose : ∀ reply, call ≠ .close t.fd reply) (hio : call.io = none) :
    terminal path access (some t) call = some (some (t.observe call)) := by
  cases call with
  | «open» _ _ _ | cfsetspeed _ _ => cases hfd
  | monotonicNow _ | writeBytes _ _ _ | readBytes _ _ _ | pollOne _ _ _ _ => cases hio
  | close fd' reply =>
    obtain rfl := Option.some.inj hfd
    exact absurd rfl (hclose reply)
  | fstat _ _ _ | isatty _ _ | ioctl _ _ _ | fcntl _ _ _ | tcgetattr _ _ _ | tcsetattr _ _ _ =>
    exact if_pos hfd

/-- What an answer function asks of the terminal that is held, and what is known after it. -/
def Observes (t : Terminal) (answer : SystemCall → Option α) (next : α → Terminal) : Prop :=
  ∀ call a, answer call = some a → call.descriptor = some t.fd ∧
    (∀ reply, call ≠ .close t.fd reply) ∧ call.io = none ∧ t.observe call = next a

variable {answer : SystemCall → Option α} {next : α → Terminal}

theorem Observes.step (h : Observes t answer next) {call : SystemCall} {a : α}
    (ha : answer call = some a) : terminal path access (some t) call = some (some (next a)) := by
  obtain ⟨hfd, hclose, hio, hnext⟩ := h call a ha
  rw [terminal_using hfd hclose hio, hnext]

theorem Observes.call (h : Observes t answer next) :
    Triple (terminal path access) (some t) (.call answer) fun a held => held = some (next a) :=
  .call fun _ _ ha => ⟨_, h.step ha, rfl⟩

/-- Nothing is learned from a call that is made again. -/
theorem Observes.retry {interrupted : α → Bool} (h : Observes t answer next)
    (hagain : ∀ a, interrupted a = true → next a = t) :
    Triple (terminal path access) (some t) (.retry answer interrupted)
      fun a held => held = some (next a) := by
  refine .retry (fun call a ha hinterrupted => ?_) fun _ _ ha _ => ⟨_, h.step ha, rfl⟩
  rw [h.step ha, hagain a hinterrupted]

theorem interrupted_value {reply : SystemReply} (h : reply.interrupted = true) :
    reply.value < 0 := by
  simpa using (Bool.and_eq_true_iff.mp h).1

theorem getFileStatus_terminal :
    Triple (terminal path access) (some t) (getFileStatusWithoutInterruption t.fd)
      fun r held => held =
        some (if r.1.value = 0 then { t with characterDevice := r.2 } else t) := by
  refine Observes.retry (fun call r h => ?_) fun r hagain => ?_
  · cases call <;> simp_all [SystemCall.descriptor, SystemCall.io]
    obtain ⟨rfl, rfl⟩ := h
    simp [Terminal.observe]
  · exact if_neg (interrupted_value hagain).ne

theorem isatty_terminal :
    Triple (terminal path access) (some t) (isatty t.fd)
      fun reply held => held = some { t with tty := reply.value = 1 } := by
  refine Observes.call fun call r h => ?_
  cases call <;> simp_all [SystemCall.descriptor, SystemCall.io, Terminal.observe]

theorem ioctl_terminal {request : ExclusiveRequest} :
    Triple (terminal path access) (some t) (ioctl t.fd request) fun reply held =>
      held = some (if reply.value = 0 then { t with exclusive := request = .tiocexcl } else t) := by
  refine Observes.retry (fun call r h => ?_) fun r hagain => if_neg (interrupted_value hagain).ne
  cases call <;> simp_all [SystemCall.descriptor, SystemCall.io, Terminal.observe]

theorem getFl_terminal :
    Triple (terminal path access) (some t) (fcntl t.fd .getFl) fun reply held =>
      held = some (if reply.value < 0 then t
        else { t with nonblocking := reply.value.toNat &&& SerialPort.oNonblock ≠ 0 }) := by
  refine Observes.retry (fun call r h => ?_) fun r hagain => if_pos (interrupted_value hagain)
  cases call <;> simp_all [SystemCall.descriptor, SystemCall.io, Terminal.observe]

theorem getFd_terminal {fd : Int} (hfd : t.fd = fd) :
    Triple (terminal path access) (some t) (fcntl fd .getFd) fun reply held =>
      held = some (if reply.value < 0 then t
        else { t with closedOnExec := reply.value.toNat &&& SerialPort.fdCloexec ≠ 0 }) := by
  subst hfd
  refine Observes.retry (fun call r h => ?_) fun r hagain => if_pos (interrupted_value hagain)
  cases call <;> simp_all [SystemCall.descriptor, SystemCall.io, Terminal.observe]

theorem getTermios_terminal :
    Triple (terminal path access) (some t) (getTermiosWithoutInterruption t.fd) fun r held =>
      held = some (if r.1.interrupted then t
        else { t with observed := r.1.value = 0 && r.2.serialSettingsMatch }) := by
  refine Observes.retry (fun call r h => ?_) fun r hagain => if_pos hagain
  cases call <;> simp_all [SystemCall.descriptor, SystemCall.io]
  obtain ⟨rfl, rfl⟩ := h
  rfl

theorem setTermios_terminal {settings : Termios} (hmatch : settings.serialSettingsMatch = true) :
    Triple (terminal path access) (some t) (setTermiosWithoutInterruption t.fd settings)
      fun reply held => held = some (if reply.interrupted then t
        else { t with asked := reply.value = 0, observed := false }) := by
  refine Observes.retry (fun call r h => ?_) fun r hagain => if_pos hagain
  cases call <;> simp_all [SystemCall.descriptor, SystemCall.io, Terminal.observe]

theorem cfsetspeed_terminal {line : LineSpeed} :
    Triple (terminal path access) held (cfsetspeed line) fun _ held' => held' = held := by
  refine .call fun call reply h => ⟨held, ?_, rfl⟩
  cases call with
  | cfsetspeed line' reply' => rfl
  | _ => cases h

theorem close_terminal {fd : Int} (hfd : t.fd = fd) :
    Triple (terminal path access) (some t) (Syscalls.close fd) fun _ held => held = none := by
  subst hfd
  refine .call fun call reply h => ⟨none, ?_, rfl⟩
  cases call with
  | close fd reply' =>
    obtain ⟨rfl, -⟩ := Option.ite_none_right_eq_some.mp h
    exact if_pos rfl
  | _ => cases h

theorem monotonicNow_terminal :
    Triple (terminal path access) held monotonicNow fun _ held' => held' = held := by
  refine .call fun call ns h => ⟨held, ?_, rfl⟩
  cases call with
  | monotonicNow ns' => rfl
  | _ => cases h

end Syscalls

open Syscalls

variable {path : List Char} {access : SerialAccess} {t : Terminal} {held : Option Terminal}

theorem not_interrupted {reply : SystemReply} (h : ¬reply.value ≠ 0) :
    reply.interrupted = false := by
  simp [SystemReply.interrupted, not_not.mp h]

/-- Without a failure the settings have been asked for and seen. -/
theorem configureSerialPort_terminal :
    Triple (terminal path access) (some t) (configureSerialPort t.fd) fun failure held =>
      ∃ t', held = some t' ∧ t'.fd = t.fd ∧
        (failure = none → t' = { t with asked := true, observed := true }) := by
  refine .bind getTermios_terminal ?_
  rintro ⟨got, settings⟩ _ rfl
  refine .ite (fun _ => .pure ⟨_, rfl, by split <;> rfl, nofun⟩) fun hgot => ?_
  rw [not_interrupted hgot]
  refine .bind cfsetspeed_terminal ?_
  rintro inputSet _ rfl
  refine .ite (fun _ => .pure ⟨_, rfl, rfl, nofun⟩) fun _ => ?_
  refine .bind cfsetspeed_terminal ?_
  rintro outputSet _ rfl
  refine .ite (fun _ => .pure ⟨_, rfl, rfl, nofun⟩) fun _ => ?_
  refine .bind (setTermios_terminal (Termios.configured_matches _)) ?_
  rintro set _ rfl
  refine .ite (fun _ => .pure ⟨_, rfl, by split <;> rfl, nofun⟩) fun hset => ?_
  rw [not_interrupted hset]
  refine .bind getTermios_terminal ?_
  rintro ⟨seen, observed⟩ _ rfl
  refine .ite (fun _ => .pure ⟨_, rfl, by split <;> rfl, nofun⟩) fun hseen => ?_
  rw [not_interrupted hseen]
  refine .ite (fun _ => .pure ⟨_, rfl, rfl, nofun⟩) fun hmatch => .pure ⟨_, rfl, rfl, fun _ => ?_⟩
  simp_all

theorem releaseExclusiveAndClose_terminal {fd : Int} (h : t.fd = fd) (hfd : 0 ≤ fd) :
    Triple (terminal path access) (some t) (releaseExclusiveAndClose fd)
      fun _ held => held = none := by
  subst h
  rw [releaseExclusiveAndClose, if_neg hfd.not_gt]
  refine .bind ioctl_terminal ?_
  rintro reply _ rfl
  refine .bind (close_terminal (by split <;> rfl)) ?_
  rintro _ _ rfl
  exact .pure rfl

namespace SerialPort

variable {p : SerialPort}

/-- The terminal of a port: one that nothing is left to be checked of. -/
def terminal (p : SerialPort) : Option Terminal := p.holding.map .verified

theorem terminal_closed (h : p.connected = false) : p.terminal = none := by
  rw [terminal, holding_closed h]
  rfl

/-- What a call leaves: the terminal of the port, which is still one for the same device. -/
def Stays (p p' : SerialPort) (held : Option Terminal) : Prop :=
  held = p'.terminal ∧ p'.devicePath = p.devicePath

theorem stays (p : SerialPort) : p.Stays p p.terminal := ⟨rfl, rfl⟩

theorem stays_closed (h : p.connected = false) : p.Stays p none := ⟨(terminal_closed h).symm, rfl⟩

/-- The exits that close the descriptor again. -/
theorem closing_terminal {status : TransportStatus} {osError fd : Int} (h : t.fd = fd)
    (hclosed : p.connected = false) :
    Triple (WheeltecVcuSerial.terminal path access) (some t)
      (do let _ ← Syscalls.close fd; return p.refused status osError)
      fun outcome held => p.Stays outcome.2 held := by
  refine .bind (close_terminal h) ?_
  rintro _ _ rfl
  exact .pure (stays_closed hclosed)

/-- The exits that release the terminal before they close the descriptor again. -/
theorem releasing_terminal {status : TransportStatus} {osError fd : Int} (h : t.fd = fd)
    (hfd : 0 ≤ fd) (hclosed : p.connected = false) :
    Triple (WheeltecVcuSerial.terminal path access) (some t)
      (do releaseExclusiveAndClose fd; return p.refused status osError)
      fun outcome held => p.Stays outcome.2 held := by
  refine .bind (releaseExclusiveAndClose_terminal h hfd) ?_
  rintro _ _ rfl
  exact .pure (stays_closed hclosed)

theorem openNewGeneration_terminal (hclosed : p.connected = false) :
    Triple (WheeltecVcuSerial.terminal p.devicePath p.access) none p.openNewGeneration
      fun outcome held => p.Stays outcome.2 held := by
  have hrefused (status : TransportStatus) (osError : Int) :
      Triple (WheeltecVcuSerial.terminal p.devicePath p.access) none
        (pure (p.refused status osError)) fun outcome held => p.Stays outcome.2 held :=
    .pure (stays_closed hclosed)
  rw [openNewGeneration]
  refine .ite (fun _ => hrefused _ _) fun _ => ?_
  refine .ite (fun _ => hrefused _ _) fun _ => ?_
  refine .ite (fun _ => hrefused _ _) fun _ => ?_
  refine .bind openPath_terminal ?_
  rintro opened _ rfl
  refine .ite (fun hfailed => ?_) fun hopened => ?_
  · rw [if_pos hfailed]
    exact hrefused _ _
  have hfd : 0 ≤ opened.value := not_lt.mp hopened
  rw [if_neg hopened]
  refine .bind getFileStatus_terminal ?_
  rintro ⟨stat, characterDevice⟩ _ rfl
  refine .ite (fun _ => closing_terminal (by split <;> rfl) hclosed) fun hstat => ?_
  rw [if_pos (not_not.mp hstat)]
  refine .ite (fun _ => closing_terminal rfl hclosed) fun hcharacter => ?_
  refine .bind isatty_terminal ?_
  rintro tty _ rfl
  refine .ite (fun _ => closing_terminal rfl hclosed) fun htty => ?_
  refine .bind ioctl_terminal ?_
  rintro exclusive _ rfl
  refine .ite (fun _ => closing_terminal (by split <;> rfl) hclosed) fun hexclusive => ?_
  rw [if_pos (not_not.mp hexclusive)]
  refine .bind getFl_terminal ?_
  rintro file _ rfl
  refine .bind (getFd_terminal (by split <;> rfl)) ?_
  rintro descriptor _ rfl
  refine .ite (fun _ => releasing_terminal (by split <;> split <;> rfl) hfd hclosed) fun hread => ?_
  simp only [Bool.or_eq_true, decide_eq_true_eq, not_or] at hread
  rw [if_neg hread.1, if_neg hread.2]
  refine .ite (fun _ => releasing_terminal rfl hfd hclosed) fun hflags => ?_
  refine .bind configureSerialPort_terminal ?_
  rintro failure _ ⟨t, rfl, ht, hconfigured⟩
  cases failure with
  | some configurationError => exact releasing_terminal ht hfd hclosed
  | none =>
    refine .pure ⟨?_, rfl⟩
    rw [hconfigured rfl]
    simp_all [terminal, holding, SerialPort.connect, Terminal.verified]

theorem close_terminal (h : p.Sound) :
    Triple (WheeltecVcuSerial.terminal path access) p.terminal p.close
      fun p' held => p' = p.closed ∧ held = none := by
  cases hopen : p.connected with
  | true =>
    rw [close, if_pos (h.fd_nonneg hopen), terminal, holding, if_pos hopen]
    refine .bind (releaseExclusiveAndClose_terminal rfl (h.fd_nonneg hopen)) ?_
    rintro _ _ rfl
    exact .pure ⟨rfl, rfl⟩
  | false =>
    have hfd : ¬p.fd ≥ 0 := by
      rw [h.unheld hopen]
      simp
    rw [close, if_neg hfd, terminal_closed hopen]
    refine .pure ⟨?_, rfl⟩
    rw [closed, ← h.unheld hopen]

theorem open_terminal :
    Triple (WheeltecVcuSerial.terminal p.devicePath p.access) p.terminal p.open
      fun outcome held => p.Stays outcome.2 held := by
  refine .ite (fun _ => .pure p.stays) fun hopen => ?_
  have hclosed : p.connected = false := Bool.eq_false_iff.mpr hopen
  rw [terminal_closed hclosed]
  exact openNewGeneration_terminal hclosed

theorem reopen_terminal (h : p.Sound) :
    Triple (WheeltecVcuSerial.terminal p.devicePath p.access) p.terminal p.reopen
      fun outcome held => p.Stays outcome.2.2 held := by
  refine .bind (close_terminal h) ?_
  rintro _ _ ⟨rfl, rfl⟩
  have hopened : Triple (WheeltecVcuSerial.terminal p.devicePath p.access) none
      p.closed.openNewGeneration fun outcome held => p.closed.Stays outcome.2 held :=
    openNewGeneration_terminal rfl
  refine .bind hopened ?_
  rintro outcome _ hstays
  exact .pure hstays

theorem disconnectedNs_terminal :
    Triple (WheeltecVcuSerial.terminal path access) held p.disconnectedNs
      fun _ held' => held' = held :=
  .ite (fun _ => monotonicNow_terminal) fun _ => .pure rfl

/-- Bytes go and come over a terminal that is ready. -/
theorem answering_terminal {asked : Option IoCall} {reply : SystemCall → Option α}
    {call : SystemCall} {a : α} (hopen : p.holding = some p.fd)
    (h : call.answering asked reply = some a)
    (hfd : ∀ c, asked = some c → c.descriptor = none ∨ c.descriptor = some p.fd)
    (hreply : ∀ call a, reply call = some a → call.io.isSome = true) :
    WheeltecVcuSerial.terminal path access p.terminal call = some p.terminal := by
  have hready : p.terminal = some (.verified p.fd) := by
    rw [terminal, hopen]
    rfl
  obtain ⟨rfl, hcall⟩ := Option.ite_none_right_eq_some.mp h
  obtain ⟨c, hc⟩ := Option.isSome_iff_exists.mp (hreply call a hcall)
  have hdescriptor := hfd c hc
  rw [hready]
  cases call with
  | monotonicNow _ => rfl
  | writeBytes fd _ _ | readBytes fd _ _ | pollOne fd _ _ _ =>
    cases hc
    rw [IoCall.descriptor, or_iff_right (Option.some_ne_none fd), Option.some.injEq] at hdescriptor
    subst hdescriptor
    exact if_pos (by simp [Terminal.verified, Terminal.ready])
  | _ => cases hc

/-- A data call leaves its terminal as it was, or none where its connection is lost. -/
theorem left_terminal (h : p.Sound) {result : IoResult} {answer : SerialPort → α}
    {left : α → SerialPort} (hleft : ∀ q, left (answer q) = q) :
    Triple (WheeltecVcuSerial.terminal path access) p.terminal
      (if result.status = .disconnected then do return answer (← p.markDisconnected)
        else return answer p)
      fun outcome held => p.Stays (left outcome) held := by
  refine .ite (fun _ => ?_) fun _ => .pure (by rw [hleft]; exact p.stays)
  refine .bind (close_terminal h) ?_
  rintro _ _ ⟨rfl, rfl⟩
  exact .pure (by rw [hleft]; exact ⟨rfl, rfl⟩)

theorem writeAll_terminal {data : ByteSpan} {absoluteDeadlineNs : Int} (h : p.Sound) :
    Triple (WheeltecVcuSerial.terminal path access) p.terminal (p.writeAll data absoluteDeadlineNs)
      fun outcome held => p.Stays outcome.2 held := by
  refine .ite (fun _ => .pure p.stays) fun _ => .ite (fun hclosed => ?_) fun hopen => ?_
  · refine .bind disconnectedNs_terminal ?_
    rintro ns _ rfl
    exact .pure p.stays
  · refine .bind (.follow fun phase call reply hreply => ?_) ?_
    · exact answering_terminal (holding_of_check hopen) hreply
        (fun _ => WriteRequest.descriptor_of_calling) fun _ _ => SystemCall.io_of_toWrite
    · rintro phase _ rfl
      cases phase with
      | returned result => exact left_terminal h fun _ => rfl
      | _ => exact .failure

theorem readSome_terminal {dataNull : Bool} {capacity : Nat} {absoluteDeadlineNs : Int}
    (h : p.Sound) :
    Triple (WheeltecVcuSerial.terminal path access) p.terminal
      (p.readSome dataNull capacity absoluteDeadlineNs)
      fun outcome held => p.Stays outcome.2.2 held := by
  refine .ite (fun hclosed => ?_) fun hopen => ?_
  · refine .bind disconnectedNs_terminal ?_
    rintro ns _ rfl
    exact .pure p.stays
  · refine .bind (.follow fun phase call answer hanswer => ?_) ?_
    · exact answering_terminal (holding_of_check hopen) hanswer
        (fun _ => ReadRequest.descriptor_of_calling) fun _ _ => SystemCall.io_of_toRead
    · rintro phase _ rfl
      cases phase with
      | returned result data => exact left_terminal h fun _ => rfl
      | _ => exact .failure

theorem perform_terminal (h : p.Sound) (call : PortCall) :
    Triple (WheeltecVcuSerial.terminal p.devicePath p.access) p.terminal (p.perform call)
      fun record held => p.Stays record.after held := by
  cases call with
  | «open» => exact .bind open_terminal fun _ _ hstays => .pure hstays
  | reopen => exact .bind (reopen_terminal h) fun _ _ hstays => .pure hstays
  | close =>
    refine .bind (close_terminal h) ?_
    rintro _ _ ⟨rfl, rfl⟩
    exact .pure ⟨rfl, rfl⟩
  | writeAll data absoluteDeadlineNs =>
    exact .bind (writeAll_terminal h) fun _ _ hstays => .pure hstays
  | readSome dataNull capacity absoluteDeadlineNs =>
    exact .bind (readSome_terminal h) fun _ _ hstays => .pure hstays

end SerialPort

/-! ### What goes over the terminal -/

def SystemCall.moves : SystemCall → Bool
  | .writeBytes _ _ _ | .readBytes _ _ _ | .pollOne _ _ _ _ => true
  | _ => false

end WheeltecVcuSerial
