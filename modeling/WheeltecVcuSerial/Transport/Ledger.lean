import WheeltecVcuSerial.Transport.SerialPort

namespace WheeltecVcuSerial

open Trace Program

/-- The descriptor that a call works on. -/
def SystemCall.descriptor : SystemCall → Option Int
  | .open _ _ _ | .cfsetspeed _ _ | .monotonicNow _ => none
  | .fstat fd _ _ | .isatty fd _ | .ioctl fd _ _ | .fcntl fd _ _ | .tcgetattr fd _ _ => some fd
  | .tcsetattr fd _ _ | .close fd _ | .writeBytes fd _ _ | .readBytes fd _ _ => some fd
  | .pollOne fd _ _ _ => some fd

/-- The descriptor that is held after a call.  None is opened while one is held, and none is used or
closed but the one that is held. -/
def ledger (held : Option Int) : SystemCall → Option (Option Int)
  | .open _ _ reply =>
    if reply.value < 0 then some held else if held = none then some (some reply.value) else none
  | .close fd _ => if held = some fd then some none else none
  | call => if call.descriptor = none ∨ call.descriptor = held then some held else none

def SystemCall.writes : SystemCall → Bool
  | .writeBytes _ _ _ => true
  | _ => false

theorem SystemCall.toRead_of_writes {call : SystemCall} (h : call.writes = true) :
    call.toRead = none := by
  cases call <;> first | rfl | cases h

def SystemCall.reads : SystemCall → Bool
  | .readBytes _ _ _ => true
  | _ => false

theorem SystemCall.toWrite_of_reads {call : SystemCall} (h : call.reads = true) :
    call.toWrite = none := by
  cases call <;> first | rfl | cases h

/-- The ledger, for calls that write only over an access that is for that, and read only where they
may. -/
def guarded (access : SerialAccess) (reads : Bool) (held : Option Int) (call : SystemCall) :
    Option (Option Int) :=
  if call.writes && access ≠ .readWrite || call.reads && !reads then none else ledger held call

variable {access : SerialAccess} {reads : Bool} {fd : Int} {held : Option Int}

theorem guarded_eq {call : SystemCall} (hwrites : call.writes = true → access = .readWrite)
    (hreads : call.reads = true → reads = true) :
    guarded access reads held call = ledger held call :=
  if_neg (by simpa using ⟨hwrites, hreads⟩)

theorem ledger_io {call : SystemCall} {c : IoCall} (h : call.io = some c) :
    ledger held call = if c.descriptor = none ∨ c.descriptor = held then some held else none := by
  cases call <;> cases h <;> rfl

/-- A call that works on the descriptor that is held, but for closing it and for writing. -/
theorem guarded_using {call : SystemCall} (hfd : call.descriptor = some fd)
    (hclose : ∀ reply, call ≠ .close fd reply) (hwrites : call.writes = false)
    (hreads : call.reads = false) :
    guarded access reads (some fd) call = some (some fd) := by
  rw [guarded_eq (by simp [hwrites]) (by simp [hreads])]
  cases call with
  | «open» _ _ _ | cfsetspeed _ _ | monotonicNow _ => cases hfd
  | close fd' reply =>
    obtain rfl := Option.some.inj hfd
    exact absurd rfl (hclose reply)
  | _ => exact if_pos (Or.inr hfd)

/-- A call with the arguments of a data call on the descriptor that is held. -/
theorem guarded_answering {asked : Option IoCall} {reply : SystemCall → Option α}
    {call : SystemCall} {a : α} (h : call.answering asked reply = some a)
    (hfd : ∀ c, asked = some c → c.descriptor = none ∨ c.descriptor = some fd)
    (hreply : ∀ call a, reply call = some a → call.io.isSome = true)
    (hwrites : call.writes = true → access = .readWrite)
    (hreads : call.reads = true → reads = true) :
    guarded access reads (some fd) call = some (some fd) := by
  obtain ⟨rfl, hcall⟩ := Option.ite_none_right_eq_some.mp h
  obtain ⟨c, hc⟩ := Option.isSome_iff_exists.mp (hreply call a hcall)
  rw [guarded_eq hwrites hreads, ledger_io hc]
  exact if_pos (hfd c hc)

namespace Syscalls

theorem openPath_triple {path : List Char} {flags : Nat} :
    Triple (guarded access reads) none (openPath path flags) fun reply held =>
      held = if reply.value < 0 then none else some reply.value := by
  have hopen (path' flags' reply) : guarded access reads none (.open path' flags' reply) =
      some (if reply.value < 0 then none else some reply.value) := by
    rw [guarded_eq (by simp [SystemCall.writes]) (by simp [SystemCall.reads]), ledger, if_pos rfl,
      apply_ite some]
  refine .retry (fun call reply h hagain => ?_) (fun call reply h hlast => ?_)
  · cases call with
    | «open» path' flags' reply' =>
      obtain ⟨-, ⟨⟩⟩ := Option.ite_none_right_eq_some.mp h
      rw [hopen, if_pos]
      simpa [SystemReply.interrupted] using (Bool.and_eq_true_iff.mp hagain).1
    | _ => cases h
  · cases call with
    | «open» path' flags' reply' =>
      obtain ⟨-, ⟨⟩⟩ := Option.ite_none_right_eq_some.mp h
      exact ⟨_, hopen .., rfl⟩
    | _ => cases h

/-- What an answer function asks of the descriptor that is held. -/
def Uses (fd : Int) (answer : SystemCall → Option α) : Prop :=
  ∀ call a, answer call = some a → call.descriptor = some fd ∧
    (∀ reply, call ≠ .close fd reply) ∧ call.writes = false ∧ call.reads = false

theorem Uses.step {answer : SystemCall → Option α} (h : Uses fd answer) {call : SystemCall} {a : α}
    (ha : answer call = some a) : guarded access reads (some fd) call = some (some fd) :=
  guarded_using (h call a ha).1 (h call a ha).2.1 (h call a ha).2.2.1 (h call a ha).2.2.2

theorem Uses.call {answer : SystemCall → Option α} (h : Uses fd answer) :
    Triple (guarded access reads) (some fd) (.call answer) fun _ held => held = some fd :=
  .call fun _ _ ha => ⟨_, h.step ha, rfl⟩

theorem Uses.retry {answer : SystemCall → Option α} {interrupted : α → Bool} (h : Uses fd answer) :
    Triple (guarded access reads) (some fd) (.retry answer interrupted)
      fun _ held => held = some fd :=
  .retry (fun _ _ ha _ => h.step ha) fun _ _ ha _ => ⟨_, h.step ha, rfl⟩

theorem getFileStatus_triple : Triple (guarded access reads) (some fd)
    (getFileStatusWithoutInterruption fd) fun _ held => held = some fd := by
  refine Uses.retry fun call a h => ?_
  cases call <;> simp_all [SystemCall.descriptor, SystemCall.writes, SystemCall.reads]

theorem isatty_triple :
    Triple (guarded access reads) (some fd) (isatty fd) fun _ held => held = some fd := by
  refine Uses.call fun call a h => ?_
  cases call <;> simp_all [SystemCall.descriptor, SystemCall.writes, SystemCall.reads]

theorem ioctl_triple {request : ExclusiveRequest} :
    Triple (guarded access reads) (some fd) (ioctl fd request) fun _ held => held = some fd := by
  refine Uses.retry fun call a h => ?_
  cases call <;> simp_all [SystemCall.descriptor, SystemCall.writes, SystemCall.reads]

theorem fcntl_triple {command : FlagsCommand} :
    Triple (guarded access reads) (some fd) (fcntl fd command) fun _ held => held = some fd := by
  refine Uses.retry fun call a h => ?_
  cases call <;> simp_all [SystemCall.descriptor, SystemCall.writes, SystemCall.reads]

theorem getTermios_triple : Triple (guarded access reads) (some fd)
    (getTermiosWithoutInterruption fd) fun _ held => held = some fd := by
  refine Uses.retry fun call a h => ?_
  cases call <;> simp_all [SystemCall.descriptor, SystemCall.writes, SystemCall.reads]

theorem setTermios_triple {settings : Termios} : Triple (guarded access reads) (some fd)
    (setTermiosWithoutInterruption fd settings) fun _ held => held = some fd := by
  refine Uses.retry fun call a h => ?_
  cases call <;> simp_all [SystemCall.descriptor, SystemCall.writes, SystemCall.reads]

theorem cfsetspeed_triple {line : LineSpeed} :
    Triple (guarded access reads) held (cfsetspeed line) fun _ held' => held' = held := by
  refine .call fun call reply h => ⟨held, ?_, rfl⟩
  cases call with
  | cfsetspeed line' reply' =>
    rw [guarded_eq (by simp [SystemCall.writes]) (by simp [SystemCall.reads])]
    simp [ledger, SystemCall.descriptor]
  | _ => cases h

theorem close_triple :
    Triple (guarded access reads) (some fd) (Syscalls.close fd) fun _ held => held = none := by
  refine .call fun call reply h => ⟨none, ?_, rfl⟩
  cases call with
  | close fd' reply' =>
    obtain ⟨rfl, -⟩ := Option.ite_none_right_eq_some.mp h
    rw [guarded_eq (by simp [SystemCall.writes]) (by simp [SystemCall.reads])]
    exact if_pos rfl
  | _ => cases h

theorem monotonicNow_triple :
    Triple (guarded access reads) held monotonicNow fun _ held' => held' = held := by
  refine .call fun call ns h => ⟨held, ?_, rfl⟩
  cases call with
  | monotonicNow ns' =>
    rw [guarded_eq (by simp [SystemCall.writes]) (by simp [SystemCall.reads])]
    simp [ledger, SystemCall.descriptor]
  | _ => cases h

end Syscalls

open Syscalls

theorem configureSerialPort_triple : Triple (guarded access reads) (some fd)
    (configureSerialPort fd) fun _ held => held = some fd := by
  refine .bind getTermios_triple ?_
  rintro ⟨got, settings⟩ _ rfl
  refine .ite (fun _ => .pure rfl) fun _ => ?_
  refine .bind cfsetspeed_triple ?_
  rintro inputSet _ rfl
  refine .ite (fun _ => .pure rfl) fun _ => ?_
  refine .bind cfsetspeed_triple ?_
  rintro outputSet _ rfl
  refine .ite (fun _ => .pure rfl) fun _ => ?_
  refine .bind setTermios_triple ?_
  rintro set _ rfl
  refine .ite (fun _ => .pure rfl) fun _ => ?_
  refine .bind getTermios_triple ?_
  rintro ⟨seen, observed⟩ _ rfl
  refine .ite (fun _ => .pure rfl) fun _ => ?_
  exact .ite (fun _ => .pure rfl) fun _ => .pure rfl

theorem releaseExclusiveAndClose_triple (hfd : 0 ≤ fd) :
    Triple (guarded access reads) (some fd) (releaseExclusiveAndClose fd)
      fun _ held => held = none := by
  rw [releaseExclusiveAndClose, if_neg hfd.not_gt]
  refine .bind ioctl_triple ?_
  rintro _ _ rfl
  refine .bind close_triple ?_
  rintro _ _ rfl
  exact .pure rfl

namespace SystemCall

def opens (fd : Int) : SystemCall → Bool
  | .open _ _ reply => 0 ≤ reply.value && reply.value = fd
  | _ => false

def closes (fd : Int) : SystemCall → Bool
  | .close fd' _ => fd' = fd
  | _ => false

theorem ledger_step {held' : Option Int} {call : SystemCall} (h : ledger held call = some held')
    (fd : Int) :
    (if call.opens fd then 1 else 0) + (if held = some fd then 1 else 0) =
      (if call.closes fd then 1 else 0) + if held' = some fd then 1 else 0 := by
  cases call with
  | «open» path flags reply =>
    rw [ledger] at h
    split at h
    · case isTrue hfailed =>
      cases h
      simp [opens, closes, hfailed.not_ge]
    · case isFalse hopened =>
      obtain ⟨rfl, ⟨⟩⟩ := Option.ite_none_right_eq_some.mp h
      simp [opens, closes, not_lt.mp hopened]
  | close fd' reply =>
    obtain ⟨rfl, ⟨⟩⟩ := Option.ite_none_right_eq_some.mp h
    simp [opens, closes]
  | cfsetspeed _ _ | monotonicNow _ =>
    simp only [ledger, descriptor, true_or, if_true] at h
    cases h
    rfl
  | _ =>
    obtain ⟨-, ⟨⟩⟩ := Option.ite_none_right_eq_some.mp h
    rfl

/-- A descriptor that was opened has been closed as often, unless it is held. -/
theorem ledger_count {held' : Option Int} {trace : List SystemCall}
    (h : trace.foldlM ledger held = some held') (fd : Int) :
    trace.countP (opens fd) + (if held = some fd then 1 else 0) =
      trace.countP (closes fd) + if held' = some fd then 1 else 0 := by
  induction trace generalizing held with
  | nil =>
    cases h
    rfl
  | cons call trace ih =>
    obtain ⟨between, hstep, hrest⟩ := Option.bind_eq_some_iff.mp h
    have hcall := ledger_step hstep fd
    have htrace := ih hrest
    rw [List.countP_cons, List.countP_cons]
    omega

theorem ledger_of_guarded {held' : Option Int} {trace : List SystemCall}
    (h : trace.foldlM (guarded access reads) held = some held') :
    trace.foldlM ledger held = some held' ∧
      (access ≠ .readWrite → ∀ call ∈ trace, call.writes = false) ∧
        (reads = false → ∀ call ∈ trace, call.reads = false) := by
  induction trace generalizing held with
  | nil => exact ⟨h, by simp, by simp⟩
  | cons call trace ih =>
    obtain ⟨between, hstep, hrest⟩ := Option.bind_eq_some_iff.mp h
    obtain ⟨hpermitted, hledger⟩ := Option.ite_none_left_eq_some.mp hstep
    obtain ⟨htrace, hwrites, hreads⟩ := ih hrest
    simp only [Bool.or_eq_true, not_or] at hpermitted
    refine ⟨Option.bind_eq_some_iff.mpr ⟨between, hledger, htrace⟩, fun haccess => ?_,
      fun hnone => ?_⟩
    · rw [List.forall_mem_cons]
      exact ⟨by simpa [haccess] using hpermitted.1, hwrites haccess⟩
    · rw [List.forall_mem_cons]
      exact ⟨by simpa [hnone] using hpermitted.2, hreads hnone⟩

end SystemCall

end WheeltecVcuSerial
