import WheeltecVcuSerial.Cli.Refinement

namespace WheeltecVcuSerial

open SafetySession Trace Program

/-- A call of the session has halted the motion, and nothing has been written since. -/
def Halted (h : List Event) : Prop :=
  ∃ later stop earlier,
    h = later ++ stop :: earlier ∧ stop.halts = true ∧ ∀ x ∈ later, x.writes = []

theorem Halted.of_halts {e : Event} {h : List Event} (he : e.halts = true) : Halted (e :: h) :=
  ⟨[], e, h, rfl, he, by simp⟩

theorem Halted.cons {e : Event} {h : List Event} (hh : Halted h) (he : e.writes = []) :
    Halted (e :: h) := by
  obtain ⟨later, stop, earlier, rfl, hstop, hlater⟩ := hh
  exact ⟨e :: later, stop, earlier, rfl, hstop, List.forall_mem_cons.mpr ⟨he, hlater⟩⟩

/-- What a halted session writes next is zero. -/
theorem Halted.zero {config : SafetyConfig} {h : List Event} {w : World} {e : Event}
    (hh : Halted h) (run : (sessionMachine Link.Evolves config).Run (e :: h) w) :
    ∀ write ∈ e.writes, write.buffer = makeZeroCommandFrame.toList := by
  intro write hwrite
  rcases ((transition_of_mem run List.mem_cons_self).zero_or_motion hwrite).2 with hzero | hkind
  · exact hzero
  obtain ⟨later, stop, earlier, rfl, hstop, hlater⟩ := hh
  cases run with
  | next run hstep =>
    obtain ⟨hsettled, -⟩ := settled_of_motion run hstep hwrite hkind
    have hwrites : stop.writes = [] := by
      obtain ⟨v, v', hrun, hhalt, -⟩ := run.step_of_mem
      refine (step_transition hrun hhalt).writes_of_halts ?_
      rw [← hhalt.1]
      exact hstop
    obtain ⟨x, newer, older, rfl, ⟨zero, hzero, -⟩, -⟩ :=
      (zero_since run hsettled).exists_later (by simp [hstop]) (by simp [hwrites])
    rw [hlater x (by simp)] at hzero
    cases hzero

namespace Cli

open Errno

variable {config : RuntimeConfig} {limits : SafetyConfig} {d d' : Service} {s : CliState}
  {made more : List ProcessCall} {h : List (List ProcessCall)} {next : Phase ⊕ Nat}

/-- The calls after which the process is to bring the vehicle to a stop and to end: a disarmed
session, a line that asks to quit, and an input that cannot be read. -/
def fatal : ProcessCall → Bool
  | .session ⟨_, _, .disarm _⟩ _ => true
  | .processLine line => quits line
  | .readStdin (.failed errorNumber) => errorNumber ∉ transientErrors
  | .pollStdin (.failed errorNumber) => errorNumber ≠ eintr
  | _ => false

/-- Behind a fatal call there are zero frames at most. -/
def Quiet (made : List ProcessCall) : Prop :=
  ∀ before x after, made = before ++ x :: after → fatal x = true → Unmoved after

/-- More calls, which are zero frames at most if one before them was fatal. -/
theorem Quiet.append (h : Quiet made) (hmore : (∃ x ∈ made, fatal x = true) → Unmoved more)
    (hquiet : Quiet more) : Quiet (made ++ more) := by
  intro before x after heq hfatal
  rcases List.append_eq_append_iff.mp heq with ⟨between, rfl, hright⟩ | ⟨between, rfl, hright⟩
  · exact hquiet between x after hright hfatal
  · cases between with
    | nil => exact hquiet [] x after hright.symm hfatal
    | cons y between =>
      obtain ⟨rfl, rfl⟩ := List.cons.inj hright
      exact (h before x between rfl hfatal).append (hmore ⟨x, by simp, hfatal⟩)

theorem Quiet.of_unmoved (h : Unmoved made) : Quiet made := by
  rintro before x after rfl - e he
  exact h e (by rw [portTrace_append, List.mem_append]; exact .inr (by simp [he]))

theorem Quiet.singleton (call : ProcessCall) : Quiet [call] := by
  intro before x after heq _
  obtain rfl : after = [] := by
    cases before with
    | nil => exact (List.cons.inj heq).2.symm
    | cons y before => simp at heq
  exact .of_silent rfl

/-- A halted session leaves zero frames at most in the trace. -/
theorem Acts.unmoved {e : Event} {answers : List PortEvent}
    (hacts : Acts limits { guard := opening config } (made ++ [.session e answers]) d)
    (hh : Halted (sessionHistory made)) : Unmoved [.session e answers] := by
  intro pe hpe
  obtain ⟨w, hrun, -⟩ := hacts.session
  rw [sessionHistory_append] at hrun
  have hpe : pe ∈ answers := by simpa [ProcessCall.portEvents] using hpe
  obtain ⟨write, hwrite, hasked, -⟩ := exists_of_forall₂ (hacts.answered (e := e) (by simp)) pe hpe
  simp [hasked, PortCall.harmless, hh.zero hrun write hwrite]

theorem not_fatal_of_ordinary {call : ProcessCall} (h : ordinary limits call = true) :
    fatal call = false := by
  cases call with
  | session e answers =>
    obtain ⟨_, _, op⟩ := e
    cases op <;> first | rfl | cases h
  | pollStdin answer =>
    cases answer with
    | failed errorNumber => simpa [ordinary, ProcessCall.aside, fatal] using h
    | _ => rfl
  | _ => first | rfl | cases h

/-- A process in which nothing moves once it is to end. -/
structure Disciplined (d : Service) (made : List ProcessCall) : Prop where
  quiet : Quiet made
  halted : (∃ x ∈ made, fatal x = true) → (d.stage = .over ∨ d.stage = .ended) ∨
    d.stage = .head ∧ d.quit = true ∨
      d.stage = .inRound ∧ (d.quit = true ∨ d.failed = true) ∧ Halted (sessionHistory made)

/-- Calls that are not fatal and that the session does not see. -/
theorem Disciplined.aside (h : Disciplined d made) (hfatal : ∀ x ∈ more, fatal x = false)
    (hmore : Unmoved more) (hsession : sessionHistory more = [])
    (hstage : d'.stage = d.stage) (hflags : d.quit = true → d'.quit = true)
    (hfailed : d'.failed = d.failed) : Disciplined d' (made ++ more) := by
  refine ⟨h.quiet.append (fun _ => hmore) (.of_unmoved hmore), fun hfat => ?_⟩
  rw [sessionHistory_append, hsession, List.nil_append, hstage, hfailed]
  have hbefore : ∃ x ∈ made, fatal x = true := by
    obtain ⟨x, hx, hxfatal⟩ := hfat
    rcases List.mem_append.mp hx with hx | hx
    · exact ⟨x, hx, hxfatal⟩
    · rw [hfatal x hx] at hxfatal
      cases hxfatal
  rcases h.halted hbefore with hover | ⟨hhead, hquit⟩ | ⟨hround, hflag, hh⟩
  · exact .inl hover
  · exact .inr (.inl ⟨hhead, hflags hquit⟩)
  · exact .inr (.inr ⟨hround, hflag.imp_left hflags, hh⟩)

/-- A line halts the session if it is fatal, and raises a flag. -/
theorem halts_of_line {line : List Char} {ns : Int} {e : Event}
    (hop : e.op = (processLine line ns).1)
    (hfatal : quits line = true ∨ ∃ now, e.op = .disarm now) :
    e.halts = true ∧ ((processLine line ns).2.quit = true ∨
      (processLine line ns).2.valid = false) := by
  have hstops : e.op.stops e.response = true → e.halts = true := by
    intro h
    rw [Event.halts, h, Bool.or_true]
  rcases hfatal with hquits | ⟨now, hdisarm⟩
  · rcases processLine_of_quits hquits ns with hline | hline
    · rw [hline] at hop ⊢
      exact ⟨hstops (by rw [hop]; rfl), .inr rfl⟩
    · rw [hline] at hop ⊢
      exact ⟨hstops (by rw [hop]; rfl), .inl rfl⟩
  · refine ⟨hstops (by rw [hdisarm]; rfl), .inr ?_⟩
    have hcall := processLine_call line ns
    rw [hop] at hdisarm
    generalize processLine line ns = called at hcall hdisarm
    cases hcall <;> first | rfl | cases hdisarm

/-- A handled line, be it the last one without a newline. -/
theorem Disciplined.line {line : List Char} {ns : Int} {e : Event} {g : Guard}
    (h : Disciplined d made) (hstage : d.stage = .inRound) (hop : e.op = (processLine line ns).1)
    (hguard : guard d.guard (.session e []) = some g) (hround : d'.stage = .inRound)
    (hquit : (d.quit || (processLine line ns).2.quit) = true → d'.quit = true)
    (hfailed : d'.failed = (d.failed || !(processLine line ns).2.valid)) :
    Disciplined d' (made ++ [.processLine line, .monotonicNow ns, .session e []]) := by
  have hsilent : Unmoved [.processLine line, .monotonicNow ns, .session e []] := .of_silent rfl
  refine ⟨h.quiet.append (fun _ => hsilent) (.of_unmoved hsilent), fun hfat => .inr (.inr ?_)⟩
  have hwrites : e.writes = [] := by
    refine e.writes_of_perform fun now => ?_
    rw [hop]
    have hcall := processLine_call line ns
    generalize processLine line ns = called at hcall
    cases hcall <;> rfl
  have hhistory : sessionHistory (made ++ [.processLine line, .monotonicNow ns, .session e []]) =
      e :: sessionHistory made := by
    rw [sessionHistory_append]
    rfl
  rw [hhistory]
  by_cases hbefore : ∃ x ∈ made, fatal x = true
  · rcases h.halted hbefore with hover | ⟨hhead, -⟩ | ⟨-, hflag, hh⟩
    · simp [hstage] at hover
    · simp [hstage] at hhead
    · refine ⟨hround, hflag.imp (fun hq => hquit (by simp [hq])) fun hf => ?_, hh.cons hwrites⟩
      simp [hfailed, hf]
  · have hline : quits line = true ∨ ∃ now, e.op = .disarm now := by
      obtain ⟨x, hx, hxfatal⟩ := hfat
      rcases List.mem_append.mp hx with hx | hx
      · exact absurd ⟨x, hx, hxfatal⟩ hbefore
      · simp only [List.mem_cons, List.not_mem_nil, or_false] at hx
        rcases hx with rfl | rfl | rfl
        · exact .inl hxfatal
        · cases hxfatal
        · obtain ⟨_, _, op⟩ := e
          cases op with
          | disarm now => exact .inr ⟨now, rfl⟩
          | _ => cases hxfatal
    obtain ⟨hhalts, hflag⟩ := halts_of_line hop hline
    refine ⟨hround, hflag.imp (fun hq => hquit (by simp [hq])) fun hv => ?_, .of_halts hhalts⟩
    simp [hfailed, hv]

theorem disarm_halts {e : Event} {now : Int} (hop : e.op = .disarm now) : e.halts = true := by
  have hstops : e.op.stops e.response = true := by
    rw [hop]
    rfl
  rw [Event.halts, hstops, Bool.or_true]

theorem Disciplined.act (hacts : Acts limits { guard := opening config } made d)
    (h : Disciplined d made) (hact : Act limits d more d') : Disciplined d' (made ++ more) := by
  have hacts' := hacts.next hact
  have hover (hunmoved : Unmoved more) (hstage : d'.stage = .over ∨ d'.stage = .ended) :
      Disciplined d' (made ++ more) :=
    ⟨h.quiet.append (fun _ => hunmoved) (.of_unmoved hunmoved), fun _ => .inl hstage⟩
  cases hact with
  | @call g call hcall hguard =>
    have hunmoved : Unmoved [call] := .of_not_writes
      (by simpa using silent_of_ordinary hcall hguard)
    refine ⟨h.quiet.append (fun _ => hunmoved) (.of_unmoved hunmoved), fun hfat => ?_⟩
    have hbefore : ∃ x ∈ made, fatal x = true := by
      simpa [not_fatal_of_ordinary hcall] using hfat
    refine (h.halted hbefore).imp_right (.imp_right (.imp_right (.imp_right fun hh => ?_)))
    rw [sessionHistory_append]
    cases call with
    | session e answers => exact hh.cons (writes_of_ordinary hcall)
    | _ => exact hh
  | enter hstage hquit =>
    refine ⟨h.quiet.append (fun _ => .of_silent rfl) (.singleton _), fun hfat => ?_⟩
    have hbefore : ∃ x ∈ made, fatal x = true := by simpa [fatal] using hfat
    simpa [hstage, hquit] using h.halted hbefore
  | leave => exact hover (.of_silent rfl) (.inl rfl)
  | read => exact h.aside (by simp [fatal]) (.of_silent rfl) rfl rfl id rfl
  | ended => exact h.aside (by simp [fatal]) (.of_silent rfl) rfl rfl id rfl
  | interrupted htransient =>
    exact h.aside (by simpa [fatal] using htransient) (.of_silent rfl) rfl rfl id rfl
  | unreadable => exact hover (.of_silent rfl) (.inl rfl)
  | take => exact h.aside (by simp) (.of_silent rfl) rfl rfl id rfl
  | line hstage _ _ hop hguard => exact h.line hstage hop hguard hstage id rfl
  | trailing hstage _ _ _ _ hop hguard => exact h.line hstage hop hguard hstage (fun _ => rfl) rfl
  | spent => exact h.aside (by simp) (.of_silent rfl) rfl rfl (fun _ => rfl) rfl
  | disarm => exact hover (.of_silent rfl) (.inl rfl)
  | @tick e answers g now hstage hlines hpending heof hfailed htick hguard =>
    have hnot : fatal (.session e answers) = false := by
      obtain ⟨_, _, op⟩ := e
      cases op <;> first | rfl | cases htick
    refine ⟨h.quiet.append (fun hbefore => ?_) (.singleton _), fun hfat => ?_⟩
    · rcases h.halted hbefore with hover | ⟨hhead, -⟩ | ⟨-, -, hh⟩
      · simp [hstage] at hover
      · simp [hstage] at hhead
      · exact hacts'.unmoved hh
    · have hbefore : ∃ x ∈ made, fatal x = true := by simpa [hnot] using hfat
      rcases h.halted hbefore with hover | ⟨hhead, -⟩ | ⟨-, hflag, -⟩
      · simp [hstage] at hover
      · simp [hstage] at hhead
      · exact .inr (.inl ⟨rfl, hflag.elim id hfailed⟩)
  | unpolled => exact hover (.of_silent rfl) (.inl rfl)
  | @stop e g e' answers g' now hstage hop htick hguard hguard' =>
    refine hover ?_ (.inl hstage)
    have hsplit : made ++ [.session e [], .session e' answers] =
        (made ++ [.session e []]) ++ [.session e' answers] := by simp
    have hh : Halted (sessionHistory (made ++ [.session e []])) := by
      rw [sessionHistory_append]
      exact .of_halts (disarm_halts hop)
    rw [hsplit] at hacts'
    have hdisarm : Unmoved [.session e []] := .of_silent rfl
    exact hdisarm.append (hacts'.unmoved hh)
  | pass => exact hover (.of_silent rfl) (.inr rfl)
  | zero hstage _ hguard =>
    refine hover ?_ (.inr hstage)
    obtain ⟨⟨-, hharmless⟩, -⟩ := Option.ite_none_right_eq_some.mp hguard
    simpa [Unmoved, ProcessCall.portEvents] using hharmless

theorem Acts.disciplined (hacts : Acts limits { guard := opening config } made d) :
    Disciplined d made := by
  refine hacts.invariant ?_ fun hbefore h hact => h.act hbefore hact
  exact ⟨by simp [Quiet], by simp⟩

/-- Once a call is fatal, the process writes nothing but zero frames. -/
theorem unmoved_after_fatal (run : (process config).Run h next) {before after : List ProcessCall}
    {x : ProcessCall} (hsplit : called h = before ++ x :: after) (hfatal : fatal x = true) :
    Unmoved after := by
  obtain ⟨d, hacts, -⟩ := acts_of_run run
  exact hacts.disciplined.quiet before x after hsplit hfatal

theorem drive_unmoved : ∃ before after,
    called drive.reverse = before ++ .processLine ['Q', 'U', 'I', 'T'] :: after ∧
      Unmoved after := by
  have hmem : .processLine ['Q', 'U', 'I', 'T'] ∈ called drive.reverse := by decide +kernel
  obtain ⟨before, after, hsplit⟩ := List.append_of_mem hmem
  exact ⟨before, after, hsplit, unmoved_after_fatal drive_run hsplit rfl⟩

end Cli

end WheeltecVcuSerial
