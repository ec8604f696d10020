import WheeltecVcuSerial.Cli.Run
import WheeltecVcuSerial.Process.Guard

namespace WheeltecVcuSerial.Cli

open Errno Process Text Trace Program

/-- Where `run` is: at the head of its loop, in a round, past its loop or past its session. -/
inductive Stage
  | head
  | inRound
  | over
  | ended
  deriving DecidableEq

/-- What the process has taken of its input, and what is left to be done with it. -/
structure Service where
  guard : Guard
  stage : Stage := .head
  pending : List Char := []
  /-- The lines that were taken and not yet handled. -/
  lines : List (List Char) := []
  eof : Bool := false
  quit : Bool := false
  failed : Bool := false

/-- The errors after which `read` is only called again, now or in a later round. -/
def transientErrors : List Int := [eintr, eagain, ewouldblock]

/-- A write past the session. -/
def direct : ProcessCall → Bool
  | .port e => e.record.call.writes
  | _ => false

/-- A call that has nothing to do with the input, and that does not write. -/
def ordinary (limits : SafetyConfig) : ProcessCall → Bool
  | .construct config _ => config = limits
  | .port e => !e.record.call.writes
  | .session ⟨_, _, .observeFeedback _ _⟩ _ => true
  | .session ⟨_, _, .latchEmergencyStop _⟩ _ => true
  | call => call.aside

/-- One thing that the process does, with the calls that it takes. -/
inductive Act (limits : SafetyConfig) (d : Service) : List ProcessCall → Service → Prop
  | call {call : ProcessCall} : ordinary limits call = true → guard d.guard call = some g →
      Act limits d [call] { d with guard := g }
  | enter : d.stage = .head → d.quit = false →
      Act limits d [.shutdownRequested false] { d with stage := .inRound }
  | leave : d.stage ≠ .ended → Act limits d [] { d with stage := .over }
  | read : d.stage = .inRound → d.lines = [] → d.quit = false → data ≠ [] →
      Act limits d [.readStdin (.delivered data)] { d with pending := d.pending ++ data }
  | ended : d.stage = .inRound → d.lines = [] → d.quit = false →
      Act limits d [.readStdin (.delivered [])] { d with eof := true }
  | interrupted : errorNumber ∈ transientErrors →
      Act limits d [.readStdin (.failed errorNumber)] d
  | unreadable : d.stage = .inRound → errorNumber ∉ transientErrors →
      Act limits d [.readStdin (.failed errorNumber)] { d with stage := .over }
  | take : d.stage = .inRound → d.lines = [] → d.quit = false →
      Act limits d []
        { d with
          lines := (takeCompleteLines d.pending).1
          pending := (takeCompleteLines d.pending).2 }
  | line : d.stage = .inRound → d.lines = line :: lines → line.length ≤ lineLimit →
      e.op = (processLine line ns).1 → guard d.guard (.session e []) = some g →
      Act limits d [.processLine line, .monotonicNow ns, .session e []]
        { d with
          guard := g
          lines := lines
          quit := d.quit || (processLine line ns).2.quit
          failed := d.failed || !(processLine line ns).2.valid }
  | trailing : d.stage = .inRound → d.eof = true → d.lines = [] → d.pending ≠ [] →
      '\n' ∉ d.pending → e.op = (processLine d.pending ns).1 →
      guard d.guard (.session e []) = some g →
      Act limits d [.processLine d.pending, .monotonicNow ns, .session e []]
        { d with
          guard := g
          pending := []
          quit := true
          failed := d.failed || !(processLine d.pending ns).2.valid }
  | spent : d.stage = .inRound → d.eof = true → d.lines = [] → d.pending = [] →
      Act limits d [] { d with quit := true }
  | disarm : d.stage ≠ .ended → e.op = .disarm now → guard d.guard (.session e []) = some g →
      Act limits d [.session e []] { d with guard := g, stage := .over }
  | tick : d.stage = .inRound → d.lines = [] → '\n' ∉ d.pending →
      (d.eof = true → d.quit = true ∧ d.pending = []) → (d.failed = true → d.quit = true) →
      e.op.isTick now = true → guard d.guard (.session e answers) = some g →
      Act limits d [.session e answers] { d with guard := g, stage := .head }
  | unpolled : d.stage ≠ .ended → errorNumber ≠ eintr →
      Act limits d [.pollStdin (.failed errorNumber)] { d with stage := .over }
  | stop : d.stage = .over → e.op = .disarm now → e'.op.isTick now = true →
      guard d.guard (.session e []) = some g → guard g (.session e' answers) = some g' →
      Act limits d [.session e [], .session e' answers] { d with guard := g' }
  | pass : d.stage = .over → Act limits d [] { d with stage := .ended }
  | zero : d.stage = .ended → e.record.call.writes = true → guard d.guard (.port e) = some g →
      Act limits d [.port e] { d with guard := g }

/-- Acts one after the other, with all the calls that they take. -/
inductive Acts (limits : SafetyConfig) : Service → List ProcessCall → Service → Prop
  | refl : Acts limits d [] d
  | next : Acts limits d made d' → Act limits d' more d'' → Acts limits d (made ++ more) d''

variable {limits : SafetyConfig} {d d' d'' : Service} {made more : List ProcessCall}

theorem Act.acts (h : Act limits d made d') : Acts limits d made d' := Acts.next .refl h

theorem Acts.trans (first : Acts limits d made d') (second : Acts limits d' more d'') :
    Acts limits d (made ++ more) d'' := by
  induction second with
  | refl => rwa [List.append_nil]
  | next _ hact ih =>
    rw [← List.append_assoc]
    exact ih.next hact

theorem ordinary_of_aside {call : ProcessCall} (h : call.aside = true) :
    ordinary limits call = true := by
  cases call <;> first | exact h | cases h

/-- Ordinary calls that lead from `g` to `g'`. -/
structure Ordinarily (limits : SafetyConfig) (g : Guard) (made : List ProcessCall) (g' : Guard) :
    Prop where
  ordinary : ∀ call ∈ made, ordinary limits call = true
  guarded : made.foldlM WheeltecVcuSerial.guard g = some g'

namespace Ordinarily

variable {g g' g'' : Guard}

theorem refl : Ordinarily limits g [] g := ⟨by simp, rfl⟩

theorem one {call : ProcessCall} (hcall : Cli.ordinary limits call = true)
    (hguard : guard g call = some g') : Ordinarily limits g [call] g' :=
  ⟨by simpa using hcall, by simp [hguard]⟩

theorem trans (first : Ordinarily limits g made g') (second : Ordinarily limits g' more g'') :
    Ordinarily limits g (made ++ more) g'' := by
  refine ⟨List.forall_mem_append.mpr ⟨first.ordinary, second.ordinary⟩, ?_⟩
  rw [List.foldlM_append, first.guarded]
  exact second.guarded

theorem aside (h : ∀ call ∈ made, call.aside = true) : Ordinarily limits g made g := by
  induction made with
  | nil => exact refl
  | cons call made ih =>
    rw [List.forall_mem_cons] at h
    exact (one (ordinary_of_aside h.1) (guard_aside h.1)).trans (ih h.2)

theorem port {e : PortEvent} {call : PortCall} (hcall : call.writes = false)
    (hperform : g.port.perform call e.calls = some (e.record, [])) :
    Ordinarily limits g [.port e] { g with port := e.record.after } := by
  obtain rfl := SerialPort.call_of_perform hperform
  exact one (by simp [Cli.ordinary, hcall])
    (guard_port hperform (PortCall.harmless_of_not_writes hcall))

theorem acts (h : Ordinarily limits d.guard made g) : Acts limits d made { d with guard := g } := by
  obtain ⟨hordinary, hguarded⟩ := h
  induction made generalizing d with
  | nil =>
    cases hguarded
    exact .refl
  | cons call made ih =>
    rw [List.forall_mem_cons] at hordinary
    obtain ⟨between, hcall, hrest⟩ := Option.bind_eq_some_iff.mp hguarded
    have hfirst : Acts limits d [call] { d with guard := between } :=
      (Act.call hordinary.1 hcall).acts
    exact hfirst.trans (ih (d := { d with guard := between }) hordinary.2 hrest)

end Ordinarily

theorem Acts.aside (h : ∀ call ∈ made, call.aside = true) : Acts limits d made d :=
  (Ordinarily.aside h).acts

/-- Zero frames at most. -/
def Unmoved (made : List ProcessCall) : Prop :=
  ∀ e ∈ portTrace made, e.record.call.harmless = true

theorem Unmoved.append (h : Unmoved made) (hmore : Unmoved more) : Unmoved (made ++ more) := by
  intro e he
  rw [portTrace_append, List.mem_append] at he
  exact he.elim (h e) (hmore e)

theorem Unmoved.of_silent (h : portTrace made = []) : Unmoved made := by
  intro e he
  rw [h] at he
  cases he

/-- An ordinary call of the session writes nothing. -/
theorem writes_of_ordinary {e : Event} {answers : List PortEvent}
    (h : ordinary limits (.session e answers) = true) : e.writes = [] := by
  refine e.writes_of_perform fun now => ?_
  obtain ⟨_, _, op⟩ := e
  cases op <;> first | rfl | cases h

/-- Ordinary calls do not write, neither past the session nor through it. -/
theorem silent_of_ordinary {call : ProcessCall} {g g' : Guard}
    (hcall : ordinary limits call = true) (hguard : guard g call = some g') :
    ∀ e ∈ call.portEvents, e.record.call.writes = false := by
  cases call with
  | port e => simpa [ordinary, ProcessCall.portEvents] using hcall
  | session e answers =>
    obtain rfl := answers_of_silent (writes_of_ordinary hcall) hguard
    simp [ProcessCall.portEvents]
  | _ => simp [ProcessCall.portEvents]

theorem Ordinarily.silent {g g' : Guard} (h : Ordinarily limits g made g') :
    ∀ e ∈ portTrace made, e.record.call.writes = false := by
  obtain ⟨hordinary, hguarded⟩ := h
  induction made generalizing g with
  | nil => simp
  | cons call made ih =>
    rw [List.forall_mem_cons] at hordinary
    obtain ⟨between, hcall, hrest⟩ := Option.bind_eq_some_iff.mp hguarded
    rw [portTrace_cons, List.forall_mem_append]
    exact ⟨silent_of_ordinary hordinary.1 hcall, ih hordinary.2 hrest⟩

theorem not_direct_of_ordinary {call : ProcessCall} (h : ordinary limits call = true) :
    direct call = false := by
  cases call with
  | port e => simpa [ordinary, direct] using h
  | _ => rfl

theorem Ordinarily.filter_direct {g g' : Guard} (h : Ordinarily limits g made g') :
    made.filter direct = [] :=
  List.filter_eq_nil_iff.mpr fun call hcall =>
    Bool.eq_false_iff.mp (not_direct_of_ordinary (h.ordinary call hcall))

theorem Unmoved.of_not_writes (h : ∀ e ∈ portTrace made, e.record.call.writes = false) :
    Unmoved made :=
  fun e he => PortCall.harmless_of_not_writes (h e he)

/-- A condition on services and on their calls so far, if every act keeps it. -/
theorem Acts.invariant {I : Service → List ProcessCall → Prop}
    (hacts : Acts limits d made d') (hstart : I d [])
    (hact : ∀ {h e more e'}, Acts limits d h e → I e h → Act limits e more e' → I e' (h ++ more)) :
    I d' made := by
  induction hacts with
  | refl => exact hstart
  | next hbefore hlast ih => exact hact hbefore ih hlast

end WheeltecVcuSerial.Cli
