import Mathlib.Data.Int.ConditionallyCompleteOrder
import WheeltecVcuSerial.Transport.ReadSome
import WheeltecVcuSerial.Transport.WriteAll

namespace WheeltecVcuSerial

open Errno Trace

def Answer.ns : Answer → Int
  | .monotonicNow ns => ns
  | _ => 0

/-! ### Waiting -/

namespace WaitPhase

variable {requestedEvents : UInt16} {absoluteDeadlineNs : Int} {p q : WaitPhase}

/-- The phases of a wait that a reading past the deadline leads to. -/
def Late : WaitPhase → Prop
  | .beforePoll => True
  | .returned _ => True
  | _ => False

theorem late_of_reading {ns : Int}
    (h : p.resume requestedEvents absoluteDeadlineNs (.monotonicNow ns) = some q)
    (hlate : absoluteDeadlineNs ≤ ns) : q.Late := by
  cases p with
  | beforePoll =>
    rw [resume, if_pos hlate] at h
    cases h
    trivial
  | afterPoll poll =>
    obtain rfl := Option.some.inj h
    cases poll with
    | ready returnedEvents =>
      simp only [PollAnswer.dispatch]
      split_ifs <;> trivial
    | timedOut => trivial
    | failed errorNumber =>
      simp only [PollAnswer.dispatch]
      split_ifs <;> trivial
  | polling _ | returned _ => cases h

theorem asks_of_late {operation : Operation} (hp : p.Late) (h : p.asks = some operation) :
    operation = .monotonicNow := by
  cases p with
  | beforePoll => exact (Option.some.inj h).symm
  | returned _ => cases h
  | polling _ | afterPoll _ => exact hp.elim

theorem expires {answer : Answer} (hp : p.Late)
    (h : p.resume requestedEvents absoluteDeadlineNs answer = some q)
    (hlate : absoluteDeadlineNs ≤ answer.ns) :
    ∃ ns, q = .returned ⟨.deadlineExceeded, etimedout, ns⟩ := by
  cases p with
  | beforePoll =>
    cases answer with
    | monotonicNow ns =>
      rw [resume, if_pos (show ns ≥ absoluteDeadlineNs from hlate)] at h
      cases h
      exact ⟨ns, rfl⟩
    | readBytes _ | pollOne _ => cases h
  | returned _ => cases h
  | polling _ | afterPoll _ => exact hp.elim

/-- A wait polls right after a reading of the clock. -/
theorem after_reading {answer : Answer} {operation : Operation}
    (h : p.resume requestedEvents absoluteDeadlineNs answer = some q)
    (hq : q.asks = some operation) (hother : operation ≠ .monotonicNow) :
    answer.operation = .monotonicNow := by
  cases answer with
  | monotonicNow ns => rfl
  | readBytes _ => cases p <;> cases h
  | pollOne poll =>
    cases p with
    | polling timeoutMs =>
      cases h
      exact absurd (Option.some.inj hq).symm hother
    | beforePoll | afterPoll _ | returned _ => cases h

end WaitPhase

/-! ### Reading -/

namespace ReadRequest

variable {r : ReadRequest} {p q : ReadPhase} {answer : Answer} {wait : WaitPhase}

/-- The operation that the call makes next. -/
def asks : ReadPhase → Option Operation
  | .reading => some .readBytes
  | .waiting wait => wait.asks
  | .returned _ _ => none
  | _ => some .monotonicNow

theorem resume_isSome : (r.resume p answer).isSome = true ↔ asks p = some answer.operation := by
  cases p with
  | waiting wait =>
    rw [resume, Option.isSome_map, WaitPhase.resume_isSome]
    rfl
  | reading =>
    cases answer with
    | readBytes answer => cases answer <;> simp [resume, asks, Answer.operation]
    | _ => simp [resume, asks, Answer.operation]
  | beforeRead => cases answer <;> simp [resume, asks, Answer.operation, apply_ite Option.isSome]
  | _ => cases answer <;> simp [resume, asks, Answer.operation]

/-- The same with the arguments. -/
def calling (r : ReadRequest) : ReadPhase → Option IoCall
  | .reading => some (.readBytes r.fd r.capacity)
  | .waiting wait => wait.calling r.fd pollIn
  | .returned _ _ => none
  | _ => some .monotonicNow

theorem operation_of_calling (r : ReadRequest) (p : ReadPhase) :
    (r.calling p).map IoCall.operation = asks p := by
  cases p with
  | waiting wait => exact wait.operation_of_calling
  | _ => rfl

theorem descriptor_of_calling {call : IoCall} (h : r.calling p = some call) :
    call.descriptor = none ∨ call.descriptor = some r.fd := by
  cases p with
  | waiting wait => exact WaitPhase.descriptor_of_calling h
  | reading =>
    cases h
    exact .inr rfl
  | returned _ _ => cases h
  | beforeRead | completing _ | failing _ =>
    cases h
    exact .inl rfl

theorem capacity_of_calling {fd : Int} {capacity : Nat}
    (h : r.calling p = some (.readBytes fd capacity)) : capacity = r.capacity := by
  cases p with
  | waiting wait => cases wait <;> cases h
  | reading =>
    cases h
    rfl
  | _ => cases h

def procedure (r : ReadRequest) : Procedure ReadPhase Answer Operation where
  asks p := (r.calling p).map IoCall.operation
  question := Answer.operation
  resume := r.resume
  resume_isSome := by
    intro p answer
    rw [operation_of_calling]
    exact resume_isSome

def Late : ReadPhase → Prop
  | .beforeRead => True
  | .waiting wait => wait.Late
  | .returned _ _ => True
  | _ => False

theorem late_afterWait (h : wait.Late) : Late (afterWait wait) := by
  cases wait with
  | returned result =>
    simp only [afterWait]
    split <;> trivial
  | _ => exact h

theorem asks_afterWait {operation : Operation} (h : asks (afterWait wait) = some operation)
    (hother : operation ≠ .monotonicNow) : wait.asks = some operation := by
  cases wait with
  | returned result =>
    simp only [afterWait] at h
    split at h
    · exact absurd (Option.some.inj h).symm hother
    · cases h
  | _ => exact h

theorem late_of_reading {ns : Int} (h : r.resume p (.monotonicNow ns) = some q)
    (hlate : r.absoluteDeadlineNs ≤ ns) : Late q := by
  cases p with
  | beforeRead =>
    rw [resume, if_pos hlate] at h
    cases h
    trivial
  | waiting wait =>
    obtain ⟨wait', hwait, rfl⟩ := Option.map_eq_some_iff.mp h
    exact late_afterWait (WaitPhase.late_of_reading hwait hlate)
  | completing data | failing errorNumber =>
    cases h
    trivial
  | reading | returned _ _ => cases h

theorem asks_of_late {operation : Operation} (hp : Late p) (h : asks p = some operation) :
    operation = .monotonicNow := by
  cases p with
  | beforeRead => exact (Option.some.inj h).symm
  | waiting wait => exact WaitPhase.asks_of_late hp h
  | returned _ _ => cases h
  | reading | completing _ | failing _ => exact hp.elim

theorem over_of_late (hp : Late p) (h : r.resume p answer = some q)
    (hlate : r.absoluteDeadlineNs ≤ answer.ns) : asks q = none := by
  cases p with
  | beforeRead =>
    cases answer with
    | monotonicNow ns =>
      rw [resume, if_pos (show ns ≥ r.absoluteDeadlineNs from hlate)] at h
      cases h
      rfl
    | readBytes _ | pollOne _ => cases h
  | waiting wait =>
    obtain ⟨wait', hwait, rfl⟩ := Option.map_eq_some_iff.mp h
    obtain ⟨ns, rfl⟩ := WaitPhase.expires hp hwait hlate
    rfl
  | returned _ _ => cases h
  | reading | completing _ | failing _ => exact hp.elim

/-- A call reads or polls right after a reading of the clock. -/
theorem after_reading {operation : Operation} (h : r.resume p answer = some q)
    (hq : asks q = some operation) (hother : operation ≠ .monotonicNow) :
    answer.operation = .monotonicNow := by
  cases p with
  | waiting wait =>
    obtain ⟨wait', hwait, rfl⟩ := Option.map_eq_some_iff.mp h
    exact WaitPhase.after_reading hwait (asks_afterWait hq hother) hother
  | reading =>
    exfalso
    cases answer with
    | readBytes answer =>
      cases answer with
      | delivered data =>
        obtain rfl := Option.some.inj h
        split at hq <;> exact hother (Option.some.inj hq).symm
      | failed errorNumber =>
        obtain rfl := Option.some.inj h
        split_ifs at hq <;> exact hother (Option.some.inj hq).symm
    | monotonicNow _ | pollOne _ => cases h
  | beforeRead | completing _ | failing _ =>
    cases answer with
    | monotonicNow ns => rfl
    | readBytes _ | pollOne _ => cases h
  | returned _ _ => cases h

/-- A wait that is over is left at once, and success is reported in time. -/
def Prompt (r : ReadRequest) : ReadPhase → Prop
  | .waiting wait => wait.asks ≠ none
  | .returned result _ => result.status = .ok → result.completionMonotonicNs ≤ r.absoluteDeadlineNs
  | _ => True

theorem prompt_start : r.Prompt r.start := by
  unfold start
  split
  · exact fun h => by cases h
  · trivial

theorem prompt_afterWait : r.Prompt (afterWait wait) := by
  cases wait with
  | returned result =>
    simp only [afterWait]
    split
    · trivial
    · case isFalse hready =>
      intro hok
      exact absurd (decide_eq_true hok) hready
  | beforePoll | polling _ | afterPoll _ => simp [afterWait, Prompt, WaitPhase.asks]

theorem prompt_completion {data : List UInt8} {ns : Int}
    (h : (r.completion data ns).status = .ok) :
    (r.completion data ns).completionMonotonicNs ≤ r.absoluteDeadlineNs := by
  by_cases hfits : data.length > r.capacity
  · rw [completion, if_pos hfits] at h
    cases h
  · simp only [completion, if_neg hfits] at h ⊢
    split at h
    · cases h
    · omega

theorem prompt_resume (h : r.resume p answer = some q) : r.Prompt q := by
  cases p with
  | beforeRead =>
    cases answer with
    | monotonicNow ns =>
      simp only [resume] at h
      split at h <;> cases h
      · exact fun hok => by cases hok
      · trivial
    | readBytes _ | pollOne _ => cases h
  | reading =>
    cases answer with
    | readBytes answer =>
      cases answer with
      | delivered data =>
        obtain rfl := Option.some.inj h
        split <;> simp [Prompt, WaitPhase.asks]
      | failed errorNumber =>
        obtain rfl := Option.some.inj h
        split_ifs <;> simp [Prompt, WaitPhase.asks]
    | monotonicNow _ | pollOne _ => cases h
  | completing data =>
    cases answer with
    | monotonicNow ns =>
      obtain rfl := Option.some.inj h
      exact prompt_completion
    | readBytes _ | pollOne _ => cases h
  | waiting wait =>
    obtain ⟨wait', -, rfl⟩ := Option.map_eq_some_iff.mp h
    exact prompt_afterWait
  | failing errorNumber =>
    cases answer with
    | monotonicNow ns =>
      obtain rfl := Option.some.inj h
      intro hok
      dsimp only at hok
      split at hok <;> cases hok
    | readBytes _ | pollOne _ => cases h
  | returned _ _ => cases h

theorem prompt_run {answers : List Answer} (h : r.procedure.run r.start answers = some q) :
    r.Prompt q :=
  Procedure.run_invariant (fun _ hq => prompt_resume hq) prompt_start h

theorem returned_of_asks (hp : r.Prompt p) (h : asks p = none) :
    ∃ result data, p = .returned result data := by
  cases p with
  | returned result data => exact ⟨result, data, rfl⟩
  | waiting wait => exact absurd h hp
  | beforeRead | reading | completing _ | failing _ => cases h

theorem asks_start {operation : Operation} (h : asks r.start = some operation) :
    operation = .monotonicNow := by
  unfold start at h
  split at h
  · cases h
  · exact (Option.some.inj h).symm

def punctual (r : ReadRequest) :
    r.procedure.Punctual .monotonicNow Answer.ns r.absoluteDeadlineNs where
  late := Late
  late_of_reading {_ a _} h ha hlate := by
    cases a with
    | monotonicNow ns => exact late_of_reading h hlate
    | readBytes _ | pollOne _ => cases ha
  asks_of_late hp h := asks_of_late hp ((r.operation_of_calling _).symm.trans h)
  over_of_late hp h hlate := (r.operation_of_calling _).trans (over_of_late hp h hlate)
  after_reading h hq := after_reading h ((r.operation_of_calling _).symm.trans hq)

end ReadRequest

/-! ### Writing -/

def WriteReply.ns : WriteReply → Int
  | .monotonicNow ns => ns
  | _ => 0

namespace WriteRequest

variable {r : WriteRequest} {p q : WritePhase} {reply : WriteReply} {wait : WaitPhase}
  {transferred : Nat}

def Late : WritePhase → Prop
  | .beforeWrite _ => True
  | .concluding _ _ _ _ => True
  | .waiting _ wait => wait.Late
  | .returned _ => True
  | _ => False

theorem late_loop : Late (r.loop transferred) := by
  unfold loop
  split <;> trivial

theorem asks_loop : asks (r.loop transferred) = some .monotonicNow := by
  unfold loop
  split <;> rfl

theorem late_afterWait (h : wait.Late) : Late (r.afterWait transferred wait) := by
  cases wait with
  | returned result =>
    simp only [afterWait]
    split
    · exact late_loop
    · trivial
  | _ => exact h

theorem asks_afterWait {operation : Operation}
    (h : asks (r.afterWait transferred wait) = some operation)
    (hother : operation ≠ .monotonicNow) : wait.asks = some operation := by
  cases wait with
  | returned result =>
    simp only [afterWait] at h
    split at h
    · rw [asks_loop] at h
      exact absurd (Option.some.inj h).symm hother
    · cases h
  | _ => exact h

/-- The wait that a reply resumes. -/
theorem resume_waiting (h : r.resume (.waiting transferred wait) reply = some q) :
    ∃ answer wait', answer.operation = reply.operation ∧ answer.ns = reply.ns ∧
      wait.resume pollOut r.absoluteDeadlineNs answer = some wait' ∧
        q = r.afterWait transferred wait' := by
  cases reply with
  | monotonicNow ns =>
    obtain ⟨wait', hwait, rfl⟩ := Option.map_eq_some_iff.mp h
    exact ⟨_, wait', rfl, rfl, hwait, rfl⟩
  | pollOne answer =>
    obtain ⟨wait', hwait, rfl⟩ := Option.map_eq_some_iff.mp h
    exact ⟨_, wait', rfl, rfl, hwait, rfl⟩
  | writeBytes _ => cases h

theorem late_of_reading {ns : Int} (h : r.resume p (.monotonicNow ns) = some q)
    (hlate : r.absoluteDeadlineNs ≤ ns) : Late q := by
  cases p with
  | beforeWrite transferred =>
    rw [resume, if_pos hlate] at h
    cases h
    trivial
  | completing transferred =>
    rw [resume, if_pos hlate] at h
    cases h
    split <;> trivial
  | waiting transferred wait =>
    obtain ⟨wait', hwait, rfl⟩ := Option.map_eq_some_iff.mp h
    exact late_afterWait (WaitPhase.late_of_reading hwait hlate)
  | finishing | concluding _ _ _ _ =>
    cases h
    trivial
  | writing _ _ | returned _ => cases h

theorem asks_of_late {operation : Operation} (hp : Late p) (h : asks p = some operation) :
    operation = .monotonicNow := by
  cases p with
  | beforeWrite _ | concluding _ _ _ _ => exact (Option.some.inj h).symm
  | waiting _ wait => exact WaitPhase.asks_of_late hp h
  | returned _ => cases h
  | finishing | writing _ _ | completing _ => exact hp.elim

theorem over_of_late (hp : Late p) (h : r.resume p reply = some q)
    (hlate : r.absoluteDeadlineNs ≤ reply.ns) : asks q = none := by
  cases p with
  | beforeWrite transferred =>
    cases reply with
    | monotonicNow ns =>
      rw [resume, if_pos (show ns ≥ r.absoluteDeadlineNs from hlate)] at h
      cases h
      rfl
    | writeBytes _ | pollOne _ => cases h
  | concluding _ _ _ _ =>
    cases reply with
    | monotonicNow ns =>
      cases h
      rfl
    | writeBytes _ | pollOne _ => cases h
  | waiting transferred wait =>
    obtain ⟨answer, wait', -, hns, hwait, rfl⟩ := resume_waiting h
    rw [← hns] at hlate
    obtain ⟨ns, rfl⟩ := WaitPhase.expires hp hwait hlate
    rfl
  | returned _ => cases h
  | finishing | writing _ _ | completing _ => exact hp.elim

/-- A call writes or polls right after a reading of the clock. -/
theorem after_reading {operation : Operation} (h : r.resume p reply = some q)
    (hq : asks q = some operation) (hother : operation ≠ .monotonicNow) :
    reply.operation = .monotonicNow := by
  cases p with
  | waiting transferred wait =>
    obtain ⟨answer, wait', hanswer, -, hwait, rfl⟩ := resume_waiting h
    rw [← hanswer]
    exact WaitPhase.after_reading hwait (asks_afterWait hq hother) hother
  | writing transferred beforeWriteNs =>
    exfalso
    cases reply with
    | writeBytes answer =>
      obtain rfl := Option.some.inj h
      have hclock : asks (r.dispatch transferred beforeWriteNs answer) = none ∨
          asks (r.dispatch transferred beforeWriteNs answer) = some .monotonicNow := by
        cases answer with
        | accepted count =>
          cases count with
          | zero => exact .inr rfl
          | succ count =>
            simp only [dispatch]
            split
            · exact .inl rfl
            · exact .inr rfl
        | failed errorNumber =>
          simp only [dispatch]
          split_ifs
          · exact .inr asks_loop
          all_goals exact .inr rfl
      rcases hclock with hclock | hclock
      · rw [hclock] at hq
        cases hq
      · rw [hclock] at hq
        exact hother (Option.some.inj hq).symm
    | monotonicNow _ | pollOne _ => cases h
  | finishing | beforeWrite _ | completing _ | concluding _ _ _ _ =>
    cases reply with
    | monotonicNow ns => rfl
    | writeBytes _ | pollOne _ => cases h
  | returned _ => cases h

/-- A wait that is over is left at once, and success is reported in time. -/
def Prompt (r : WriteRequest) : WritePhase → Prop
  | .waiting _ wait => wait.asks ≠ none
  | .concluding status _ _ _ => status ≠ .ok
  | .returned result => result.status = .ok → result.completionMonotonicNs ≤ r.absoluteDeadlineNs
  | _ => True

theorem prompt_loop : r.Prompt (r.loop transferred) := by
  unfold loop
  split
  · trivial
  · simp [Prompt]

theorem prompt_start : r.Prompt r.start := by
  unfold start
  split
  · exact fun h => by cases h
  · split <;> trivial

theorem prompt_afterWait : r.Prompt (r.afterWait transferred wait) := by
  cases wait with
  | returned result =>
    simp only [afterWait]
    split
    · exact prompt_loop
    · case isFalse hready =>
      intro hok
      exact absurd (decide_eq_true hok) hready
  | beforePoll | polling _ | afterPoll _ => simp [afterWait, Prompt, WaitPhase.asks]

theorem prompt_dispatch {beforeWriteNs : Int} {answer : WriteAnswer} :
    r.Prompt (r.dispatch transferred beforeWriteNs answer) := by
  cases answer with
  | accepted count =>
    cases count with
    | zero => simp [dispatch, Prompt]
    | succ count =>
      simp only [dispatch]
      split
      · exact fun hok => by cases hok
      · trivial
  | failed errorNumber =>
    simp only [dispatch]
    split
    · exact prompt_loop
    · split
      · simp [Prompt, WaitPhase.asks]
      · simp only [Prompt]
        split <;> simp

theorem prompt_completion {ns : Int} (h : (r.completion transferred ns).status = .ok) :
    (r.completion transferred ns).completionMonotonicNs ≤ r.absoluteDeadlineNs := by
  simp only [completion] at h ⊢
  split at h
  · cases h
  · omega

theorem prompt_resume (hp : r.Prompt p) (h : r.resume p reply = some q) : r.Prompt q := by
  cases p with
  | finishing =>
    cases reply with
    | monotonicNow ns =>
      obtain rfl := Option.some.inj h
      exact prompt_completion
    | writeBytes _ | pollOne _ => cases h
  | beforeWrite transferred =>
    cases reply with
    | monotonicNow ns =>
      obtain rfl := Option.some.inj h
      split
      · exact fun hok => by cases hok
      · trivial
    | writeBytes _ | pollOne _ => cases h
  | writing transferred beforeWriteNs =>
    cases reply with
    | writeBytes answer =>
      obtain rfl := Option.some.inj h
      exact prompt_dispatch
    | monotonicNow _ | pollOne _ => cases h
  | completing transferred =>
    cases reply with
    | monotonicNow ns =>
      obtain rfl := Option.some.inj h
      split
      · exact prompt_completion
      · split
        · exact fun hok => by cases hok
        · exact prompt_loop
    | writeBytes _ | pollOne _ => cases h
  | waiting transferred wait =>
    obtain ⟨answer, wait', -, -, -, rfl⟩ := resume_waiting h
    exact prompt_afterWait
  | concluding status transferred osError outcomeUncertain =>
    cases reply with
    | monotonicNow ns =>
      obtain rfl := Option.some.inj h
      exact fun hok => absurd hok hp
    | writeBytes _ | pollOne _ => cases h
  | returned _ => cases h

theorem prompt_run {replies : List WriteReply} (h : r.procedure.run r.start replies = some q) :
    r.Prompt q :=
  Procedure.run_invariant prompt_resume prompt_start h

theorem returned_of_asks (hp : r.Prompt p) (h : asks p = none) :
    ∃ result, p = .returned result := by
  cases p with
  | returned result => exact ⟨result, rfl⟩
  | waiting _ wait => exact absurd h hp
  | finishing | beforeWrite _ | writing _ _ | completing _ | concluding _ _ _ _ => cases h

theorem asks_start {operation : Operation} (h : asks r.start = some operation) :
    operation = .monotonicNow := by
  unfold start at h
  split at h
  · cases h
  · split at h <;> exact (Option.some.inj h).symm

def punctual (r : WriteRequest) :
    r.procedure.Punctual .monotonicNow WriteReply.ns r.absoluteDeadlineNs where
  late := Late
  late_of_reading {_ a _} h ha hlate := by
    cases a with
    | monotonicNow ns => exact late_of_reading h hlate
    | writeBytes _ | pollOne _ => cases ha
  asks_of_late hp h := asks_of_late hp ((r.operation_of_calling _).symm.trans h)
  over_of_late hp h hlate := (r.operation_of_calling _).trans (over_of_late hp h hlate)
  after_reading h hq := after_reading h ((r.operation_of_calling _).symm.trans hq)

end WriteRequest

/-! ### Calls -/

/-- A call that keeps to its deadline, whatever its operations come back with. -/
structure DeadlineBounded (M : Procedure P A Operation) (start : P) (time : A → Int)
    (deadline : Int) (call : List A → Option IoResult) : Prop where
  /-- After a reading past the deadline nothing else is called, and the clock is read once more at
  most. -/
  quiet : M.run start (earlier ++ a :: later) = some p → M.question a = .monotonicNow →
    deadline ≤ time a → M.Nondecreasing .monotonicNow time (earlier ++ a :: later) →
      later.length ≤ 1 ∧ ∀ b ∈ later, M.question b = .monotonicNow
  returns (script : M.Script) :
    Monotone (fun i => time (script.answer .monotonicNow i)) →
      deadline ≤ time (script.answer .monotonicNow n) →
        ∃ answers result, script.Supplies answers ∧ call answers = some result
  /-- Reading `n` has `n` readings before it. -/
  others_le (script : M.Script) :
    Monotone (fun i => time (script.answer .monotonicNow i)) →
      deadline ≤ time (script.answer .monotonicNow n) → script.Supplies answers →
        M.run start answers = some p → M.others .monotonicNow answers ≤ n
  inTime : call answers = some result → result.status = .ok →
    result.completionMonotonicNs ≤ deadline

/-- Code that reads the clock first and concludes in time keeps to its deadline. -/
theorem Trace.Procedure.Punctual.deadlineBounded {M : Procedure P A Operation} {start : P}
    {time : A → Int} {deadline : Int} {call : List A → Option IoResult}
    (h : M.Punctual .monotonicNow time deadline)
    (hstart : ∀ operation, M.asks start = some operation → operation = .monotonicNow)
    (hcall : ∀ {answers p}, M.run start answers = some p → M.asks p = none →
      ∃ result, call answers = some result)
    (hinTime : ∀ {answers result}, call answers = some result → result.status = .ok →
      result.completionMonotonicNs ≤ deadline) :
    DeadlineBounded M start time deadline call where
  quiet run ha hlate hclock :=
    have hquiet := h.quiet hlate ha (hclock.late ha hlate) run
    ⟨hquiet.1, hquiet.2.1⟩
  returns script hmono hn := by
    obtain ⟨⟨answers, p, hsupplies, run, hover⟩, -⟩ := script.returns h hstart hmono hn
    obtain ⟨result, hresult⟩ := hcall run hover
    exact ⟨answers, result, hsupplies, hresult⟩
  others_le script hmono hn := (script.returns h hstart hmono hn).2 _ _
  inTime := hinTime

theorem WriteRequest.deadlineBounded (r : WriteRequest) :
    DeadlineBounded r.procedure r.start WriteReply.ns r.absoluteDeadlineNs
      (writeAllWithOperations r) := by
  refine r.punctual.deadlineBounded
    (fun _ h => asks_start ((r.operation_of_calling _).symm.trans h)) (fun run hover => ?_)
    (fun h => ?_)
  · obtain ⟨result, rfl⟩ :=
      returned_of_asks (prompt_run run) ((r.operation_of_calling _).symm.trans hover)
    exact ⟨result, by rw [writeAllWithOperations, run]⟩
  · exact prompt_run (run_of_writeAll h)

theorem ReadRequest.deadlineBounded (r : ReadRequest) :
    DeadlineBounded r.procedure r.start Answer.ns r.absoluteDeadlineNs fun answers =>
      (readSomeWithOperations r answers).map Prod.fst := by
  refine r.punctual.deadlineBounded
    (fun _ h => asks_start ((r.operation_of_calling _).symm.trans h)) (fun run hover => ?_)
    (fun h => ?_)
  · obtain ⟨result, data, rfl⟩ :=
      returned_of_asks (prompt_run run) ((r.operation_of_calling _).symm.trans hover)
    exact ⟨result, by rw [readSomeWithOperations, show r.run r.start _ = _ from run]; rfl⟩
  · obtain ⟨⟨result, data⟩, hread, rfl⟩ := Option.map_eq_some_iff.mp h
    exact prompt_run (run_of_readSome hread)

/-- Both data calls keep to their deadline. -/
theorem operations_deadlineBounded :
    (∀ r : WriteRequest, DeadlineBounded r.procedure r.start WriteReply.ns r.absoluteDeadlineNs
      (writeAllWithOperations r)) ∧
    ∀ r : ReadRequest, DeadlineBounded r.procedure r.start Answer.ns r.absoluteDeadlineNs
      fun answers => (readSomeWithOperations r answers).map Prod.fst :=
  ⟨WriteRequest.deadlineBounded, ReadRequest.deadlineBounded⟩

end WheeltecVcuSerial
