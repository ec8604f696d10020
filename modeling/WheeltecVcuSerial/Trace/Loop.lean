import WheeltecVcuSerial.Trace.Machine
import WheeltecVcuSerial.Trace.Program

universe u

namespace WheeltecVcuSerial.Trace.Program

variable {ε σ τ α β : Type u}

/-- So many rounds at most: each leaves where to go on, or ends the loop with a result. -/
def rounds (body : σ → Program ε (σ ⊕ α)) : ℕ → σ → Program ε α
  | 0, _ => failure
  | n + 1, s => do
    match ← body s with
    | .inl s => rounds body n s
    | .inr a => return a

/-- A loop that calls out in each of its rounds, so that it has no more of them than calls. -/
def loop (body : σ → Program ε (σ ⊕ α)) (s : σ) : Program ε α :=
  fun trace => rounds body (trace.length + 1) s trace

/-- Where the code returns, `post` holds of what it returns and of the calls that it has made. -/
def Makes (m : Program ε α) (post : α → List ε → Prop) : Prop :=
  ∀ trace a rest, m trace = some (a, rest) → ∃ made, trace = made ++ rest ∧ post a made

variable {m m' : Program ε α} {post : α → List ε → Prop} {s : σ}
  {body : σ → Program ε (σ ⊕ α)} {answer : ε → Option α}

namespace Makes

theorem pure {a : α} (h : post a []) : Makes (Pure.pure a) post := by
  intro trace b rest hreturns
  cases hreturns
  exact ⟨[], rfl, h⟩

theorem failure : Makes (failure : Program ε α) post := by
  intro trace a rest hreturns
  cases hreturns

theorem bind {f : α → Program ε β} {mid : α → List ε → Prop} {post : β → List ε → Prop}
    (hm : Makes m mid)
    (hf : ∀ a made, mid a made → Makes (f a) fun b more => post b (made ++ more)) :
    Makes (m >>= f) post := by
  intro trace b rest hreturns
  obtain ⟨⟨a, between⟩, hfirst, hsecond⟩ := Option.bind_eq_some_iff.mp hreturns
  obtain ⟨made, rfl, hmid⟩ := hm trace a between hfirst
  obtain ⟨more, rfl, hpost⟩ := hf a made hmid between b rest hsecond
  exact ⟨made ++ more, (List.append_assoc ..).symm, hpost⟩

theorem weaken {post' : α → List ε → Prop} (h : Makes m post)
    (hpost : ∀ a made, post a made → post' a made) : Makes m post' := by
  intro trace a rest hreturns
  obtain ⟨made, htrace, ha⟩ := h trace a rest hreturns
  exact ⟨made, htrace, hpost a made ha⟩

theorem ite {c : Prop} [Decidable c] (hpos : c → Makes m post) (hneg : ¬c → Makes m' post) :
    Makes (if c then m else m') post := by
  by_cases h : c
  · rw [if_pos h]
    exact hpos h
  · rw [if_neg h]
    exact hneg h

theorem call (h : ∀ e a, answer e = some a → post a [e]) : Makes (call answer) post := by
  intro trace a rest hreturns
  cases trace with
  | nil => cases hreturns
  | cons e trace =>
    obtain ⟨a, ha, heq⟩ := Option.map_eq_some_iff.mp hreturns
    cases heq
    exact ⟨[e], rfl, h e a ha⟩

/-- A call that is made again: nothing but interrupted calls stand before the last one. -/
theorem retry {interrupted : α → Bool}
    (h : ∀ again e a, (∀ x ∈ again, ∃ b, answer x = some b ∧ interrupted b = true) →
      answer e = some a → interrupted a = false → post a (again ++ [e])) :
    Makes (retry answer interrupted) post := by
  intro trace a rest hreturns
  suffices ∃ again e, trace = again ++ e :: rest ∧
      (∀ x ∈ again, ∃ b, answer x = some b ∧ interrupted b = true) ∧ answer e = some a ∧
        interrupted a = false by
    obtain ⟨again, e, rfl, hagain, ha, hlast⟩ := this
    exact ⟨again ++ [e], by simp, h again e a hagain ha hlast⟩
  induction trace with
  | nil => cases hreturns
  | cons e trace ih =>
    rw [Program.retry] at hreturns
    split at hreturns
    · cases hreturns
    · case h_2 b hb =>
      split at hreturns
      · case isTrue hinterrupted =>
        obtain ⟨again, e', rfl, hagain, hlast⟩ := ih hreturns
        exact ⟨e :: again, e', rfl, List.forall_mem_cons.mpr ⟨⟨b, hb, hinterrupted⟩, hagain⟩, hlast⟩
      · case isFalse hlast =>
        cases hreturns
        exact ⟨[], e, rfl, by simp, hb, Bool.eq_false_iff.mpr hlast⟩

/-- The rule for loops: an invariant that every round keeps, and that a last round turns into the
postcondition. -/
theorem loop {I : σ → List ε → Prop} (hstart : I s [])
    (hbody : ∀ s made, I s made →
      Makes (body s) fun next more => next.elim (I · (made ++ more)) (post · (made ++ more))) :
    Makes (loop body s) post := by
  suffices ∀ n s made, I s made →
      Makes (rounds body n s) fun a more => post a (made ++ more) from
    fun trace => this (trace.length + 1) s [] hstart trace
  intro n
  induction n with
  | zero => exact fun _ _ _ => failure
  | succ n ih =>
    intro s made hI
    refine bind (hbody s made hI) fun next more hnext => ?_
    simp only [← List.append_assoc]
    cases next with
    | inl s => exact ih s _ hnext
    | inr a => exact pure (by simpa using hnext)

/-- What the code makes of its calls, where it is checked against a trace of its own. -/
theorem made {made : List ε} {a : α} (hm : Makes m post) (hreturns : m made = some (a, [])) :
    post a made := by
  obtain ⟨_, rfl, hpost⟩ := hm _ _ _ hreturns
  rwa [List.append_nil]

end Makes

/-! ### Rounds -/

/-- The rounds of a loop from outside, each labelled with what it has called. -/
def roundMachine (body : σ → Program ε (σ ⊕ α)) (start : σ) : Machine (σ ⊕ α) (List ε) where
  init next := next = .inl start
  step next made next' := ∃ s, next = .inl s ∧ body s made = some (next', [])

/-- What the steps of a history have called, in order. -/
def called (h : List (List ε)) : List ε := h.reverse.flatten

@[simp] theorem called_cons (made : List ε) (h : List (List ε)) :
    called (made :: h) = called h ++ made := by
  simp [called]

/-- The rule for the rounds of a loop, be it over or not. -/
theorem Makes.roundMachine {I : σ → List ε → Prop} {h : List (List ε)} {next : σ ⊕ α}
    (hstart : I s [])
    (hbody : ∀ s made, I s made →
      Makes (body s) fun next more => next.elim (I · (made ++ more)) (post · (made ++ more)))
    (run : (roundMachine body s).Run h next) :
    next.elim (I · (called h)) (post · (called h)) := by
  refine run.invariant (P := fun h next => next.elim (I · (called h)) (post · (called h))) ?_ ?_
  · rintro _ rfl
    exact hstart
  · rintro h _ made next - hI ⟨s, rfl, hreturns⟩
    rw [called_cons]
    exact (hbody s _ hI).made hreturns

/-- Where the rounds of a loop lead that make these calls and no others. -/
def follows (body : σ → Program ε (σ ⊕ α)) : σ ⊕ α → List (List ε) → Option (σ ⊕ α)
  | next, [] => some next
  | .inl s, made :: later =>
    match body s made with
    | some (next, []) => follows body next later
    | _ => none
  | .inr _, _ :: _ => none

theorem run_of_follows {start : σ} {next : σ ⊕ α} {traces : List (List ε)}
    (h : follows body (.inl start) traces = some next) :
    (roundMachine body start).Run traces.reverse next := by
  suffices ∀ before at', (roundMachine body start).Run before at' →
      follows body at' traces = some next →
      (roundMachine body start).Run (traces.reverse ++ before) next by
    simpa using this [] _ (.start rfl) h
  clear h
  induction traces with
  | nil =>
    rintro before _ run ⟨⟩
    exact run
  | cons made traces ih =>
    intro before at' run hfollows
    rw [List.reverse_cons, List.append_assoc]
    cases at' with
    | inr a => cases hfollows
    | inl s =>
      rw [follows] at hfollows
      split at hfollows
      · case h_1 next' hreturns => exact ih _ next' (run.next ⟨s, rfl, hreturns⟩) hfollows
      · cases hfollows

end WheeltecVcuSerial.Trace.Program
