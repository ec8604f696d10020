import WheeltecVcuSerial.Trace.Procedure

universe u v w

namespace WheeltecVcuSerial.Trace

/-- Code that is checked against the trace of its calls: what it calls it takes from the front. -/
abbrev Program (ε : Type u) := StateT (List ε) Option

namespace Program

/-- A call, which comes back with what the trace says. -/
def call (answer : ε → Option α) : Program ε α
  | [] => none
  | e :: trace => (answer e).map (·, trace)

/-- A call that is made again as often as it is interrupted. -/
def retry (answer : ε → Option α) (interrupted : α → Bool) : Program ε α
  | [] => none
  | e :: trace =>
    match answer e with
    | none => none
    | some a => if interrupted a then retry answer interrupted trace else some (a, trace)

/-- The calls of a procedure, up to where it asks no more; the point at which it calls out says what
is an answer. -/
def follow (M : Procedure P A Q) (answer : P → ε → Option A) (p : P) : Program ε P
  | [] => if (M.asks p).isNone then some (p, []) else none
  | e :: trace =>
    if (M.asks p).isNone then some (p, e :: trace)
    else
      match (answer p e).bind (M.resume p) with
      | none => none
      | some q => follow M answer q trace

/-- From `s` the monitor goes along with all that is called, and `post` holds where the code
returns. -/
def Triple (monitor : σ → ε → Option σ) (s : σ) (m : Program ε α) (post : α → σ → Prop) : Prop :=
  ∀ trace a rest, m trace = some (a, rest) →
    ∃ made t, trace = made ++ rest ∧ made.foldlM monitor s = some t ∧ post a t

variable {monitor : σ → ε → Option σ} {s : σ} {m : Program ε α} {post : α → σ → Prop}
  {answer : ε → Option α}

theorem Triple.pure (h : post a s) : Triple monitor s (Pure.pure a) post := by
  intro trace b rest hreturns
  cases hreturns
  exact ⟨[], s, rfl, rfl, h⟩

theorem Triple.failure : Triple monitor s (failure : Program ε α) post := by
  intro trace a rest hreturns
  cases hreturns

theorem Triple.bind {f : α → Program ε β} {post : β → σ → Prop} {mid : α → σ → Prop}
    (hm : Triple monitor s m mid) (hf : ∀ a t, mid a t → Triple monitor t (f a) post) :
    Triple monitor s (m >>= f) post := by
  intro trace b rest hreturns
  obtain ⟨⟨a, between⟩, hfirst, hsecond⟩ := Option.bind_eq_some_iff.mp hreturns
  obtain ⟨made, t, rfl, hmade, hmid⟩ := hm trace a between hfirst
  obtain ⟨more, u, rfl, hmore, hpost⟩ := hf a t hmid between b rest hsecond
  refine ⟨made ++ more, u, (List.append_assoc ..).symm, ?_, hpost⟩
  rw [List.foldlM_append, hmade]
  exact hmore

theorem Triple.weaken {post' : α → σ → Prop} (h : Triple monitor s m post)
    (hpost : ∀ a t, post a t → post' a t) : Triple monitor s m post' := by
  intro trace a rest hreturns
  obtain ⟨made, t, htrace, hmade, ha⟩ := h trace a rest hreturns
  exact ⟨made, t, htrace, hmade, hpost a t ha⟩

theorem Triple.ite {c : Prop} [Decidable c] {m' : Program ε α}
    (hpos : c → Triple monitor s m post) (hneg : ¬c → Triple monitor s m' post) :
    Triple monitor s (if c then m else m') post := by
  by_cases h : c
  · rw [if_pos h]
    exact hpos h
  · rw [if_neg h]
    exact hneg h

theorem Triple.call (h : ∀ e a, answer e = some a → ∃ t, monitor s e = some t ∧ post a t) :
    Triple monitor s (call answer) post := by
  intro trace a rest hreturns
  cases trace with
  | nil => cases hreturns
  | cons e trace =>
    obtain ⟨a, ha, heq⟩ := Option.map_eq_some_iff.mp hreturns
    cases heq
    obtain ⟨t, ht, hpost⟩ := h e a ha
    exact ⟨[e], t, rfl, by simp [ht], hpost⟩

/-- Interrupted calls that leave the monitor where it is. -/
theorem Triple.retry {interrupted : α → Bool}
    (hagain : ∀ e a, answer e = some a → interrupted a = true → monitor s e = some s)
    (hlast : ∀ e a, answer e = some a → interrupted a = false →
      ∃ t, monitor s e = some t ∧ post a t) :
    Triple monitor s (retry answer interrupted) post := by
  intro trace a rest hreturns
  induction trace with
  | nil => cases hreturns
  | cons e trace ih =>
    rw [Program.retry] at hreturns
    split at hreturns
    · cases hreturns
    · case h_2 a' ha =>
      split at hreturns
      · case isTrue hinterrupted =>
        obtain ⟨made, t, rfl, hmade, hpost⟩ := ih hreturns
        refine ⟨e :: made, t, rfl, ?_, hpost⟩
        rw [List.foldlM_cons, hagain e a' ha hinterrupted]
        exact hmade
      · case isFalse hinterrupted =>
        cases hreturns
        obtain ⟨t, ht, hpost⟩ := hlast e a ha (Bool.eq_false_iff.mpr hinterrupted)
        exact ⟨[e], t, rfl, by simp [ht], hpost⟩

/-- What is followed is a run of the procedure, call by call. -/
theorem follow_run {M : Procedure P A Q} {answer : P → ε → Option A} {p q : P}
    {trace rest : List ε} (h : follow M answer p trace = some (q, rest)) :
    M.asks q = none ∧ ∃ made answers, trace = made ++ rest ∧
      List.Forall₂ (fun call e => answer call.1 e = some call.2) (M.calls p answers) made ∧
        M.run p answers = some q := by
  induction trace generalizing p with
  | nil =>
    rw [follow] at h
    split at h
    · case isTrue hover =>
      cases h
      exact ⟨Option.isNone_iff_eq_none.mp hover, [], [], rfl, .nil, rfl⟩
    · cases h
  | cons e trace ih =>
    rw [follow] at h
    split at h
    · case isTrue hover =>
      cases h
      exact ⟨Option.isNone_iff_eq_none.mp hover, [], [], rfl, .nil, rfl⟩
    · split at h
      · cases h
      · case h_2 r hr =>
        obtain ⟨a, ha, hr⟩ := Option.bind_eq_some_iff.mp hr
        obtain ⟨hover, made, answers, rfl, hcalls, hrun⟩ := ih h
        refine ⟨hover, e :: made, a :: answers, rfl, ?_, Procedure.run_cons.mpr ⟨r, hr, hrun⟩⟩
        rw [Procedure.calls, hr]
        exact .cons ha hcalls

/-- A procedure whose calls leave the monitor where it is. -/
theorem Triple.follow {M : Procedure P A Q} {answer : P → ε → Option A} {p : P}
    (hquiet : ∀ p e a, answer p e = some a → monitor s e = some s) :
    Triple monitor s (follow M answer p) fun _ t => t = s := by
  intro trace q rest hreturns
  obtain ⟨-, made, answers, rfl, hcalls, -⟩ := follow_run hreturns
  refine ⟨made, s, rfl, ?_, rfl⟩
  clear hreturns
  generalize M.calls p answers = calls at hcalls
  induction hcalls with
  | nil => rfl
  | cons ha _ ih =>
    rw [List.foldlM_cons, hquiet _ _ _ ha]
    exact ih

end Program

end WheeltecVcuSerial.Trace
