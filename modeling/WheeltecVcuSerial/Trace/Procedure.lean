import Mathlib.Data.List.Induction
import Mathlib.Order.Lattice
import Mathlib.Order.Nat
import Mathlib.Order.Monotone.Defs

universe u v w x

namespace WheeltecVcuSerial.Trace

/-- Code that stops wherever it calls out, and goes on with the answer to its question. -/
structure Procedure (P : Type u) (A : Type v) (Q : Type w) where
  asks : P → Option Q
  question : A → Q
  resume : P → A → Option P
  resume_isSome : (resume p a).isSome = true ↔ asks p = some (question a)

namespace Procedure

variable (M : Procedure P A Q)

def run (p : P) (answers : List A) : Option P := answers.foldlM M.resume p

/-- The points at which a run calls out, each with the answer that it gets there. -/
def calls (p : P) : List A → List (P × A)
  | [] => []
  | a :: answers => (p, a) :: (M.resume p a).elim [] fun q => calls q answers

/-- Answers of unlimited supply, in an order for each question. -/
structure Script where
  answer : Q → ℕ → A
  question_answer : M.question (answer k n) = k

/-- Code that reads a clock before anything else it calls, and gives up past a deadline. -/
structure Punctual [LinearOrder τ] (clock : Q) (time : A → τ) (deadline : τ) where
  late : P → Prop
  late_of_reading : M.resume p a = some q → M.question a = clock → deadline ≤ time a → late q
  asks_of_late : late p → M.asks p = some k → k = clock
  over_of_late : late p → M.resume p a = some q → deadline ≤ time a → M.asks q = none
  after_reading : M.resume p a = some q → M.asks q = some k → k ≠ clock → M.question a = clock

variable {M} {p q : P} {a : A} {answers earlier later : List A}

theorem asks_of_resume (h : M.resume p a = some q) : M.asks p = some (M.question a) :=
  M.resume_isSome.mp (Option.isSome_of_eq_some h)

theorem resume_of_asks (h : M.asks p = some (M.question a)) : ∃ q, M.resume p a = some q :=
  Option.isSome_iff_exists.mp (M.resume_isSome.mpr h)

theorem run_cons : M.run p (a :: answers) = some q ↔
    ∃ r, M.resume p a = some r ∧ M.run r answers = some q :=
  Option.bind_eq_some_iff

theorem run_append : M.run p (earlier ++ later) = some q ↔
    ∃ r, M.run p earlier = some r ∧ M.run r later = some q := by
  rw [run, List.foldlM_append]
  exact Option.bind_eq_some_iff

theorem run_concat : M.run p (answers ++ [a]) = some q ↔
    ∃ r, M.run p answers = some r ∧ M.resume r a = some q := by
  rw [run_append]
  simp [run]

/-- The answers of a run are all there in its calls. -/
theorem calls_answers (run : M.run p answers = some q) :
    (M.calls p answers).map Prod.snd = answers := by
  induction answers generalizing p with
  | nil => rfl
  | cons a answers ih =>
    obtain ⟨r, hr, hrest⟩ := run_cons.mp run
    rw [calls, hr, List.map_cons]
    exact congrArg _ (ih hrest)

/-- Code that asks nothing is over. -/
theorem run_over (h : M.asks p = none) (run : M.run p answers = some q) : answers = [] ∧ q = p := by
  cases answers with
  | nil => exact ⟨rfl, (Option.some.inj run).symm⟩
  | cons a answers =>
    obtain ⟨r, hr, -⟩ := run_cons.mp run
    rw [asks_of_resume hr] at h
    cases h

theorem run_invariant {I : P → Prop} (hstep : ∀ {p a q}, I p → M.resume p a = some q → I q)
    (hstart : I p) (run : M.run p answers = some q) : I q := by
  induction answers generalizing p with
  | nil =>
    obtain rfl := Option.some.inj run
    exact hstart
  | cons a answers ih =>
    obtain ⟨r, hr, hrest⟩ := run_cons.mp run
    exact ih (hstep hstart hr) hrest

/-- The rule for runs whose calls are all `fine`: an invariant of what was called so far. -/
theorem calls_invariant {I : List (P × A) → P → Prop} {fine : P × A → Prop}
    (hstep : ∀ {h p a q}, I h p → fine (p, a) → M.resume p a = some q → I (h ++ [(p, a)]) q)
    {h : List (P × A)} (hstart : I h p) (hfine : ∀ call ∈ M.calls p answers, fine call)
    (run : M.run p answers = some q) : I (h ++ M.calls p answers) q := by
  induction answers generalizing h p with
  | nil =>
    obtain rfl := Option.some.inj run
    rw [calls, List.append_nil]
    exact hstart
  | cons a answers ih =>
    obtain ⟨r, hr, hrest⟩ := run_cons.mp run
    rw [calls, hr, Option.elim_some] at hfine ⊢
    rw [List.forall_mem_cons] at hfine
    rw [List.append_cons]
    exact ih (hstep hstart hfine.1 hr) hfine.2 hrest

/-! ### Deadlines -/

variable {τ : Type x} [LinearOrder τ] {clock : Q} {time : A → τ} {deadline : τ}

/-- After a reading past the deadline the clock is read once more at most. -/
theorem Punctual.quiet (h : M.Punctual clock time deadline) (hlate : deadline ≤ time a)
    (ha : M.question a = clock) (hlater : ∀ b ∈ later, M.question b = clock → deadline ≤ time b)
    (run : M.run p (earlier ++ a :: later) = some q) :
    later.length ≤ 1 ∧ (∀ b ∈ later, M.question b = clock) ∧
      (M.asks q = none ∨ later = [] ∧ h.late q) := by
  obtain ⟨r, -, hrest⟩ := run_append.mp run
  obtain ⟨r', hr', hrest⟩ := run_cons.mp hrest
  have hr'late := h.late_of_reading hr' ha hlate
  cases later with
  | nil =>
    obtain rfl := Option.some.inj hrest
    exact ⟨Nat.zero_le 1, by simp, .inr ⟨rfl, hr'late⟩⟩
  | cons b later =>
    obtain ⟨r'', hr'', hrest⟩ := run_cons.mp hrest
    have hb := h.asks_of_late hr'late (asks_of_resume hr'')
    have hover := h.over_of_late hr'late hr'' (hlater b List.mem_cons_self hb)
    obtain ⟨rfl, rfl⟩ := run_over hover hrest
    exact ⟨le_rfl, by simpa using hb, .inl hover⟩

variable [DecidableEq Q]

/-- The clock never goes back. -/
def Nondecreasing (M : Procedure P A Q) (clock : Q) (time : A → τ) (answers : List A) : Prop :=
  (answers.filter (M.question · = clock)).Pairwise (time · ≤ time ·)

theorem Nondecreasing.late (h : M.Nondecreasing clock time (earlier ++ a :: later))
    (ha : M.question a = clock) (hlate : deadline ≤ time a) :
    ∀ b ∈ later, M.question b = clock → deadline ≤ time b := by
  intro b hb hclock
  rw [Nondecreasing, List.filter_append, List.filter_cons_of_pos (by simpa)] at h
  have hle := (List.pairwise_cons.mp (List.pairwise_append.mp h).2.1).1 b
    (List.mem_filter.mpr ⟨hb, by simpa⟩)
  exact hlate.trans hle

/-- The calls for anything but the time. -/
def others (M : Procedure P A Q) (clock : Q) (answers : List A) : ℕ :=
  answers.countP (M.question · ≠ clock)

/-- The readings of the clock before the deadline. -/
def early (M : Procedure P A Q) (clock : Q) (time : A → τ) (deadline : τ) (answers : List A) : ℕ :=
  answers.countP fun a => M.question a = clock ∧ time a < deadline

theorem others_concat : M.others clock (answers ++ [a]) =
    M.others clock answers + if M.question a = clock then 0 else 1 := by
  rw [others, others, List.countP_append, List.countP_singleton]
  by_cases ha : M.question a = clock <;> simp [ha]

theorem early_concat : M.early clock time deadline (answers ++ [a]) =
    M.early clock time deadline answers +
      if M.question a = clock ∧ time a < deadline then 1 else 0 := by
  rw [early, early, List.countP_append, List.countP_singleton]
  simp only [decide_eq_true_eq]

/-- Every call for something else comes right after a reading before the deadline. -/
theorem Punctual.others_le_early (h : M.Punctual clock time deadline)
    (hstart : ∀ k, M.asks p = some k → k = clock) (run : M.run p answers = some q) :
    M.others clock answers + (if ∃ k, M.asks q = some k ∧ k ≠ clock then 1 else 0) ≤
      M.early clock time deadline answers := by
  induction answers using List.reverseRecOn generalizing q with
  | nil =>
    obtain rfl := Option.some.inj run
    rw [if_neg]
    · exact le_rfl
    · rintro ⟨k, hk, hne⟩
      exact hne (hstart k hk)
  | append_singleton answers a ih =>
    obtain ⟨r, hr, hq⟩ := run_concat.mp run
    have hbefore := ih hr
    have hnext : (∃ k, M.asks q = some k ∧ k ≠ clock) →
        M.question a = clock ∧ time a < deadline := by
      rintro ⟨k, hk, hne⟩
      have ha := h.after_reading hq hk hne
      refine ⟨ha, lt_of_not_ge fun hlate => hne ?_⟩
      exact h.asks_of_late (h.late_of_reading hq ha hlate) hk
    rw [others_concat, early_concat]
    by_cases ha : M.question a = clock
    · rw [if_pos ha]
      split
      · case isTrue hother =>
        rw [if_pos (hnext hother)]
        omega
      · omega
    · rw [if_pos ⟨_, asks_of_resume hq, ha⟩] at hbefore
      rw [if_neg ha, if_neg (fun hother => ha (hnext hother).1)]
      omega

/-! ### Scripts -/

namespace Script

variable (script : M.Script)

/-- Answers that come from the script, those to each question in its order. -/
def Supplies (answers : List A) : Prop :=
  ∀ k, answers.filter (M.question · = k) =
    (List.range (answers.countP (M.question · = k))).map (script.answer k)

variable {script}

theorem Supplies.nil : script.Supplies [] := fun _ => rfl

theorem Supplies.concat (h : script.Supplies answers) (k : Q) :
    script.Supplies (answers ++
      [script.answer k (answers.countP (M.question · = k))]) := by
  intro k'
  by_cases hk : k' = k
  · subst hk
    simp [List.filter_append, List.countP_append, script.question_answer, h k', List.range_succ]
  · have hne : ¬ k = k' := fun heq => hk heq.symm
    simp [List.filter_append, List.countP_append, script.question_answer, h k', hne]

theorem countP_range_le (bound n : ℕ) {early : ℕ → Bool} (h : ∀ i, early i = true → i < bound) :
    (List.range n).countP early ≤ bound := by
  have hle : (List.range n).countP early ≤ min n bound := by
    induction n with
    | zero => simp
    | succ n ih =>
      rw [List.range_succ, List.countP_append, List.countP_singleton]
      split
      · case isTrue hearly =>
        have := h n hearly
        omega
      · omega
  omega

/-- A script whose clock reaches the deadline with reading `n` has `n` readings before it. -/
theorem Supplies.early_le {n : ℕ}
    (h : script.Supplies answers) (hmono : Monotone fun i => time (script.answer clock i))
    (hn : deadline ≤ time (script.answer clock n)) :
    M.early clock time deadline answers ≤ n := by
  have hearly : M.early clock time deadline answers =
      (answers.filter (M.question · = clock)).countP (time · < deadline) := by
    rw [early, List.countP_filter]
    congr 1
    funext a
    simp [and_comm]
  rw [hearly, h clock, List.countP_map]
  apply countP_range_le
  intro i hi
  have hlt : time (script.answer clock i) < deadline := by simpa using hi
  exact lt_of_not_ge fun hge => (hn.trans (hmono hge)).not_gt hlt

theorem Supplies.nondecreasing (h : script.Supplies answers)
    (hmono : Monotone fun i => time (script.answer clock i)) :
    M.Nondecreasing clock time answers := by
  rw [Nondecreasing, h clock, List.pairwise_map]
  exact List.pairwise_lt_range.imp fun hlt => hmono hlt.le

/-- The reading that reaches the deadline is followed by one reading at most. -/
theorem Supplies.readings_le {n : ℕ}
    (h : script.Supplies answers) (hpunctual : M.Punctual clock time deadline)
    (hmono : Monotone fun i => time (script.answer clock i))
    (hn : deadline ≤ time (script.answer clock n)) (run : M.run p answers = some q) :
    answers.countP (M.question · = clock) ≤ n + 2 := by
  by_contra hmany
  have hsplit : answers.filter (M.question · = clock) =
      (List.range n).map (script.answer clock) ++ script.answer clock n ::
        (List.range' (n + 1) (answers.countP (M.question · = clock) - (n + 1))).map
          (script.answer clock) := by
    rw [h clock]
    have hrange : List.range (answers.countP (M.question · = clock)) =
        List.range n ++ n :: List.range' (n + 1)
          (answers.countP (M.question · = clock) - (n + 1)) := by
      have happend := List.range'_append_1 (s := 0) (m := n)
        (n := answers.countP (M.question · = clock) - (n + 1) + 1)
      rw [Nat.zero_add, List.range'_succ] at happend
      rw [List.range_eq_range', List.range_eq_range', happend]
      congr 1
      omega
    rw [hrange, List.map_append, List.map_cons]
  obtain ⟨earlier, rest, rfl, -, hrest⟩ := List.filter_eq_append_iff.mp hsplit
  obtain ⟨others, later, rfl, -, -, hlater⟩ := List.filter_eq_cons_iff.mp hrest
  have hnondecreasing := h.nondecreasing hmono
  rw [← List.append_assoc] at run hnondecreasing
  have hlate := hnondecreasing.late script.question_answer hn
  have hlength := (hpunctual.quiet hn script.question_answer hlate run).1
  have hfilter := (List.length_filter_le (M.question · = clock) later).trans hlength
  rw [hlater, List.length_map, List.length_range'] at hfilter
  omega

theorem length_eq (clock : Q) (answers : List A) :
    answers.length = answers.countP (M.question · = clock) + M.others clock answers := by
  rw [others, List.length_eq_countP_add_countP (fun a => decide (M.question a = clock))]
  simp

/-- What a script comes to in a run, as far as the run has got. -/
theorem Supplies.extend (h : script.Supplies answers) (run : M.run p answers = some q) :
    M.asks q = none ∨ ∃ a r, script.Supplies (answers ++ [a]) ∧
      M.run p (answers ++ [a]) = some r := by
  cases hasks : M.asks q with
  | none => exact .inl rfl
  | some k =>
    have hanswer := h.concat k
    obtain ⟨r, hr⟩ := resume_of_asks (M := M) (p := q)
      (a := script.answer k (answers.countP (M.question · = k)))
      (by rw [script.question_answer, hasks])
    exact .inr ⟨_, r, hanswer, run_concat.mpr ⟨q, run, hr⟩⟩

/-- Punctual code returns, and makes no more than `n` calls for anything but the time, if the
clock reaches the deadline with reading `n`. -/
theorem returns {n : ℕ}
    (hpunctual : M.Punctual clock time deadline) (hstart : ∀ k, M.asks p = some k → k = clock)
    (hmono : Monotone fun i => time (script.answer clock i))
    (hn : deadline ≤ time (script.answer clock n)) :
    (∃ answers q, script.Supplies answers ∧ M.run p answers = some q ∧ M.asks q = none) ∧
      ∀ answers q, script.Supplies answers → M.run p answers = some q →
        M.others clock answers ≤ n := by
  have hothers : ∀ answers q, script.Supplies answers → M.run p answers = some q →
      M.others clock answers ≤ n := fun answers q hsupplies run =>
    (Nat.le_add_right _ _).trans ((hpunctual.others_le_early hstart run).trans
      (hsupplies.early_le hmono hn))
  refine ⟨?_, hothers⟩
  by_contra hnever
  have hlong : ∀ m, ∃ answers q, answers.length = m ∧ script.Supplies answers ∧
      M.run p answers = some q := by
    intro m
    induction m with
    | zero => exact ⟨[], p, rfl, .nil, rfl⟩
    | succ m ih =>
      obtain ⟨answers, q, rfl, hsupplies, run⟩ := ih
      rcases hsupplies.extend run with hover | ⟨a, r, hnext, hrun⟩
      · exact absurd ⟨answers, q, hsupplies, run, hover⟩ hnever
      · exact ⟨answers ++ [a], r, by simp, hnext, hrun⟩
  obtain ⟨answers, q, hlength, hsupplies, run⟩ := hlong (2 * n + 3)
  have hreadings := hsupplies.readings_le hpunctual hmono hn run
  have hfew := hothers answers q hsupplies run
  rw [length_eq (M := M) clock] at hlength
  omega

end Script

end Procedure

end WheeltecVcuSerial.Trace
