import Mathlib.Order.Basic
import Mathlib.Data.List.Basic

universe u v

namespace WheeltecVcuSerial.Trace

/-- A transition system whose steps are labelled by the events they leave in the history. -/
structure Machine (σ : Type u) (ε : Type v) where
  init : σ → Prop
  step : σ → ε → σ → Prop

namespace Machine

/-- The finite runs of a machine.  A history lists its events, the latest one first. -/
inductive Run (M : Machine σ ε) : List ε → σ → Prop
  | start : M.init s → Run M [] s
  | next : Run M h s → M.step s e t → Run M (e :: h) t

/-- The continuations of a run from one state to another. -/
inductive Path (M : Machine σ ε) : σ → List ε → σ → Prop
  | refl : Path M s [] s
  | next : Path M s h t → M.step t e u → Path M s (e :: h) u

theorem Run.invariant {M : Machine σ ε} {P : List ε → σ → Prop}
    (hinit : ∀ {s}, M.init s → P [] s)
    (hstep : ∀ {h s e t}, M.Run h s → P h s → M.step s e t → P (e :: h) t)
    (run : M.Run h s) : P h s := by
  induction run with
  | start hs => exact hinit hs
  | next run he ih => exact hstep run ih he

theorem Run.forall_mem {M : Machine σ ε} {P : ε → Prop}
    (hstep : ∀ {s e t}, M.step s e t → P e) (run : M.Run h s) : ∀ e ∈ h, P e := by
  induction run with
  | start _ => simp
  | next _ he ih => exact List.forall_mem_cons.mpr ⟨hstep he, ih⟩

theorem Path.trans {M : Machine σ ε} (first : M.Path s h t) (second : M.Path t h' u) :
    M.Path s (h' ++ h) u := by
  induction second with
  | refl => exact first
  | next _ he ih => exact .next ih he

theorem Path.head {M : Machine σ ε} (he : M.step s e t) (path : M.Path t h u) :
    M.Path s (h ++ [e]) u :=
  Path.trans (.next .refl he) path

theorem Run.of_append {M : Machine σ ε} (run : M.Run (later ++ earlier) t) :
    ∃ s, M.Run earlier s ∧ M.Path s later t := by
  induction later generalizing t with
  | nil => exact ⟨t, run, .refl⟩
  | cons e later ih =>
    cases run with
    | next run he =>
      obtain ⟨s, hs, path⟩ := ih run
      exact ⟨s, hs, .next path he⟩

theorem Run.append {M : Machine σ ε} (run : M.Run h s) (path : M.Path s later t) :
    M.Run (later ++ h) t := by
  induction path with
  | refl => exact run
  | next _ he ih => exact .next ih he

/-- The step that left an event in the history. -/
theorem Run.step_of_mem {M : Machine σ ε} (run : M.Run (later ++ e :: earlier) t) :
    ∃ s u, M.Run earlier s ∧ M.step s e u ∧ M.Path u later t := by
  obtain ⟨u, run, path⟩ := run.of_append
  cases run with
  | next run he => exact ⟨_, u, run, he, path⟩

/-- What a state keeps, and what its events do, as long as all of them are `quiet`. -/
theorem Path.absorbing {M : Machine σ ε} {P : σ → Prop} {quiet good : ε → Prop}
    (hstep : ∀ {s e t}, P s → M.step s e t → quiet e → P t ∧ good e)
    (path : M.Path s h t) (hquiet : ∀ e ∈ h, quiet e) (hs : P s) : P t ∧ ∀ e ∈ h, good e := by
  induction path with
  | refl => exact ⟨hs, by simp⟩
  | next _ he ih =>
    rw [List.forall_mem_cons] at hquiet ⊢
    obtain ⟨ht, hgood⟩ := ih hquiet.2
    obtain ⟨hu, he⟩ := hstep ht he hquiet.1
    exact ⟨hu, he, hgood⟩

/-- Labels that each exceed a mark, and are recorded by it, increase strictly along a run. -/
theorem Run.labels_increase [Preorder α] {M : Machine σ ε} (mark : σ → α) {label : ε → Option α}
    (hstep : ∀ {h s e t}, M.Run h s → M.step s e t →
      mark s ≤ mark t ∧ ∀ k, label e = some k → mark s < k ∧ k ≤ mark t)
    (run : M.Run h s) :
    (h.filterMap label).Pairwise (fun later earlier => earlier < later) ∧
      ∀ k ∈ h.filterMap label, k ≤ mark s := by
  induction run with
  | start _ => simp
  | @next h s e t run he ih =>
    obtain ⟨hpair, hbound⟩ := ih
    obtain ⟨hmono, hlabel⟩ := hstep run he
    have hkept : ∀ k ∈ h.filterMap label, k ≤ mark t := fun k hk => (hbound k hk).trans hmono
    cases hl : label e with
    | none =>
      rw [List.filterMap_cons_none hl]
      exact ⟨hpair, hkept⟩
    | some k =>
      obtain ⟨hlt, hle⟩ := hlabel k hl
      rw [List.filterMap_cons_some hl, List.pairwise_cons, List.forall_mem_cons]
      exact ⟨⟨fun j hj => (hbound j hj).trans_lt hlt, hpair⟩, hle, hkept⟩

end Machine

/-- Past-time `since`: `start` holds at some event, given what came before it, and every later
event satisfies `keep`. -/
def Since (keep : ε → Prop) (start : ε → List ε → Prop) : List ε → Prop
  | [] => False
  | e :: h => start e h ∨ keep e ∧ Since keep start h

theorem since_iff {keep : ε → Prop} {start : ε → List ε → Prop} :
    Since keep start h ↔
      ∃ later e earlier, h = later ++ e :: earlier ∧ start e earlier ∧ ∀ x ∈ later, keep x := by
  induction h with
  | nil => simp [Since]
  | cons e h ih =>
    simp only [Since, ih]
    constructor
    · rintro (hs | ⟨hk, later, x, earlier, rfl, hx, hkeep⟩)
      · exact ⟨[], e, h, rfl, hs, by simp⟩
      · exact ⟨e :: later, x, earlier, rfl, hx, by simpa using ⟨hk, hkeep⟩⟩
    · rintro ⟨later, x, earlier, heq, hx, hkeep⟩
      cases later with
      | nil =>
        obtain ⟨rfl, rfl⟩ := List.cons.inj heq
        exact .inl hx
      | cons y later =>
        obtain ⟨rfl, rfl⟩ := List.cons.inj heq
        rw [List.forall_mem_cons] at hkeep
        exact .inr ⟨hkeep.1, later, x, earlier, rfl, hx, hkeep.2⟩

theorem Since.mono {keep keep' : ε → Prop} {start start' : ε → List ε → Prop}
    (hkeep : ∀ e, keep e → keep' e) (hstart : ∀ e h, start e h → start' e h)
    (hs : Since keep start h) : Since keep' start' h := by
  induction h with
  | nil => exact hs
  | cons e h ih => exact hs.imp (hstart e h) (And.imp (hkeep e) ih)

/-- After an event that neither starts nor keeps, there must have been a start. -/
theorem Since.exists_later {keep : ε → Prop} {start : ε → List ε → Prop}
    (hs : Since keep start (later ++ e :: earlier)) (hkeep : ¬ keep e)
    (hstart : ¬ start e earlier) :
    ∃ x newer older, later = newer ++ x :: older ∧ start x (older ++ e :: earlier) ∧
      ∀ y ∈ newer, keep y := by
  induction later with
  | nil => exact absurd (hs.imp_right And.left) (not_or.mpr ⟨hstart, hkeep⟩)
  | cons x later ih =>
    rcases hs with hx | ⟨hx, hs⟩
    · exact ⟨x, [], later, rfl, hx, by simp⟩
    · obtain ⟨y, newer, older, rfl, hy, hnewer⟩ := ih hs
      exact ⟨y, x :: newer, older, rfl, hy, List.forall_mem_cons.mpr ⟨hx, hnewer⟩⟩

/-- Of the events of a history that satisfy `P` there is an earliest one. -/
theorem exists_earliest {P : ε → Prop} {h : List ε} (hexists : ∃ e ∈ h, P e) :
    ∃ later e earlier, h = later ++ e :: earlier ∧ P e ∧ ∀ x ∈ earlier, ¬ P x := by
  induction h with
  | nil => simp at hexists
  | cons a h ih =>
    by_cases hearlier : ∃ e ∈ h, P e
    · obtain ⟨later, e, earlier, rfl, he, hnone⟩ := ih hearlier
      exact ⟨a :: later, e, earlier, rfl, he, hnone⟩
    · obtain ⟨e, he, hP⟩ := hexists
      rcases List.mem_cons.mp he with rfl | he
      · exact ⟨[], e, h, rfl, hP, fun x hx hPx => hearlier ⟨x, hx, hPx⟩⟩
      · exact absurd ⟨e, he, hP⟩ hearlier

/-- Past-time `always`: every event satisfies `P`, given what came before it. -/
def Historically (P : ε → List ε → Prop) : List ε → Prop
  | [] => True
  | e :: h => P e h ∧ Historically P h

theorem historically_iff {P : ε → List ε → Prop} :
    Historically P h ↔ ∀ later e earlier, h = later ++ e :: earlier → P e earlier := by
  induction h with
  | nil => simp [Historically]
  | cons e h ih =>
    simp only [Historically, ih]
    constructor
    · rintro ⟨he, hh⟩ later x earlier heq
      cases later with
      | nil =>
        obtain ⟨rfl, rfl⟩ := List.cons.inj heq
        exact he
      | cons y later =>
        obtain ⟨rfl, rfl⟩ := List.cons.inj heq
        exact hh later x earlier rfl
    · intro hall
      refine ⟨hall [] e h rfl, fun later x earlier heq => ?_⟩
      exact hall (e :: later) x earlier (by rw [heq]; rfl)

/-- The rule for `Historically`: an invariant of the runs whose events all satisfy `cond` makes
every event of them `good`. -/
theorem Machine.Run.historically_while {M : Machine σ ε} {cond good : ε → List ε → Prop}
    {P : List ε → σ → Prop} (hinit : ∀ {s}, M.init s → P [] s)
    (hstep : ∀ {h s e t}, M.Run h s → P h s → M.step s e t → cond e h → P (e :: h) t ∧ good e h)
    (run : M.Run h s) (hcond : Historically cond h) : P h s ∧ Historically good h := by
  induction run with
  | start hs => exact ⟨hinit hs, trivial⟩
  | next run he ih =>
    obtain ⟨hp, hgood⟩ := ih hcond.2
    obtain ⟨hp, he⟩ := hstep run hp he hcond.1
    exact ⟨hp, he, hgood⟩

/-- The rule for `Since`: a condition on states that only a start establishes and only kept
events preserve holds only since a start. -/
theorem Machine.Run.since {M : Machine σ ε} {P : σ → Prop} {keep : ε → Prop}
    {start : ε → List ε → Prop} (hinit : ∀ {s}, M.init s → ¬ P s)
    (hstep : ∀ {h s e t}, M.Run h s → M.step s e t → P t → start e h ∨ keep e ∧ P s)
    (run : M.Run h s) (hs : P s) : Since keep start h := by
  induction run with
  | start h0 => exact absurd hs (hinit h0)
  | next run he ih => exact (hstep run he hs).imp_right (And.imp_right ih)

end WheeltecVcuSerial.Trace
