import Mathlib.Data.List.Basic

universe u

namespace WheeltecVcuSerial.Framing

/-- Frames of one fixed size in a stream of symbols, each of which begins with a start symbol. -/
structure FrameFormat (α : Type u) where
  size : Nat
  accepts : List α → Bool
  starts : α → Bool
  size_pos : 0 < size
  starts_of_accepts : accepts (a :: rest) = true → starts a = true

namespace FrameFormat

variable (F : FrameFormat α)

/-- The frames of a stream read from its first position, and the symbols left at its end. -/
def scan (data : List α) : List (List α) × List α :=
  if data.length < F.size then ([], data)
  else if F.accepts (data.take F.size) then
    let rest := scan (data.drop F.size)
    (data.take F.size :: rest.1, rest.2)
  else scan (data.drop 1)
termination_by data.length
decreasing_by
  all_goals
    have hpos := F.size_pos
    rw [List.length_drop]
    omega

/-- The symbols from the first one that may start a frame. -/
def resync (data : List α) : List α := data.dropWhile fun a => !F.starts a

/-- One symbol read by a reader that retains the beginning of a frame. -/
def push (retained : List α) (a : α) : Option (List α) × List α :=
  if retained = [] ∧ F.starts a = false then (none, [])
  else if retained.length + 1 < F.size then (none, retained ++ [a])
  else if F.accepts (retained ++ [a]) then (some (retained ++ [a]), [])
  else (none, F.resync (retained ++ [a]).tail)

def pushAll (retained : List α) : List α → List (List α) × List α
  | [] => ([], retained)
  | a :: data =>
    let first := F.push retained a
    let rest := pushAll first.2 data
    (first.1.toList ++ rest.1, rest.2)

/-- What a reader may retain between two symbols. -/
structure Partial (retained : List α) : Prop where
  short : retained.length < F.size
  starts : retained.head?.all F.starts = true

/-! ### The scan -/

variable {F}

theorem scan_of_short {data : List α} (h : data.length < F.size) : F.scan data = ([], data) := by
  rw [scan, if_pos h]

theorem scan_of_accepts {frame : List α} (hsize : frame.length = F.size)
    (h : F.accepts frame = true) (data : List α) :
    F.scan (frame ++ data) = (frame :: (F.scan data).1, (F.scan data).2) := by
  have htake : (frame ++ data).take F.size = frame := by rw [← hsize, List.take_left]
  have hdrop : (frame ++ data).drop F.size = data := by rw [← hsize, List.drop_left]
  rw [scan, if_neg (by simp [hsize])]
  simp only [htake, hdrop]
  rw [if_pos h]

theorem scan_of_rejects {candidate : List α} (hsize : candidate.length = F.size)
    (h : F.accepts candidate = false) (data : List α) :
    F.scan (candidate ++ data) = F.scan (candidate.tail ++ data) := by
  have htake : (candidate ++ data).take F.size = candidate := by rw [← hsize, List.take_left]
  rw [scan, if_neg (by simp [hsize]), htake, if_neg (by simp [h])]
  cases candidate with
  | nil => exact absurd hsize (Nat.ne_of_lt F.size_pos)
  | cons a rest => rfl

/-- A symbol that starts no frame is skipped, or is left over before the rest. -/
theorem scan_skip {a : α} (h : F.starts a = false) (data : List α) :
    (F.scan (a :: data)).1 = (F.scan data).1 ∧
      F.resync (F.scan (a :: data)).2 = F.resync (F.scan data).2 := by
  by_cases hsize : (a :: data).length < F.size
  · rw [scan_of_short hsize, scan_of_short (Nat.lt_of_succ_lt hsize)]
    simp [resync, h]
  · have hrejects : F.accepts ((a :: data).take F.size) = false := by
      obtain ⟨n, hn⟩ := Nat.exists_eq_succ_of_ne_zero (Nat.ne_of_gt F.size_pos)
      rw [hn, List.take_succ_cons]
      apply Bool.eq_false_iff.mpr
      intro haccepts
      simp [F.starts_of_accepts haccepts] at h
    rw [scan, if_neg hsize, if_neg (by simp [hrejects])]
    exact ⟨rfl, rfl⟩

/-- What a stream amounts to: its frames, and the beginning of a frame at its end. -/
def parse (F : FrameFormat α) (data : List α) : List (List α) × List α :=
  ((F.scan data).1, F.resync (F.scan data).2)

theorem parse_skip {a : α} (h : F.starts a = false) (data : List α) :
    F.parse (a :: data) = F.parse data := by
  rw [parse, parse, (scan_skip h data).1, (scan_skip h data).2]

theorem parse_resync (skipped data : List α) :
    F.parse (F.resync skipped ++ data) = F.parse (skipped ++ data) := by
  induction skipped with
  | nil => rfl
  | cons a skipped ih =>
    cases h : F.starts a with
    | true => simp [resync, h]
    | false =>
      rw [List.cons_append, parse_skip h, ← ih]
      simp [resync, h]

/-! ### The reader -/

theorem Partial.nil : F.Partial [] := ⟨F.size_pos, rfl⟩

theorem Partial.parse_eq {retained : List α} (h : F.Partial retained) :
    F.parse retained = ([], retained) := by
  rw [parse, scan_of_short h.short]
  cases retained with
  | nil => rfl
  | cons a rest =>
    have hstarts : F.starts a = true := by simpa using h.starts
    simp [resync, hstarts]

theorem Partial.resync {data : List α} (h : data.length < F.size) : F.Partial (F.resync data) := by
  constructor
  · exact Nat.lt_of_le_of_lt (List.dropWhile_suffix _).length_le h
  · have hhead := List.head?_dropWhile_not (fun a => !F.starts a) data
    unfold FrameFormat.resync
    revert hhead
    cases (data.dropWhile fun a => !F.starts a).head? with
    | none => simp
    | some a => simp

/-- One symbol: the frame it completes comes first in whatever follows. -/
theorem Partial.push {retained : List α} (h : F.Partial retained) (a : α) :
    F.Partial (F.push retained a).2 ∧ ∀ data, F.parse (retained ++ a :: data) =
      ((F.push retained a).1.toList ++ (F.parse ((F.push retained a).2 ++ data)).1,
        (F.parse ((F.push retained a).2 ++ data)).2) := by
  have happend (data : List α) : retained ++ a :: data = (retained ++ [a]) ++ data := by simp
  unfold FrameFormat.push
  split
  · case isTrue hskip =>
    obtain ⟨rfl, hstarts⟩ := hskip
    refine ⟨.nil, fun data => ?_⟩
    rw [List.nil_append, parse_skip hstarts]
    rfl
  · case isFalse hkept =>
    split
    · case isTrue hshort =>
      constructor
      · constructor
        · simpa using hshort
        · cases retained with
          | nil => simpa using hkept
          | cons b rest => simpa using h.starts
      · intro data
        rw [happend]
        rfl
    · case isFalse hfull =>
      have hsize : (retained ++ [a]).length = F.size := by
        have := h.short
        rw [List.length_append, List.length_singleton]
        omega
      split
      · case isTrue haccepts =>
        refine ⟨.nil, fun data => ?_⟩
        rw [happend, parse, scan_of_accepts hsize haccepts]
        rfl
      · case isFalse hrejects =>
        constructor
        · apply Partial.resync
          rw [List.length_tail, hsize]
          exact Nat.sub_lt F.size_pos Nat.one_pos
        · intro data
          rw [happend, parse_resync, parse, parse,
            scan_of_rejects hsize (Bool.eq_false_iff.mpr hrejects)]
          rfl

/-- A reader finds the frames of the scan, and retains what may still become one. -/
theorem Partial.pushAll {retained : List α} (h : F.Partial retained) (data : List α) :
    F.pushAll retained data = F.parse (retained ++ data) := by
  induction data generalizing retained with
  | nil => rw [List.append_nil, h.parse_eq]; rfl
  | cons a data ih =>
    rw [(h.push a).2, ← ih (h.push a).1]
    rfl

theorem pushAll_append (retained first second : List α) :
    F.pushAll retained (first ++ second) =
      ((F.pushAll retained first).1 ++ (F.pushAll (F.pushAll retained first).2 second).1,
        (F.pushAll (F.pushAll retained first).2 second).2) := by
  induction first generalizing retained with
  | nil => rfl
  | cons a first ih =>
    simp only [List.cons_append, FrameFormat.pushAll, ih, List.append_assoc]

end FrameFormat

end WheeltecVcuSerial.Framing
