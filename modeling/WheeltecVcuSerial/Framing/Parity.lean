import Mathlib.Data.List.GetD

namespace WheeltecVcuSerial.Framing

variable {w : Nat}

/-- The longitudinal parity of words: every bit of it adds up one column. -/
def parity : List (BitVec w) → BitVec w
  | [] => 0
  | word :: words => word ^^^ parity words

/-- Words with the bits of an error pattern flipped. -/
def flip (words error : List (BitVec w)) : List (BitVec w) := words.zipWith (· ^^^ ·) error

/-- The parity of a flip is off by the parity of the pattern. -/
theorem parity_flip {words error : List (BitVec w)} (h : words.length = error.length) :
    parity (flip words error) = parity words ^^^ parity error := by
  induction words generalizing error with
  | nil =>
    obtain rfl := List.length_eq_zero_iff.mp h.symm
    exact BitVec.xor_self.symm
  | cons word words ih =>
    cases error with
    | nil => simp at h
    | cons pattern error =>
      simp only [flip, List.zipWith_cons_cons, parity]
      rw [← flip, ih (by simpa using h)]
      ac_rfl

/-! ### Patterns with one bit in a column -/

/-- No column has bits of two words. -/
def Disjoint (error : List (BitVec w)) : Prop :=
  error.Pairwise fun word word' => word &&& word' = 0

theorem and_xor (a b c : BitVec w) : a &&& (b ^^^ c) = a &&& b ^^^ a &&& c := by
  apply BitVec.eq_of_getLsbD_eq
  intro i _
  simp only [BitVec.getLsbD_and, BitVec.getLsbD_xor, Bool.and_xor_distrib_left]

theorem and_parity_eq_zero {word : BitVec w} {error : List (BitVec w)}
    (h : ∀ word' ∈ error, word &&& word' = 0) : word &&& parity error = 0 := by
  induction error with
  | nil => exact BitVec.and_zero
  | cons word' error ih =>
    rw [List.forall_mem_cons] at h
    rw [parity, and_xor, h.1, ih h.2]
    exact BitVec.xor_self

theorem Disjoint.eq_zero_of_parity {error : List (BitVec w)} (h : Disjoint error)
    (hparity : parity error = 0) : ∀ word ∈ error, word = 0 := by
  induction error with
  | nil => nofun
  | cons word error ih =>
    obtain ⟨hword, herror⟩ := List.pairwise_cons.mp h
    have heq : word = parity error := BitVec.xor_eq_zero_iff.mp hparity
    have hzero : word = 0 := by
      have hand := and_parity_eq_zero hword
      rwa [← heq, BitVec.and_self] at hand
    rw [List.forall_mem_cons]
    exact ⟨hzero, ih herror (by rw [← heq, hzero])⟩

/-! ### Bursts -/

/-- The order in which the bits of a word are taken. -/
inductive BitOrder
  | mostSignificantFirst
  | leastSignificantFirst
  deriving DecidableEq

namespace BitOrder

/-- The bit at a place in a word, and the place of a bit. -/
def swap (order : BitOrder) (w : Nat) (i : Nat) : Nat :=
  match order with
  | .mostSignificantFirst => w - 1 - i
  | .leastSignificantFirst => i

theorem swap_lt (order : BitOrder) (h : i < w) : order.swap w i < w := by
  cases order with
  | mostSignificantFirst => simp only [swap]; omega
  | leastSignificantFirst => exact h

theorem swap_swap (order : BitOrder) (h : i < w) : order.swap w (order.swap w i) = i := by
  cases order with
  | mostSignificantFirst => simp only [swap]; omega
  | leastSignificantFirst => rfl

/-- The bit at a position of a sequence of words. -/
def bitAt (order : BitOrder) (words : List (BitVec w)) (position : Nat) : Bool :=
  (words.getD (position / w) 0).getLsbD (order.swap w (position % w))

/-- All the bits of a pattern lie in a window of as many bits as a word has. -/
def Burst (order : BitOrder) (start : Nat) (error : List (BitVec w)) : Prop :=
  ∀ position, order.bitAt error position = true → start ≤ position ∧ position < start + w

theorem bitAt_swap (order : BitOrder) (words : List (BitVec w)) (index : Nat) (h : i < w) :
    order.bitAt words (index * w + order.swap w i) = (words.getD index 0).getLsbD i := by
  have hswap := order.swap_lt h
  rw [bitAt, Nat.mul_comm, Nat.mul_add_div (by omega), Nat.mul_add_mod, Nat.div_eq_of_lt hswap,
    Nat.mod_eq_of_lt hswap, Nat.add_zero, order.swap_swap h]

/-- Two bits of a column are a word apart at least. -/
theorem Burst.disjoint {order : BitOrder} {error : List (BitVec w)}
    (h : order.Burst start error) : Disjoint error := by
  rw [Disjoint, List.pairwise_iff_getElem]
  intro first second hfirst hsecond hlt
  apply BitVec.eq_of_getLsbD_eq
  intro i hi
  rw [BitVec.getLsbD_and, BitVec.ofNat_eq_ofNat, BitVec.getLsbD_zero,
    Bool.eq_false_iff]
  intro hboth
  rw [Bool.and_eq_true] at hboth
  have hstart := h (first * w + order.swap w i)
  have hend := h (second * w + order.swap w i)
  rw [bitAt_swap order error _ hi, List.getD_eq_getElem _ _ hfirst] at hstart
  rw [bitAt_swap order error _ hi, List.getD_eq_getElem _ _ hsecond] at hend
  have hfrom := (hstart hboth.1).1
  have hto := (hend hboth.2).2
  have hword : (first + 1) * w ≤ second * w := Nat.mul_le_mul_right w hlt
  rw [Nat.add_mul, Nat.one_mul] at hword
  omega

/-- One word of a pattern is a burst. -/
theorem burst_set (order : BitOrder) (length index : Nat) (word : BitVec w) :
    order.Burst (index * w) ((List.replicate length 0).set index word) := by
  intro position hbit
  have hindex : position / w = index := Decidable.byContradiction fun hne => by
    rw [bitAt, List.getD_eq_getElem?_getD, List.getElem?_set_ne (Ne.symm hne),
      List.getElem?_replicate] at hbit
    split at hbit <;> simp at hbit
  have hw : 0 < w := Nat.pos_of_ne_zero fun hzero => by
    subst hzero
    simp [bitAt] at hbit
  rw [← hindex]
  have hdiv := Nat.div_add_mod' position w
  have hmod := Nat.mod_lt position hw
  omega

/-- Words whose parity is kept were not hit by a burst. -/
theorem Burst.eq_zero_of_parity {order : BitOrder} {words error : List (BitVec w)}
    (h : order.Burst start error) (hlength : words.length = error.length)
    (hparity : parity (flip words error) = parity words) : ∀ word ∈ error, word = 0 := by
  apply h.disjoint.eq_zero_of_parity
  rw [parity_flip hlength] at hparity
  exact (BitVec.xor_right_inj _).mp (hparity.trans BitVec.xor_zero.symm)

end BitOrder

end WheeltecVcuSerial.Framing
