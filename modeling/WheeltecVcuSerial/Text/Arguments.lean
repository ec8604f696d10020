import Mathlib.Data.List.Basic

universe u v

namespace WheeltecVcuSerial.Text

variable {σ : Type u} {α : Type v}

/-- What a word of a command line is to the options that have been read before it. -/
inductive Argument (σ : Type u) (α : Type v)
  | help
  | unknown
  | flag (after : σ)
  | setting (take : α → Option σ)

/-- What a command line comes to. -/
inductive Parsed (σ : Type u)
  | help
  | refused
  | accepted (options : σ)
  deriving DecidableEq

/-- The loop over the words; a setting takes the next one with it. -/
def parse (argument : σ → α → Argument σ α) (options : σ) : List α → Parsed σ
  | [] => .accepted options
  | word :: words =>
    match argument options word with
    | .help => .help
    | .unknown => .refused
    | .flag after => parse argument after words
    | .setting take =>
      match words with
      | [] => .refused
      | value :: words =>
        match take value with
        | none => .refused
        | some after => parse argument after words

/-- The words that one option is made of. -/
inductive Brings (argument : σ → α → Argument σ α) (options : σ) : List α → σ → Prop
  | flag : argument options word = .flag after → Brings argument options [word] after
  | setting : argument options word = .setting take → take value = some after →
      Brings argument options [word, value] after

inductive Reads (argument : σ → α → Argument σ α) : σ → List α → σ → Prop
  | done : Reads argument options [] options
  | more : Brings argument options brought between → Reads argument between words after →
      Reads argument options (brought ++ words) after

variable {argument : σ → α → Argument σ α} {options after : σ} {words : List α}

theorem parse_brought {brought : List α} (h : Brings argument options brought after) :
    parse argument options (brought ++ words) = parse argument after words := by
  cases h with
  | flag hflag => simp [parse, hflag]
  | setting hsetting htake => simp [parse, hsetting, htake]

theorem parse_of_reads (h : Reads argument options words after) :
    parse argument options words = .accepted after := by
  induction h with
  | done => rw [parse]
  | more hbrings _ ih => rw [parse_brought hbrings, ih]

theorem reads_of_parse (h : parse argument options words = .accepted after) :
    Reads argument options words after := by
  fun_induction parse argument options words with
  | case1 =>
    cases h
    exact .done
  | case2 | case3 => cases h
  | case4 options word words next hflag ih => exact .more (.flag hflag) (ih h)
  | case5 | case6 => cases h
  | case7 options word take hsetting value words next htake ih =>
    exact .more (.setting hsetting htake) (ih h)

/-- A command line is accepted exactly where options follow one another to its end. -/
theorem parse_eq_accepted_iff :
    parse argument options words = .accepted after ↔ Reads argument options words after :=
  ⟨reads_of_parse, parse_of_reads⟩

namespace Reads

/-- What holds of the options at the end and did not at the start has been brought by words that
stand together. -/
theorem brought {P : σ → Prop} {brought : List α} (h : Reads argument options words after)
    (hstart : ¬P options) (hend : P after)
    (honly : ∀ before words after,
      Brings argument before words after → ¬P before → P after → words = brought) :
    brought <:+: words := by
  induction h with
  | done => exact absurd hend hstart
  | @more options first between words after hbrings _ ih =>
    by_cases hbetween : P between
    · obtain rfl : first = brought := honly _ _ _ hbrings hstart hbetween
      exact (List.prefix_append _ _).isInfix
    · exact (ih hbetween hend).trans (List.suffix_append _ _).isInfix

end Reads

end WheeltecVcuSerial.Text
