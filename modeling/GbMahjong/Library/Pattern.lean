import Mathlib.Computability.RegularExpressions

/-! Regular expressions the way pattern languages write them: classes of symbols,
counted repetition and optional parts, each with the words that it matches. -/

set_option autoImplicit false

namespace GbMahjong.Library

namespace Pattern

open RegularExpression

variable {Symbol : Type}

/-- A class `[...]` of symbols. -/
def oneOf (symbols : List Symbol) : RegularExpression Symbol :=
  symbols.foldr (fun symbol rest => char symbol + rest) 0

/-- `+` after a pattern. -/
def oneOrMore (pattern : RegularExpression Symbol) : RegularExpression Symbol :=
  pattern * star pattern

/-- `?` after a pattern. -/
def optional (pattern : RegularExpression Symbol) : RegularExpression Symbol :=
  1 + pattern

/-- `{least,least + more}` after a pattern. -/
def times (pattern : RegularExpression Symbol) (least : Nat) : Nat → RegularExpression Symbol
  | 0 => pattern ^ least
  | more + 1 => times pattern least more + pattern ^ (least + more + 1)

variable {pattern other : RegularExpression Symbol} {symbols word : List Symbol}

/-! ## Words -/

theorem mem_char {symbol : Symbol} : word ∈ (char symbol).matches' ↔ word = [symbol] :=
  Iff.rfl

theorem mem_mul : word ∈ (pattern * other).matches' ↔
    ∃ front ∈ pattern.matches', ∃ back ∈ other.matches', front ++ back = word :=
  Language.mem_mul

theorem mem_add : word ∈ (pattern + other).matches' ↔
    word ∈ pattern.matches' ∨ word ∈ other.matches' :=
  Iff.rfl

theorem mem_oneOf : word ∈ (oneOf symbols).matches' ↔ ∃ symbol ∈ symbols, word = [symbol] := by
  induction symbols with
  | nil => exact iff_of_false (Language.notMem_zero word) (by simp)
  | cons symbol rest ih =>
      rw [show oneOf (symbol :: rest) = char symbol + oneOf rest from rfl, mem_add, mem_char, ih]
      simp

theorem mem_optional : word ∈ (optional pattern).matches' ↔
    word = [] ∨ word ∈ pattern.matches' :=
  Iff.rfl

theorem mem_oneOrMore : word ∈ (oneOrMore pattern).matches' ↔
    ∃ words, words ≠ [] ∧ word = words.flatten ∧ ∀ part ∈ words, part ∈ pattern.matches' := by
  rw [oneOrMore, mem_mul]
  constructor
  · intro split
    obtain ⟨front, first, back, later, rfl⟩ := split
    obtain ⟨words, rfl, each⟩ := Language.mem_kstar.mp later
    exact ⟨front :: words, List.cons_ne_nil _ _, rfl, List.forall_mem_cons.mpr ⟨first, each⟩⟩
  · intro split
    obtain ⟨words, some, rfl, each⟩ := split
    cases words with
    | nil => exact absurd rfl some
    | cons front words =>
        obtain ⟨first, each⟩ := List.forall_mem_cons.mp each
        exact ⟨front, first, words.flatten, Language.join_mem_kstar each, rfl⟩

theorem mem_times {least more : Nat} : word ∈ (times pattern least more).matches' ↔
    ∃ words : List (List Symbol), word = words.flatten ∧ least ≤ words.length ∧
      words.length ≤ least + more ∧ ∀ part ∈ words, part ∈ pattern.matches' := by
  induction more with
  | zero =>
      rw [times, matches'_pow, Language.mem_pow]
      constructor
      · intro power
        obtain ⟨words, rfl, counted, each⟩ := power
        exact ⟨words, rfl, counted.ge, counted.le, each⟩
      · intro repeated
        obtain ⟨words, rfl, enough, few, each⟩ := repeated
        exact ⟨words, rfl, Nat.le_antisymm few enough, each⟩
  | succ more ih =>
      rw [times, mem_add, ih, matches'_pow, Language.mem_pow]
      constructor
      · intro either
        cases either with
        | inl fewer =>
            obtain ⟨words, rfl, enough, few, each⟩ := fewer
            exact ⟨words, rfl, enough, by omega, each⟩
        | inr most =>
            obtain ⟨words, rfl, counted, each⟩ := most
            exact ⟨words, rfl, by omega, by omega, each⟩
      · intro repeated
        obtain ⟨words, rfl, enough, few, each⟩ := repeated
        by_cases most : words.length = least + more + 1
        · exact .inr ⟨words, rfl, most, each⟩
        · exact .inl ⟨words, rfl, enough, by omega, each⟩

/-! ## Words of a class -/

/-- Words of one symbol each, and the symbols. -/
theorem words_of_class {words : List (List Symbol)}
    (each : ∀ part ∈ words, part ∈ (oneOf symbols).matches') :
    words.length = words.flatten.length ∧ ∀ symbol ∈ words.flatten, symbol ∈ symbols := by
  induction words with
  | nil => exact ⟨rfl, List.forall_mem_nil _⟩
  | cons part rest ih =>
      obtain ⟨here, later⟩ := List.forall_mem_cons.mp each
      obtain ⟨symbol, member, rfl⟩ := mem_oneOf.mp here
      obtain ⟨same, inside⟩ := ih later
      rw [List.flatten_cons, List.length_cons, same, List.length_append, List.length_singleton]
      exact ⟨Nat.add_comm _ _, List.forall_mem_cons.mpr ⟨member, inside⟩⟩

theorem singletons_of_class (inside : ∀ symbol ∈ word, symbol ∈ symbols) :
    ∀ part ∈ word.map fun symbol => [symbol], part ∈ (oneOf symbols).matches' := by
  rw [List.forall_mem_map]
  exact fun symbol member => mem_oneOf.mpr ⟨symbol, inside symbol member, rfl⟩

theorem flatten_singletons : (word.map fun symbol => [symbol]).flatten = word := by
  induction word with
  | nil => rfl
  | cons symbol rest ih => rw [List.map_cons, List.flatten_cons, ih, List.singleton_append]

theorem mem_times_oneOf {least more : Nat} : word ∈ (times (oneOf symbols) least more).matches' ↔
    least ≤ word.length ∧ word.length ≤ least + more ∧ ∀ symbol ∈ word, symbol ∈ symbols := by
  rw [mem_times]
  constructor
  · intro repeated
    obtain ⟨words, rfl, enough, few, each⟩ := repeated
    obtain ⟨same, inside⟩ := words_of_class each
    rw [same] at enough few
    exact ⟨enough, few, inside⟩
  · intro bounded
    obtain ⟨enough, few, inside⟩ := bounded
    exact ⟨word.map fun symbol => [symbol], flatten_singletons.symm, by simpa using enough,
      by simpa using few, singletons_of_class inside⟩

theorem mem_oneOrMore_oneOf : word ∈ (oneOrMore (oneOf symbols)).matches' ↔
    word ≠ [] ∧ ∀ symbol ∈ word, symbol ∈ symbols := by
  rw [mem_oneOrMore]
  constructor
  · intro repeated
    obtain ⟨words, some, rfl, each⟩ := repeated
    obtain ⟨same, inside⟩ := words_of_class each
    refine ⟨fun none => some ?_, inside⟩
    rw [none] at same
    exact List.length_eq_zero_iff.mp same
  · intro bounded
    obtain ⟨some, inside⟩ := bounded
    exact ⟨word.map fun symbol => [symbol], by simpa using some, flatten_singletons.symm,
      singletons_of_class inside⟩

end Pattern

end GbMahjong.Library
