import ApiToolbox.InputSchema
import ApiToolbox.Proofs.Binary64.Numeral
import ApiToolbox.Proofs.Json.Equality
import ApiToolbox.Proofs.Text.Pieces

/-! Conversion to integers and to numbers. A value is converted to the integer that it denotes, whether it
is an integer, a double or a numeral; the greatest signed word and what lies behind it are where
conversions differ from that. -/

namespace ApiToolbox.Json.Value

open Binary64 (Spells IsNearest)

/-! ### Integers that values denote -/

/-- A value denotes an integer: one as such, a double of this value, or a text that spells it between white
space. -/
inductive Denotes : Value → Int → Prop
  | integer (n : Int) : Denotes (.number (.integer n)) n
  | double {x : Binary64} {n : Int} (h : x.value = n) : Denotes (.number (.double x)) n
  | text {s : String} {n : Int} (h : Spells (Text.trim s.toList) n) : Denotes (.string s) n

theorem denotes_integer_iff {m n : Int} : Denotes (.number (.integer m)) n ↔ m = n := by
  constructor
  · intro h
    cases h
    rfl
  · rintro rfl
    exact .integer m

theorem denotes_double_iff {x : Binary64} {n : Int} : Denotes (.number (.double x)) n ↔ x.value = n := by
  constructor
  · intro hdenotes
    cases hdenotes with
    | double h => exact h
  · exact .double

theorem denotes_text_iff {s : String} {n : Int} :
    Denotes (.string s) n ↔ Spells (Text.trim s.toList) n := by
  constructor
  · intro hdenotes
    cases hdenotes with
    | text h => exact h
  · exact .text

theorem Denotes.unique {v : Value} {m n : Int} (hm : v.Denotes m) (hn : v.Denotes n) : m = n := by
  cases hm with
  | integer => exact denotes_integer_iff.mp hn
  | double hm => exact Int.cast_injective (α := ℚ) (hm.symm.trans (denotes_double_iff.mp hn))
  | text hm => exact hm.unique (denotes_text_iff.mp hn)

/-- The integers that are taken from a value: any from an integer, those of signed words from a double, and
those of all words from a text. -/
def Takes : Value → Int → Prop
  | .number (.double _), n => leastWord ≤ n ∧ n ≤ greatestSignedWord
  | .string _, n => leastWord ≤ n ∧ n ≤ greatestWord
  | _, _ => True

theorem greatestSignedWord_eq : greatestSignedWord = 2 ^ 63 - 1 := by decide

theorem greatestWord_eq : greatestWord = 2 ^ 64 - 1 := by decide

theorem spelledInteger?_eq_some_iff {s : String} {n : Int} : spelledInteger? s = some n ↔
    Spells (Text.trim s.toList) n ∧ leastWord ≤ n ∧ n ≤ greatestWord := by
  rw [spelledInteger?, Option.filter_eq_some_iff, Binary64.signedDigits?_eq_some_iff, Bool.and_eq_true,
    decide_eq_true_eq, decide_eq_true_eq]

theorem toInteger?_double_eq_some_iff {x : Binary64} {w : Value} :
    (Value.number (.double x)).toInteger? = some w ↔ ∃ n : Int, x.value = n ∧ leastWord ≤ n ∧
      n ≤ greatestSignedWord + 1 ∧ w = .int (min n greatestSignedWord) := by
  rw [toInteger?, Option.bind_eq_bind, Option.bind_eq_some_iff]
  refine exists_congr fun n => ?_
  rw [Binary64.toInt?_eq_some_iff, Option.ite_none_right_eq_some, Bool.and_eq_true, decide_eq_true_eq,
    decide_eq_true_eq, Option.some.injEq, and_assoc, eq_comm (a := w)]

/-- A double is converted to its value, when a signed word holds that. The bound above is the double nearest
to the greatest signed word, which is `2 ^ 63`: this double is let through as well. -/
theorem converted_double_iff {x : Binary64} {w : Value} :
    (Value.number (.double x)).toInteger? = some w ↔
      (∃ n : Int, x.value = n ∧ (leastWord ≤ n ∧ n ≤ greatestSignedWord) ∧ w = .int n) ∨
        x.value = 2 ^ 63 ∧ w = .int (2 ^ 63 - 1) := by
  rw [toInteger?_double_eq_some_iff]
  constructor
  · rintro ⟨n, hvalue, hlow, hhigh, rfl⟩
    rcases le_or_gt n greatestSignedWord with hle | hlt
    · exact .inl ⟨n, hvalue, ⟨hlow, hle⟩, by rw [min_eq_left hle]⟩
    · have hn : n = 2 ^ 63 := by
        rw [greatestSignedWord_eq] at hlt hhigh
        omega
      refine .inr ⟨by rw [hvalue, hn]; norm_num, ?_⟩
      rw [min_eq_right hlt.le, greatestSignedWord_eq]
  · rintro (⟨n, hvalue, ⟨hlow, hhigh⟩, rfl⟩ | ⟨hvalue, rfl⟩)
    · exact ⟨n, hvalue, hlow, hhigh.trans (Int.le_add_one le_rfl), by rw [min_eq_left hhigh]⟩
    · exact ⟨2 ^ 63, by rw [hvalue]; norm_num, by decide, by decide, by decide⟩

theorem converted_text_iff {s : String} {w : Value} : (Value.string s).toInteger? = some w ↔
    ∃ n, Spells (Text.trim s.toList) n ∧ (leastWord ≤ n ∧ n ≤ greatestWord) ∧ w = .int n := by
  rw [toInteger?, Option.map_eq_some_iff]
  refine exists_congr fun n => ?_
  rw [spelledInteger?_eq_some_iff, and_assoc, eq_comm (a := w)]

/-- What is converted to an integer is the integer that the value denotes, and every integer that is taken
from the value is converted. There is one exception: the double `2 ^ 63` becomes the greatest signed
word. -/
theorem converted_integer_iff {v w : Value} : v.toInteger? = some w ↔
    (∃ n, v.Denotes n ∧ v.Takes n ∧ w = .int n) ∨
      ∃ x : Binary64, v = .number (.double x) ∧ x.value = 2 ^ 63 ∧ w = .int (2 ^ 63 - 1) := by
  cases v with
  | number x =>
    cases x with
    | integer n => simp [toInteger?, denotes_integer_iff, Takes, eq_comm]
    | double x => simp [converted_double_iff, denotes_double_iff, Takes]
  | string s => simp [converted_text_iff, denotes_text_iff, Takes]
  | _ =>
    constructor
    · intro h
      cases h
    · rintro (⟨n, hdenotes, -⟩ | ⟨x, hx, -⟩)
      · cases hdenotes
      · cases hx

/-- The double `2 ^ 63` is converted, but not to the integer that it denotes. -/
theorem converted_integer_ne : ¬ ∀ v w : Value, v.toInteger? = some w → ∃ n, v.Denotes n ∧ w = .int n := by
  intro h
  obtain ⟨n, hdenotes, hn⟩ := h (.number (.double ⟨false, 2 ^ 52, 11⟩)) (.int 9223372036854775807)
    (by decide)
  have hgreatest : (2 ^ 63 - 1 : Int) = n := by
    injection hn with hn
    injection hn
  rw [denotes_double_iff, ← hgreatest] at hdenotes
  norm_num [Binary64.value, Binary64.magnitude, Binary64.sign] at hdenotes

/-! ### Numerals as numbers -/

theorem toNumber?_of_le {s : String} {n : Int} (h : spelledInteger? s = some n)
    (hle : n ≤ greatestSignedWord) : (Value.string s).toNumber? = some (.int n) := by
  have hfilter : (spelledInteger? s).filter (· ≤ greatestSignedWord) = some n :=
    Option.filter_eq_some_iff.mpr ⟨h, decide_eq_true hle⟩
  rw [toNumber?, hfilter]

/-- A numeral behind the signed words is converted to a double nearest to what it spells. -/
theorem exists_toNumber?_of_lt {s : String} {n : Int} (h : spelledInteger? s = some n)
    (hlt : greatestSignedWord < n) :
    ∃ x, (Value.string s).toNumber? = some (.number (.double x)) ∧ x.IsNearest n := by
  obtain ⟨hspells, -, hhigh⟩ := spelledInteger?_eq_some_iff.mp h
  rw [greatestSignedWord_eq] at hlt
  rw [greatestWord_eq] at hhigh
  obtain ⟨x, hx, hnearest⟩ := Binary64.exists_isNearest_of_spells hspells (by omega) (by omega)
  have hfilter : (spelledInteger? s).filter (· ≤ greatestSignedWord) = none := by
    rw [h, Option.filter_some_neg]
    rw [greatestSignedWord_eq]
    simpa using hlt
  refine ⟨x, ?_, hnearest⟩
  rw [toNumber?, hfilter]
  simp [hx]

theorem spelledInteger?_toString {n : Int} (hlow : leastWord ≤ n) (hhigh : n ≤ greatestWord) :
    spelledInteger? (toString n) = some n := by
  have hspells := Binary64.spells_toString n
  rw [spelledInteger?_eq_some_iff, Text.trim_eq_self hspells.not_isBlank]
  exact ⟨hspells, hlow, hhigh⟩

/-- The integer that a text is converted to is what it spells. -/
theorem spelledInteger?_of_toInteger? {s : String} {n : Int}
    (h : (Value.string s).toInteger? = some (.int n)) : spelledInteger? s = some n := by
  obtain ⟨m, hm, heq⟩ := Option.map_eq_some_iff.mp h
  cases heq
  exact hm

theorem toNumber?_eq_int_iff {s : String} {n : Int} (h : spelledInteger? s = some n) :
    (Value.string s).toNumber? = some (.int n) ↔ n ≤ greatestSignedWord := by
  refine ⟨fun hint => ?_, toNumber?_of_le h⟩
  by_contra hlt
  obtain ⟨x, hx, -⟩ := exists_toNumber?_of_lt h (not_le.mp hlt)
  rw [hint] at hx
  cases hx

/-- The numeral of an integer is converted to a number as the integer is, namely to itself, as long as a
signed word holds it. So it is with every text that is converted to the integer, also with a sign or
white space: conversion to a number is conversion to an integer there, and gives a nearest double behind
the signed words. -/
theorem converted_numeral_iff (n : Int) (hlow : leastWord ≤ n) (hhigh : n ≤ greatestWord) :
    (Value.int n).toNumber? = some (.int n) ∧
      ((Value.string (toString n)).toNumber? = (Value.int n).toNumber? ↔ n ≤ greatestSignedWord) ∧
      ∀ s : String, (Value.string s).toInteger? = some (.int n) →
        ((Value.string s).toNumber? = (Value.string s).toInteger? ↔ n ≤ greatestSignedWord) ∧
        (greatestSignedWord < n →
          ∃ x, (Value.string s).toNumber? = some (.number (.double x)) ∧ x.IsNearest n) := by
  refine ⟨rfl, toNumber?_eq_int_iff (spelledInteger?_toString hlow hhigh), fun s h => ?_⟩
  have hspelled := spelledInteger?_of_toInteger? h
  rw [h]
  exact ⟨toNumber?_eq_int_iff hspelled, exists_toNumber?_of_lt hspelled⟩

/-- A numeral with sign and white space, the least word, and the greatest one, which no double is. -/
theorem converted_numeral_bounds :
    (Value.string " +9223372036854775807\n").toNumber? =
      (Value.string " +9223372036854775807\n").toInteger? ∧
    (Value.string (toString leastWord)).toNumber? = some (.int leastWord) ∧
    ∃ x, (Value.string "18446744073709551615").toNumber? = some (.number (.double x)) ∧
      x.IsNearest greatestWord := by
  obtain ⟨-, -, hsigned⟩ := converted_numeral_iff greatestSignedWord (by decide) (by decide)
  obtain ⟨hleast, hnumeral, -⟩ := converted_numeral_iff leastWord le_rfl (by decide)
  obtain ⟨-, -, hgreatest⟩ := converted_numeral_iff greatestWord (by decide) le_rfl
  refine ⟨(hsigned " +9223372036854775807\n" (by decide +kernel)).1.mpr le_rfl, ?_, ?_⟩
  · rw [hnumeral.mpr (by decide), hleast]
  · exact (hgreatest "18446744073709551615" (by decide +kernel)).2 (by decide)

/-- The numeral of the greatest word is converted to an integer as what it spells, but to a number as a
double. -/
theorem converted_numeral_ne :
    ¬ ∀ (s : String) (w : Value), (Value.string s).toInteger? = some w →
      (Value.string s).toNumber? = some w := by
  intro h
  have hdouble := h "18446744073709551615" (.int 18446744073709551615) (by decide +kernel)
  exact absurd hdouble (by decide +kernel)

end ApiToolbox.Json.Value
