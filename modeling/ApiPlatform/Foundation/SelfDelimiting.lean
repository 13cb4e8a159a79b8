import Mathlib.Data.List.Basic
import ApiPlatform.Foundation.GoStrings

/-!
# Self-delimiting codes

A code is self-delimiting when a code word can be cut off the front of a text in
one way only. A sequence of words can then be read back, whatever follows it.
-/

namespace ApiPlatform.Foundation

variable {Value Symbol : Type*}

def SelfDelimiting (encode : Value → List Symbol) : Prop :=
  ∀ left right leftRest rightRest, encode left ++ leftRest = encode right ++ rightRest →
    left = right ∧ leftRest = rightRest

theorem SelfDelimiting.flatMap_injective {encode : Value → List Symbol}
    (hcode : SelfDelimiting encode) (hne : ∀ value, encode value ≠ []) :
    Function.Injective (List.flatMap encode) := by
  intro left
  induction left with
  | nil =>
    intro right heq
    cases right with
    | nil => rfl
    | cons value values =>
      have hempty := (List.append_eq_nil_iff.mp heq.symm).1
      exact absurd hempty (hne value)
  | cons first rest ih =>
    intro right heq
    cases right with
    | nil => exact absurd (List.append_eq_nil_iff.mp heq).1 (hne first)
    | cons value values =>
      obtain ⟨rfl, hrest⟩ := hcode first value _ _ heq
      rw [ih hrest]

theorem selfDelimiting_of_length {encode : Value → List Symbol} {size : Nat}
    (hinjective : Function.Injective encode) (hlength : ∀ value, (encode value).length = size) :
    SelfDelimiting encode := by
  intro left right leftRest rightRest heq
  obtain ⟨hwords, hrest⟩ := List.append_inj heq (by rw [hlength, hlength])
  exact ⟨hinjective hwords, hrest⟩

/-- A value written behind its own length, with marks that end the length and the value. -/
def lengthFramed (size : Nat → List Symbol) (colon bar : Symbol) (value : List Symbol) :
    List Symbol :=
  size value.length ++ colon :: (value ++ [bar])

theorem lengthFramed_selfDelimiting {size : Nat → List Symbol} {colon : Symbol}
    (hsize : Function.Injective size) (hcolon : ∀ length, colon ∉ size length) (bar : Symbol) :
    SelfDelimiting (lengthFramed size colon bar) := by
  intro left right leftRest rightRest heq
  have hframes : size left.length ++ colon :: (left ++ bar :: leftRest) =
      size right.length ++ colon :: (right ++ bar :: rightRest) := by
    simpa [lengthFramed] using heq
  -- the first colon ends the length, and the length says where the value ends
  obtain ⟨hlengths, hvalues⟩ := (append_mark_inj (hcolon _) (hcolon _)).mp hframes
  obtain ⟨hvalue, hrest⟩ := List.append_inj hvalues (hsize hlengths)
  exact ⟨hvalue, (List.cons.inj hrest).2⟩

/-! ## Digits -/

theorem digitChar_inj : ∀ left < 16, ∀ right < 16,
    Nat.digitChar left = Nat.digitChar right → left = right := by
  decide

theorem exists_digit_of_mem_toDigits {base number : Nat} {char : Char} (hone : 1 < base)
    (hchar : char ∈ Nat.toDigits base number) : ∃ digit < base, char = Nat.digitChar digit := by
  induction number using Nat.strong_induction_on with
  | _ number ih =>
    rw [Nat.toDigits_eq_if hone] at hchar
    split_ifs at hchar with hlt
    · exact ⟨number, hlt, List.mem_singleton.mp hchar⟩
    · rcases List.mem_append.mp hchar with hfront | hlast
      · exact ih (number / base) (Nat.div_lt_self (by omega) hone) hfront
      · exact ⟨number % base, Nat.mod_lt _ (by omega), List.mem_singleton.mp hlast⟩

theorem toDigits_inj {base : Nat} (hone : 1 < base) (hbase : base ≤ 16) :
    Function.Injective (Nat.toDigits base) := by
  intro left
  induction left using Nat.strong_induction_on with
  | _ left ih =>
    intro right heq
    rw [Nat.toDigits_eq_if hone, Nat.toDigits_eq_if hone (n := right)] at heq
    have hmod : ∀ number, number % base < 16 := fun number =>
      (Nat.mod_lt number (by omega)).trans_le hbase
    split_ifs at heq with hleft hright hright
    · exact digitChar_inj left (by omega) right (by omega) (List.singleton_inj.mp heq)
    · have hlengths := congrArg List.length heq
      simp at hlengths
    · have hlengths := congrArg List.length heq
      simp at hlengths
    · obtain ⟨hdigits, hlast⟩ := List.append_inj' heq rfl
      have hquotient : left / base = right / base :=
        ih (left / base) (Nat.div_lt_self (by omega) hone) hdigits
      have hremainder : left % base = right % base :=
        digitChar_inj _ (hmod left) _ (hmod right) (List.singleton_inj.mp hlast)
      rw [← Nat.div_add_mod left base, ← Nat.div_add_mod right base, hquotient, hremainder]

end ApiPlatform.Foundation
