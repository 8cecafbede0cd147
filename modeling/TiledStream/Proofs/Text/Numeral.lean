import TiledStream.Text.Blank
import TiledStream.Text.DecimalDigit
import TiledStream.Text.Unsigned

/-! Written numbers are read back. -/

namespace TiledStream.Text

theorem isDigit_of_mem_digitsOf {c : Char} {number : Nat} (member : c ∈ digitsOf number) :
    c.isDigit = true :=
  Nat.isDigit_of_mem_toDigits (by decide) (by decide) member

theorem digitsOf_ne_nil (number : Nat) : digitsOf number ≠ [] := Nat.toDigits_ne_nil

theorem numberOf_eq (digits : List Char) : numberOf digits = Nat.ofDigitChars 10 digits 0 := by
  rw [Nat.ofDigitChars_eq_foldl, numberOf]
  simp only [digitValue, Nat.mul_comm]

@[simp] theorem numberOf_digitsOf (number : Nat) : numberOf (digitsOf number) = number := by
  rw [numberOf_eq, digitsOf, Nat.ofDigitChars_ten_toDigits]

theorem numberOf_append (leading trailing : List Char) :
    numberOf (leading ++ trailing) =
      10 ^ trailing.length * numberOf leading + numberOf trailing := by
  rw [numberOf_eq, numberOf_eq, numberOf_eq, Nat.ofDigitChars_append,
    Nat.ofDigitChars_eq_ofDigitChars_zero]

theorem readDigits?_eq_some_iff {bits number : Nat} {text : List Char} :
    readDigits? bits text = some number ↔ text ≠ [] ∧ (∀ c ∈ text, c.isDigit = true) ∧
      numberOf text < 2 ^ bits ∧ numberOf text = number := by
  unfold readDigits?
  split
  · rename_i outside
    simp only [reduceCtorEq, false_iff]
    rintro ⟨nonempty, all, _⟩
    rw [List.all_eq_true.mpr all] at outside
    simp [nonempty] at outside
  · rename_i digits
    rw [not_or, Bool.not_eq_false, List.all_eq_true] at digits
    split
    · rename_i small
      rw [Option.some.injEq]
      exact ⟨fun same => ⟨digits.1, digits.2, small, same⟩, fun read => read.2.2.2⟩
    · rename_i large
      simp only [reduceCtorEq, false_iff]
      rintro ⟨_, _, small, _⟩
      exact large small

theorem readDigits?_digitsOf {bits number : Nat} (small : number < 2 ^ bits) :
    readDigits? bits (digitsOf number) = some number := by
  have same := numberOf_digitsOf number
  refine readDigits?_eq_some_iff.mpr ⟨digitsOf_ne_nil number, ?_, same.symm ▸ small, same⟩
  exact fun _ member => isDigit_of_mem_digitsOf member

theorem readUnsigned?_digits {digits : List Char} (bits : Nat)
    (all : ∀ c ∈ digits, c.isDigit = true) : readUnsigned? bits digits = readDigits? bits digits := by
  unfold readUnsigned?
  split
  · rename_i rest
    have plus := all '+' List.mem_cons_self
    simp at plus
  · rfl

@[simp] theorem readUnsigned?_digitsOf {bits number : Nat} (small : number < 2 ^ bits) :
    readUnsigned? bits (digitsOf number) = some number := by
  rw [readUnsigned?_digits bits fun _ member => isDigit_of_mem_digitsOf member,
    readDigits?_digitsOf small]

theorem toNat_of_isDigit {c : Char} (digit : c.isDigit = true) : 48 ≤ c.toNat ∧ c.toNat ≤ 57 := by
  simp only [Char.isDigit, Bool.and_eq_true, decide_eq_true_eq] at digit
  obtain ⟨least, greatest⟩ := digit
  exact ⟨UInt32.le_iff_toNat_le.mp least, UInt32.le_iff_toNat_le.mp greatest⟩

theorem isBlank_of_isDigit {c : Char} (digit : c.isDigit = true) : isBlank c = false := by
  have range := toNat_of_isDigit digit
  simp [isBlank]
  omega

theorem isDecimalDigit_of_isDigit {c : Char} (digit : c.isDigit = true) :
    isDecimalDigit c = true := by
  have range := toNat_of_isDigit digit
  rw [isDecimalDigit, List.any_eq_true]
  refine ⟨0x30, List.mem_cons_self, ?_⟩
  simp only [Bool.and_eq_true, decide_eq_true_eq]
  omega

theorem trim_of_not_blank {text : List Char} (all : ∀ c ∈ text, isBlank c = false) :
    trim text = text := by
  have kept (part : List Char) (none : ∀ c ∈ part, isBlank c = false) :
      part.dropWhile isBlank = part := by
    cases part with
    | nil => rfl
    | cons c rest => rw [List.dropWhile_cons, none c List.mem_cons_self]; rfl
  rw [trim, kept text all, trimEnd, kept text.reverse fun c member => all c (by simpa using member),
    List.reverse_reverse]

@[simp] theorem trim_digitsOf (number : Nat) : trim (digitsOf number) = digitsOf number :=
  trim_of_not_blank fun _ member => isBlank_of_isDigit (isDigit_of_mem_digitsOf member)

theorem isDigit_of_mem_padded {c : Char} {width number : Nat} (member : c ∈ padded width number) :
    c.isDigit = true := by
  rw [padded, List.leftpad, List.mem_append] at member
  rcases member with zero | digit
  · rw [List.eq_of_mem_replicate zero]
    decide
  · exact isDigit_of_mem_digitsOf digit

@[simp] theorem numberOf_padded (width number : Nat) : numberOf (padded width number) = number := by
  rw [padded, List.leftpad, numberOf_eq, Nat.ofDigitChars_append, Nat.ofDigitChars_replicate_zero,
    Nat.mul_zero, digitsOf, Nat.ofDigitChars_ten_toDigits]

theorem length_padded {width number : Nat} (positive : 0 < width) (small : number < 10 ^ width) :
    (padded width number).length = width := by
  have fits : (digitsOf number).length ≤ width :=
    (Nat.length_toDigits_le_iff (by decide) positive).mpr small
  rw [padded, List.leftpad, List.length_append, List.length_replicate]
  omega

end TiledStream.Text
