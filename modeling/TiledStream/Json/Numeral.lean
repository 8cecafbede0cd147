import TiledStream.Number.Decimal

/-! Numerals of JSON text, and the numbers that they denote. -/

namespace TiledStream.Json

inductive Problem where
  | ended
  | malformed
  | unsuitable
  deriving DecidableEq

structure Numeral where
  negative : Bool
  whole : List Char
  fraction : Option (List Char)
  exponent : Option Int
  deriving DecidableEq

def digitRun (text : List Char) : Except Problem (List Char × List Char) :=
  match text with
  | [] => .error .ended
  | first :: _ =>
    if first.isDigit then .ok (text.takeWhile Char.isDigit, text.dropWhile Char.isDigit)
    else .error .malformed

def wholeRun (text : List Char) : Except Problem (List Char × List Char) :=
  match digitRun text with
  | .ok ('0' :: _ :: _, _) => .error .malformed
  | outcome => outcome

def fractionRun (text : List Char) : Except Problem (Option (List Char) × List Char) :=
  match text with
  | '.' :: rest => (digitRun rest).map fun run => (some run.1, run.2)
  | _ => .ok (none, text)

def exponentRun (text : List Char) : Except Problem (Option Int × List Char) :=
  match text with
  | mark :: rest =>
    if mark = 'e' ∨ mark = 'E' then
      match rest with
      | '-' :: rest => (digitRun rest).map fun run => (some (-(Text.numberOf run.1 : Int)), run.2)
      | '+' :: rest => (digitRun rest).map fun run => (some (Text.numberOf run.1 : Int), run.2)
      | rest => (digitRun rest).map fun run => (some (Text.numberOf run.1 : Int), run.2)
    else .ok (none, text)
  | [] => .ok (none, text)

def unsignedNumeral (negative : Bool) (text : List Char) : Except Problem (Numeral × List Char) :=
  match wholeRun text with
  | .error problem => .error problem
  | .ok (whole, text) =>
    match fractionRun text with
    | .error problem => .error problem
    | .ok (fraction, text) =>
      match exponentRun text with
      | .error problem => .error problem
      | .ok (exponent, text) => .ok ({ negative, whole, fraction, exponent }, text)

def numeral (text : List Char) : Except Problem (Numeral × List Char) :=
  match text with
  | '-' :: rest => unsignedNumeral true rest
  | _ => unsignedNumeral false text

namespace Numeral

def readWhileFits (total : Nat) (digits : List Char) : Nat × List Char :=
  match digits with
  | [] => (total, [])
  | digit :: rest =>
    let longer := total * 10 + Text.digitValue digit
    if longer < 2 ^ 64 then readWhileFits longer rest else (total, digits)

/-- The binary64 number of a numeral: its leading digits, as many as fit a word, scaled once.
`none` when it is too great. -/
def value? (numeral : Numeral) : Option Float :=
  let digits := numeral.fraction.getD []
  let (leading, unread) := readWhileFits 0 numeral.whole
  let (significand, unused) := readWhileFits leading digits
  let exponent : Int :=
    unread.length - (digits.length - unused.length : Nat) + numeral.exponent.getD 0
  (Number.scaleByTens? (Number.floatOfNat significand) exponent).map fun value =>
    if numeral.negative then -value else value

def natural? (numeral : Numeral) : Option Nat :=
  if numeral.negative ∨ numeral.fraction.isSome ∨ numeral.exponent.isSome then none
  else Text.readDigits? 64 numeral.whole

end Numeral

theorem digitRun_shorter {text digits rest : List Char}
    (read : digitRun text = .ok (digits, rest)) : rest.length < text.length := by
  unfold digitRun at read
  split at read
  · simp at read
  · rename_i first following
    split at read
    · rename_i isDigit
      simp only [Except.ok.injEq, Prod.mk.injEq] at read
      have bound := (List.dropWhile_suffix (l := following) Char.isDigit).length_le
      simp only [List.dropWhile_cons, isDigit, if_true] at read
      simp only [← read.2, List.length_cons]
      omega
    · simp at read

theorem wholeRun_shorter {text digits rest : List Char}
    (read : wholeRun text = .ok (digits, rest)) : rest.length < text.length := by
  unfold wholeRun at read
  split at read
  · simp at read
  · exact digitRun_shorter read

theorem digitRun_map_shorter {α : Type} {text rest : List Char} {value : α} (shape : List Char → α)
    (read : ((digitRun text).map fun run => (shape run.1, run.2)) = .ok (value, rest)) :
    rest.length < text.length := by
  cases run : digitRun text with
  | error problem => simp [run, Except.map] at read
  | ok parts =>
    simp only [run, Except.map, Except.ok.injEq, Prod.mk.injEq] at read
    exact read.2 ▸ digitRun_shorter run

theorem fractionRun_length_le {text rest : List Char} {fraction : Option (List Char)}
    (read : fractionRun text = .ok (fraction, rest)) : rest.length ≤ text.length := by
  unfold fractionRun at read
  split at read
  · have shorter := digitRun_map_shorter some read
    simp only [List.length_cons]
    omega
  · simp only [Except.ok.injEq, Prod.mk.injEq] at read
    simp [read.2]

theorem exponentRun_length_le {text rest : List Char} {exponent : Option Int}
    (read : exponentRun text = .ok (exponent, rest)) : rest.length ≤ text.length := by
  unfold exponentRun at read
  split at read
  · split at read
    · split at read
      · have shorter := digitRun_map_shorter (fun run => some (-(Text.numberOf run : Int))) read
        simp only [List.length_cons]
        omega
      · have shorter := digitRun_map_shorter (fun run => some (Text.numberOf run : Int)) read
        simp only [List.length_cons]
        omega
      · have shorter := digitRun_map_shorter (fun run => some (Text.numberOf run : Int)) read
        simp only [List.length_cons]
        omega
    · simp only [Except.ok.injEq, Prod.mk.injEq] at read
      simp [← read.2]
  · simp only [Except.ok.injEq, Prod.mk.injEq] at read
    simp [← read.2]

theorem unsignedNumeral_shorter {negative : Bool} {text rest : List Char} {found : Numeral}
    (read : unsignedNumeral negative text = .ok (found, rest)) : rest.length < text.length := by
  unfold unsignedNumeral at read
  split at read
  · simp at read
  · rename_i whole
    split at read
    · simp at read
    · rename_i fraction
      split at read
      · simp at read
      · rename_i exponent
        simp only [Except.ok.injEq, Prod.mk.injEq] at read
        have first := wholeRun_shorter whole
        have second := fractionRun_length_le fraction
        have third := exponentRun_length_le exponent
        rw [← read.2]
        omega

theorem numeral_shorter {text rest : List Char} {found : Numeral}
    (read : numeral text = .ok (found, rest)) : rest.length < text.length := by
  unfold numeral at read
  split at read
  · have shorter := unsignedNumeral_shorter read
    simp only [List.length_cons]
    omega
  · exact unsignedNumeral_shorter read

end TiledStream.Json
