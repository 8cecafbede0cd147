import TiledStream.Fault
import TiledStream.Number.Decimal
import TiledStream.Text.DecimalDigit

/-! Durations and their manifest form `PT[[nH]nM]n.nS`. Seconds are read and written as a binary64
number and kept to the millisecond. -/

namespace TiledStream

structure Duration where
  nanoseconds : Nat
  deriving DecidableEq

namespace Duration

def seconds (duration : Duration) : Nat := duration.nanoseconds / 10 ^ 9

def subsecond (duration : Duration) : Nat := duration.nanoseconds % 10 ^ 9

def milliseconds (duration : Duration) : Nat := duration.nanoseconds / 10 ^ 6

def ofMilliseconds (count : Nat) : Duration := { nanoseconds := count * 10 ^ 6 }

def ofParts (seconds nanoseconds : Nat) : Duration :=
  { nanoseconds := seconds * 10 ^ 9 + nanoseconds }

structure Fields where
  hours : Option (List Char)
  minutes : Option (List Char)
  whole : List Char
  fraction : List Char
  deriving DecidableEq

def digitRun? (text : List Char) : Option (List Char × List Char) :=
  match text.takeWhile Text.isDecimalDigit with
  | [] => none
  | digits => some (digits, text.dropWhile Text.isDecimalDigit)

def secondsFields? (hours minutes : Option (List Char)) (whole rest : List Char) : Option Fields :=
  match rest with
  | '.' :: rest =>
    match digitRun? rest with
    | some (fraction, ['S']) => some { hours, minutes, whole, fraction }
    | _ => none
  | _ => none

def minutesFields? (hours : Option (List Char)) (minutes rest : List Char) : Option Fields :=
  match rest with
  | 'M' :: rest =>
    match digitRun? rest with
    | some (whole, rest) => secondsFields? hours (some minutes) whole rest
    | none => none
  | _ => none

def fields? (text : List Char) : Option Fields :=
  match text with
  | 'P' :: 'T' :: rest =>
    match digitRun? rest with
    | some (first, 'H' :: rest) =>
      match digitRun? rest with
      | some (minutes, rest) => minutesFields? (some first) minutes rest
      | none => none
    | some (first, 'M' :: rest) => minutesFields? none first ('M' :: rest)
    | some (first, rest) => secondsFields? none none first rest
    | none => none
  | _ => none

def count? : Option (List Char) → Option Nat
  | none => some 0
  | some digits => Text.readDigits? 64 digits

/-- The binary64 number of a seconds field, `none` unless its digits are those of ASCII. -/
def readSeconds? (whole fraction : List Char) : Option Number.Binary64 :=
  if (whole ++ fraction).all Char.isDigit then
    some (.ofRatio (Text.numberOf (whole ++ fraction)) (10 ^ fraction.length))
  else none

def millisecondsOf (seconds : Number.Binary64) : Nat :=
  (seconds.times 1000).roundUpTo (2 ^ 64 - 1)

/-- Whole seconds and milliseconds together. A count of seconds that leaves its word on the way is a
fault. -/
def ofCounts (hours minutes milliseconds : Nat) : Except Fault Duration := do
  let hourSeconds ← fitWord 64 (hours * 3600)
  let minuteSeconds ← fitWord 64 (minutes * 60)
  let whole ← fitWord 64 (hourSeconds + minuteSeconds)
  let _ ← fitWord 64 (whole + milliseconds / 1000)
  pure (ofMilliseconds (whole * 1000 + milliseconds))

def parse (text : List Char) : Except Fault (Option Duration) :=
  match fields? text with
  | none => .ok none
  | some fields =>
    match count? fields.hours, count? fields.minutes, readSeconds? fields.whole fields.fraction with
    | some hours, some minutes, some seconds =>
      (ofCounts hours minutes (millisecondsOf seconds)).map some
    | _, _, _ => .ok none

def write (duration : Duration) : List Char :=
  let total := duration.milliseconds % 2 ^ 64
  let hours := total / 3600000
  let minutes := total / 60000 % 60
  let seconds := (Number.Binary64.ofRatio (total % 60000) 1000).fixed 3 ++ ['S']
  if 0 < hours then
    "PT".toList ++ Text.digitsOf hours ++ 'H' :: Text.digitsOf minutes ++ 'M' :: seconds
  else if 0 < minutes then "PT".toList ++ Text.digitsOf minutes ++ 'M' :: seconds
  else "PT".toList ++ seconds

end Duration

end TiledStream
