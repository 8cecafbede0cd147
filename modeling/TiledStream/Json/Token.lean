import TiledStream.Json.Numeral
import TiledStream.Text.Hexadecimal

/-! JSON text as a list of tokens. A token that the text breaks off or garbles is the last one and
keeps the problem, so that what stands before it is judged first. -/

namespace TiledStream.Json

inductive Letter where
  | char (value : Char)
  | unit (code : Nat)
  deriving DecidableEq

inductive Ending where
  | closed (rest : List Char)
  | broken (problem : Problem)
  deriving DecidableEq

def codeUnit (digits : List Char) : Except Problem Nat :=
  if (String.ofList digits).utf8ByteSize < 4 then .error .ended
  else
    match Text.hexNumber? digits with
    | some code => .ok code
    | none => .error .malformed

def escaped? : Char → Option Char
  | '"' => some '"'
  | '\\' => some '\\'
  | '/' => some '/'
  | 'b' => some '\x08'
  | 'f' => some '\x0c'
  | 'n' => some '\n'
  | 'r' => some '\r'
  | 't' => some '\t'
  | _ => none

def letters : List Char → List Letter × Ending
  | [] => ([], .broken .ended)
  | '"' :: rest => ([], .closed rest)
  | '\\' :: rest =>
    match rest with
    | [] => ([], .broken .ended)
    | 'u' :: rest =>
      match codeUnit (rest.take 4) with
      | .error problem => ([], .broken problem)
      | .ok code =>
        let (following, ending) := letters (rest.drop 4)
        (.unit code :: following, ending)
    | c :: rest =>
      match escaped? c with
      | none => ([], .broken .malformed)
      | some value =>
        let (following, ending) := letters rest
        (.char value :: following, ending)
  | c :: rest =>
    if c < ' ' then ([], .broken .malformed)
    else
      let (following, ending) := letters rest
      (.char c :: following, ending)
  termination_by text => text.length
  decreasing_by all_goals (simp only [List.length_drop, List.length_cons]; omega)

def isHigh (code : Nat) : Bool := 0xD800 ≤ code && code < 0xDC00

def isLow (code : Nat) : Bool := 0xDC00 ≤ code && code < 0xE000

def pairedChar (high low : Nat) : Char :=
  Char.ofNat (0x10000 + (high - 0xD800) * 0x400 + (low - 0xDC00))

/-- The characters of a quoted text, `none` when a code unit of a pair lacks the other. Unless the
text is closed, the last one may still find it. -/
def characters? (closed : Bool) : List Letter → Option (List Char)
  | [] => some []
  | .char value :: rest => (characters? closed rest).map (value :: ·)
  | .unit code :: rest =>
    if isLow code then none
    else if isHigh code then
      match rest with
      | .unit low :: rest =>
        if isLow low then (characters? closed rest).map (pairedChar code low :: ·) else none
      | .char _ :: _ => none
      | [] => if closed then none else some []
    else (characters? closed rest).map (Char.ofNat code :: ·)

inductive Token where
  | openList
  | closeList
  | openObject
  | closeObject
  | comma
  | colon
  /-- One of the three names. -/
  | word
  | number (numeral : Numeral)
  /-- A quoted text, `none` when its escapes form no characters. -/
  | text (content : Option String)
  /-- A quoted text with a problem, and the problem when it is passed over unread. -/
  | brokenText (problem passing : Problem)
  /-- A name or number with a problem, and the problem when it is passed over unread. -/
  | broken (problem passing : Problem)
  /-- A character that begins no token. -/
  | stray
  deriving DecidableEq

def wordToken (expected text : List Char) : Token × List Char :=
  match expected, text with
  | [], rest => (.word, rest)
  | _ :: _, [] => (.broken .ended .ended, [])
  | c :: expected, first :: rest =>
    if c = first then wordToken expected rest else (.broken .malformed .malformed, [])

def textToken (text : List Char) : Token × List Char :=
  match letters text with
  | (content, .closed rest) => (.text ((characters? true content).map String.ofList), rest)
  | (content, .broken problem) =>
    let strict := if (characters? false content).isSome then problem else .malformed
    (.brokenText strict problem, [])

def numberToken (text : List Char) : Token × List Char :=
  match numeral text with
  | .ok (found, rest) => (.number found, rest)
  | .error problem => (.broken problem .malformed, [])

def nextToken (first : Char) (rest : List Char) : Token × List Char :=
  match first with
  | '[' => (.openList, rest)
  | ']' => (.closeList, rest)
  | '\x7b' => (.openObject, rest)
  | '\x7d' => (.closeObject, rest)
  | ',' => (.comma, rest)
  | ':' => (.colon, rest)
  | '"' => textToken rest
  | 'n' => wordToken "ull".toList rest
  | 't' => wordToken "rue".toList rest
  | 'f' => wordToken "alse".toList rest
  | first =>
    if first = '-' ∨ first.isDigit then numberToken (first :: rest) else (.stray, [])

theorem letters_shorter {text rest : List Char} {content : List Letter}
    (read : letters text = (content, .closed rest)) : rest.length < text.length := by
  fun_induction letters text generalizing content with
  | case1 => simp at read
  | case2 => simp_all
  | case3 => simp at read
  | case4 => simp at read
  | case5 source code found following ending result ih =>
    simp only [Prod.mk.injEq] at read
    have bound := @ih following (by simp [result, read.2])
    simp only [List.length_drop, List.length_cons] at bound ⊢
    omega
  | case6 => simp at read
  | case7 c source _ value found following ending result ih =>
    simp only [Prod.mk.injEq] at read
    have bound := @ih following (by simp [result, read.2])
    simp only [List.length_cons]
    omega
  | case8 => simp at read
  | case9 c source _ _ printable following ending result ih =>
    simp only [Prod.mk.injEq] at read
    have bound := @ih following (by simp [result, read.2])
    simp only [List.length_cons]
    omega

theorem wordToken_length_le (expected text : List Char) :
    (wordToken expected text).2.length ≤ text.length := by
  fun_induction wordToken expected text with
  | case1 => exact Nat.le_refl _
  | case2 => exact Nat.le_refl _
  | case3 c expected rest ih =>
    simp only [List.length_cons]
    omega
  | case4 => exact Nat.zero_le _

theorem textToken_length_le (text : List Char) : (textToken text).2.length ≤ text.length := by
  unfold textToken
  split
  · rename_i found
    exact Nat.le_of_lt (letters_shorter found)
  · simp

theorem numberToken_length_le (first : Char) (rest : List Char) :
    (numberToken (first :: rest)).2.length ≤ rest.length := by
  unfold numberToken
  split
  · rename_i found
    have shorter := numeral_shorter found
    simp only [List.length_cons] at shorter ⊢
    omega
  · simp

theorem nextToken_length_le (first : Char) (rest : List Char) :
    (nextToken first rest).2.length ≤ rest.length := by
  unfold nextToken
  split
  all_goals first
    | exact Nat.le_refl _
    | exact textToken_length_le rest
    | exact wordToken_length_le _ rest
    | skip
  split
  · exact numberToken_length_le _ rest
  · simp

def isSpace (c : Char) : Bool := c == ' ' || c == '\n' || c == '\t' || c == '\r'

def tokens (text : List Char) : List Token :=
  match _found : text.dropWhile isSpace with
  | [] => []
  | first :: rest => (nextToken first rest).1 :: tokens (nextToken first rest).2
  termination_by text.length
  decreasing_by
    have shorter := (List.dropWhile_suffix (l := text) isSpace).length_le
    have bound := nextToken_length_le first rest
    rw [_found] at shorter
    simp only [List.length_cons] at shorter
    omega

end TiledStream.Json
