import TiledStream.StreamError
import TiledStream.Text.Hexadecimal

/-! Character and entity references in character data, and the escapes that write it. -/

namespace TiledStream.Markup

def byteLength (text : List Char) : Nat := (text.map Char.utf8Size).sum

def codeDigit (base code : Nat) (c : Char) : Except CodeError Nat :=
  match (Text.hexValue? c).filter (· < base) with
  | some digit =>
    if code * base + digit < 2 ^ 32 then .ok (code * base + digit) else .error .tooLarge
  | none => .error .badDigit

def readCode (base : Nat) (digits : List Char) : Except CodeError Nat :=
  match digits with
  | [] => .error .empty
  | '+' :: _ | '-' :: _ => .error .signed
  | _ => digits.foldlM (codeDigit base) 0

def charOf (code : Nat) : Except CodeError Char :=
  if code = 0 then .error .zero
  else if code.isValidChar then .ok (Char.ofNat code)
  else .error (.noCharacter code)

def readCharacter (base : Nat) (digits : List Char) : Except ReferenceError Char :=
  (readCode base digits >>= charOf).mapError .code

def referent (place : Nat) (name : List Char) : Except ReferenceError Char :=
  match name with
  | '#' :: 'x' :: digits => readCharacter 16 digits
  | '#' :: digits => readCharacter 10 digits
  | _ =>
    match String.ofList name with
    | "amp" => .ok '&'
    | "lt" => .ok '<'
    | "gt" => .ok '>'
    | "quot" => .ok '"'
    | "apos" => .ok '\''
    | other => .error (.unknown place (place + byteLength name) other)

def referenceName (text : List Char) : List Char := text.takeWhile fun c => c != ';' && c != '&'

def unescapeFrom (whole : Nat) (source : List Char) : Except ReferenceError (List Char) :=
  match source with
  | [] => .ok []
  | c :: rest =>
    if c = '&' then
      let name := referenceName rest
      if rest[name.length]? = some ';' then do
        let named ← referent (whole - byteLength rest) name
        (unescapeFrom whole (rest.drop (name.length + 1))).map (named :: ·)
      else .error (.unfinished (whole - byteLength source) whole)
    else (unescapeFrom whole rest).map (c :: ·)
  termination_by source.length
  decreasing_by all_goals grind

def unescape (source : List Char) : Except MarkupError (List Char) :=
  (unescapeFrom (byteLength source) source).mapError .badReference

def escapeChar (c : Char) : List Char :=
  match c with
  | '<' => "&lt;".toList
  | '>' => "&gt;".toList
  | '&' => "&amp;".toList
  | '\'' => "&apos;".toList
  | '"' => "&quot;".toList
  | _ => [c]

def escape (text : List Char) : List Char := text.flatMap escapeChar

end TiledStream.Markup
