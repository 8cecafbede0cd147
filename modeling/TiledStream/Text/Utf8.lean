/-! Strict and lenient reading of UTF-8. The strict reader says where the longest valid part ends
and how many bytes after it belong to no character. -/

namespace TiledStream

abbrev Bytes := List UInt8

namespace Utf8

/-- What the head of some bytes is: a character, or a sequence that no character has, or one
that the end of the input cuts short. `tail` counts the bytes after the first. -/
inductive Head where
  | char (value : Char) (tail : Nat)
  | bad (tail : Nat)
  | short

def isTail (byte : UInt8) : Bool := 0x80 ≤ byte && byte ≤ 0xBF

def secondBounds (first : UInt8) : UInt8 × UInt8 :=
  if first == 0xE0 then (0xA0, 0xBF)
  else if first == 0xED then (0x80, 0x9F)
  else if first == 0xF0 then (0x90, 0xBF)
  else if first == 0xF4 then (0x80, 0x8F)
  else (0x80, 0xBF)

def isSecond (first second : UInt8) : Bool :=
  (secondBounds first).1 ≤ second && second ≤ (secondBounds first).2

def bits (byte : UInt8) (modulus : Nat) : Nat := byte.toNat % modulus

def head (first : UInt8) (rest : Bytes) : Head :=
  if first < 0x80 then .char (Char.ofNat first.toNat) 0
  else if first < 0xC2 || 0xF4 < first then .bad 0
  else if first < 0xE0 then
    match rest with
    | [] => .short
    | second :: _ =>
      if isTail second then .char (Char.ofNat (bits first 32 * 64 + bits second 64)) 1 else .bad 0
  else if first < 0xF0 then
    match rest with
    | [] => .short
    | second :: rest =>
      if !isSecond first second then .bad 0 else
      match rest with
      | [] => .short
      | third :: _ =>
        if isTail third then
          .char (Char.ofNat ((bits first 16 * 64 + bits second 64) * 64 + bits third 64)) 2
        else .bad 1
  else
    match rest with
    | [] => .short
    | second :: rest =>
      if !isSecond first second then .bad 0 else
      match rest with
      | [] => .short
      | third :: rest =>
        if !isTail third then .bad 1 else
        match rest with
        | [] => .short
        | fourth :: _ =>
          if isTail fourth then
            .char (Char.ofNat
              (((bits first 8 * 64 + bits second 64) * 64 + bits third 64) * 64 + bits fourth 64)) 3
          else .bad 2

inductive Malformed where
  | invalid (size position : Nat)
  | incomplete (position : Nat)

def Malformed.message : Malformed → String
  | .invalid size position => s!"invalid utf-8 sequence of {size} bytes from index {position}"
  | .incomplete position => s!"incomplete utf-8 byte sequence from index {position}"

def decodeFrom (position : Nat) : Bytes → Except Malformed (List Char)
  | [] => .ok []
  | first :: rest =>
    match head first rest with
    | .char value tail => do
      let following ← decodeFrom (position + 1 + tail) (rest.drop tail)
      pure (value :: following)
    | .bad tail => .error (.invalid (tail + 1) position)
    | .short => .error (.incomplete position)
  termination_by bytes => bytes.length
  decreasing_by simp only [List.length_drop, List.length_cons]; omega

def decode (bytes : Bytes) : Except Malformed String :=
  (decodeFrom 0 bytes).map String.ofList

def decodeLenient : Bytes → List Char
  | [] => []
  | first :: rest =>
    match head first rest with
    | .char value tail => value :: decodeLenient (rest.drop tail)
    | .bad tail => '\uFFFD' :: decodeLenient (rest.drop tail)
    | .short => ['\uFFFD']
  termination_by bytes => bytes.length
  decreasing_by all_goals (simp only [List.length_drop, List.length_cons]; omega)

def encode (text : String) : Bytes := text.toUTF8.data.toList

end Utf8

end TiledStream
