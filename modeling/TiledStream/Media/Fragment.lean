import TiledStream.Media.Decoder

/-! Fragmented media: boxes one after another, of which each media data box holds one frame. -/

namespace TiledStream.Fragment

abbrev Kind := Bytes

def kindOf (name : String) : Kind := Utf8.encode name

def mediaData : Kind := kindOf "mdat"

def leading : List Kind := [kindOf "ftyp", kindOf "styp", kindOf "moov"]

structure Header where
  kind : Kind
  payload : Nat
  deriving DecidableEq

inductive Corruption where
  | short
  | size (kind : Kind) (declared available : Nat)
  deriving DecidableEq

def kindText (kind : Kind) : String := Text.quote (String.ofList (Utf8.decodeLenient kind))

def Corruption.message : Corruption → String
  | .short => "failed to fill whole buffer"
  | .size kind declared available =>
    "box " ++ kindText kind ++ " declares " ++ toString declared ++ " bytes, " ++
      toString available ++ " available"

def Corruption.error (corruption : Corruption) : StreamError :=
  .badResponse ("corrupted MP4 box: " ++ corruption.message)

/-- The declared size and the length of the header, given the size field. Zero stands for all that
is left, one for a size of eight bytes after the kind. -/
def readSize (cursor : Cursor) (field : Nat) : Option (Nat × Nat) × Cursor :=
  if field = 0 then (some (cursor.remaining + 8, 8), cursor)
  else if field = 1 then
    match cursor.readExact 8 with
    | (some bytes, after) => (some (Cursor.bigEndian bytes, 16), after)
    | (none, after) => (none, after)
  else (some (field, 8), cursor)

def checkHeader (kind : Kind) (size length remaining : Nat) : Except Corruption Header :=
  if size < length ∨ remaining < size - length then
    .error (.size kind size (remaining + length))
  else .ok { kind, payload := size - length }

def readHeader (cursor : Cursor) : Except Corruption (Option Header) × Cursor :=
  if cursor.remaining = 0 then (.ok none, cursor)
  else
    match cursor.readExact 4 with
    | (none, after) => (.error .short, after)
    | (some field, after) =>
      match after.readExact 4 with
      | (none, after) => (.error .short, after)
      | (some kind, after) =>
        match readSize after (Cursor.bigEndian field) with
        | (none, after) => (.error .short, after)
        | (some (size, length), after) =>
          ((checkHeader kind size length after.remaining).map some, after)

structure Walk where
  cursor : Cursor
  flushed : Bool
  deriving DecidableEq

def openSegment (cursor : Cursor) : Except StreamError Walk :=
  match (readHeader cursor).1 with
  | .error corruption => .error corruption.error
  | .ok none => .error (.badResponse "empty segment")
  | .ok (some header) =>
    if leading.contains header.kind then
      .ok { cursor := { cursor with position := 0 }, flushed := false }
    else .error (.badResponse ("stream starts with " ++ kindText header.kind ++ " box"))

/-- Passes over boxes up to the payload of the next media data box, if there is one. A box is at
least eight bytes long, which bounds the number of steps. -/
def nextPayload (cursor : Cursor) : (steps : Nat) → Except Corruption (Option Bytes) × Cursor
  | 0 => (.ok none, cursor)
  | steps + 1 =>
    match readHeader cursor with
    | (.error corruption, after) => (.error corruption, after)
    | (.ok none, after) => (.ok none, after)
    | (.ok (some header), after) =>
      if header.kind = mediaData then
        match after.readExact header.payload with
        | (some payload, after) => (.ok (some payload), after)
        | (none, after) => (.error .short, after)
      else nextPayload { after with position := after.position + header.payload } steps

def send (walk : Walk) : Except StreamError (List Frame) × Walk :=
  if walk.flushed then (.ok [], walk)
  else
    match nextPayload walk.cursor (walk.cursor.remaining + 1) with
    | (.error corruption, cursor) => (.error corruption.error, { walk with cursor })
    | (.ok none, cursor) => (.ok [], { cursor, flushed := true })
    | (.ok (some payload), cursor) => (.ok [Frame.unnumbered 0 0 payload], { walk with cursor })

def orStreamError {α : Type} : Except StreamError α → Except Failure α
  | .ok value => .ok value
  | .error error => .error (.error error)

def engine : Engine where
  State := Walk
  openSegment _ cursor := orStreamError (openSegment cursor)
  send walk :=
    match send walk with
    | (result, walk) => (orStreamError result, walk)
  isFlushed := Walk.flushed

end TiledStream.Fragment
