import TiledStream.Prelude
import TiledStream.Text.Utf8

/-! A reading position over an initialization part followed by a media part. A single read stops at
the end of a part. -/

namespace TiledStream

structure Cursor where
  initial : Bytes
  media : Bytes
  position : Nat
  deriving DecidableEq

namespace Cursor

def start (initial media : Bytes) : Cursor := { initial, media, position := 0 }

def length (cursor : Cursor) : Nat := cursor.initial.length + cursor.media.length

def remaining (cursor : Cursor) : Nat := cursor.length - cursor.position

def chunk (cursor : Cursor) : Bytes :=
  if cursor.position < cursor.initial.length then cursor.initial.drop cursor.position
  else cursor.media.drop (cursor.position - cursor.initial.length)

def read (cursor : Cursor) (count : Nat) : Bytes × Cursor :=
  let found := cursor.chunk.take count
  (found, { cursor with position := cursor.position + found.length })

def readExact (cursor : Cursor) (count : Nat) : Option Bytes × Cursor :=
  if count = 0 then (some [], cursor)
  else
    match _found : cursor.read count with
    | ([], after) => (none, after)
    | (first :: rest, after) =>
      let following := after.readExact (count - (rest.length + 1))
      (following.1.map (first :: rest ++ ·), following.2)
  termination_by count

theorem remaining_read_lt {cursor after : Cursor} {count : Nat} {first : UInt8} {rest : Bytes}
    (found : cursor.read count = (first :: rest, after)) : after.remaining < cursor.remaining := by
  simp only [read, Prod.mk.injEq] at found
  obtain ⟨bytes, same⟩ := found
  have size := congrArg List.length bytes
  simp only [List.length_take, List.length_cons, chunk] at size
  subst same
  simp only [remaining, length, bytes, List.length_cons]
  split at size <;> simp only [List.length_drop] at size <;> omega

def readToEnd (cursor : Cursor) : Bytes × Cursor :=
  match _found : cursor.read cursor.remaining with
  | ([], after) => ([], after)
  | (first :: rest, after) =>
    let following := after.readToEnd
    (first :: rest ++ following.1, following.2)
  termination_by cursor.remaining
  decreasing_by exact remaining_read_lt _found

inductive Origin where
  | start
  | stop
  | current

def base (cursor : Cursor) : Origin → Nat
  | .start => 0
  | .stop => cursor.length
  | .current => cursor.position

/-- Moves the position, which may lie beyond the end but in a 64-bit word. -/
def seek (cursor : Cursor) (origin : Origin) (offset : Int) : Option (Nat × Cursor) :=
  let target := (cursor.base origin : Int) + offset
  if 0 ≤ target ∧ target < 2 ^ 64 then
    some (target.toNat, { cursor with position := target.toNat })
  else none

def seekMessage : String := "seek to a negative or overflowing position"

def bigEndian (bytes : Bytes) : Nat := bytes.foldl (fun total byte => total * 256 + byte.toNat) 0

end Cursor

end TiledStream
