import TiledStream.Media.Decoder
import TiledStream.Text.Unsigned

/-! A decoder whose rounds are spelled out in its segment. The text begins with a mark, and bars
part the rounds. A round holds frames parted by commas, or an exclamation mark and the name of an
error; a frame is its size and its data, or data alone. -/

namespace TiledStream.Script

inductive Round where
  | frames (frames : List Frame)
  | fails (error : StreamError)
  deriving DecidableEq

def namedError (concurrency : Nat) (name : List Char) : StreamError :=
  match String.ofList name with
  | "concurrency" => .badResponse s!"concurrency {concurrency}"
  | "bad_request" => .badRequest "scripted"
  | "bad_response" => .badResponse "scripted"
  | "parse" => .manifest (.markup (.other "scripted"))
  | "session_closed" => .sessionClosed
  | "aborted" => .aborted
  | _ => .streamDrained

def encoded (text : List Char) : Bytes := Utf8.encode (String.ofList text)

def frame (source : List Char) : Frame :=
  let size := source.takeWhile (· != '=')
  let width := Text.readUnsigned? 32 (size.takeWhile (· != 'x'))
  match source.dropWhile (· != '='), size.dropWhile (· != 'x'), width with
  | _ :: data, _ :: height, some width =>
    match Text.readUnsigned? 32 height with
    | some height => Frame.unnumbered width height (encoded data)
    | none => Frame.unnumbered 0 0 (encoded source)
  | _, _, _ => Frame.unnumbered 0 0 (encoded source)

def round (concurrency : Nat) (source : List Char) : Round :=
  match source with
  | [] => .frames []
  | '!' :: name => .fails (namedError concurrency name)
  | _ => .frames ((source.splitOn ',').map frame)

def openSegment (concurrency : Nat) (cursor : Cursor) : Except Failure (List Round) :=
  match Utf8.decode cursor.readToEnd.1 with
  | .error _ => .error (.error (.badResponse "not text"))
  | .ok source =>
    match source.toList with
    | 'F' :: 'A' :: 'I' :: 'L' :: ':' :: rest =>
      .error (.error (namedError concurrency (rest.takeWhile (· != ';'))))
    | 'I' :: 'N' :: 'I' :: 'T' :: rest => .ok ((rest.splitOn '|').map (round concurrency))
    | _ => .error (.error (.badResponse "missing init segment"))

def engine : Engine where
  State := List Round
  openSegment
  send
    | [] => (.ok [], [])
    | .frames frames :: rest => (.ok frames, rest)
    | .fails error :: rest => (.error (.error error), rest)
  isFlushed rounds := rounds.isEmpty

end TiledStream.Script
