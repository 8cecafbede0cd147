import TiledStream.Grid
import TiledStream.Markup.Error
import TiledStream.Text.Quoted

/-! Errors of the streaming domain, their wording, and which of them end one tile or the whole
session. -/

namespace TiledStream

inductive ErrorKind where
  | parse
  | badRequest
  | badResponse
  | sessionClosed
  | aborted
  | streamDrained
  deriving DecidableEq

def ErrorKind.name : ErrorKind → String
  | .parse => "parse"
  | .badRequest => "bad_request"
  | .badResponse => "bad_response"
  | .sessionClosed => "session_closed"
  | .aborted => "aborted"
  | .streamDrained => "stream_drained"

def ErrorKind.all : List ErrorKind :=
  [.parse, .badRequest, .badResponse, .sessionClosed, .aborted, .streamDrained]

def ErrorKind.ofName? (name : String) : Option ErrorKind :=
  ErrorKind.all.find? fun kind => kind.name == name

inductive LayoutError where
  | emptyGrid (grid : Grid)
  | tooFewSets (grid : Grid) (sets : Nat)
  | outside (tile : Coordinate) (grid : Grid)
  | repeated (tile : Coordinate)
  | missing (tile : Coordinate)
  | other (description : String)
  deriving DecidableEq

def LayoutError.message : LayoutError → String
  | .emptyGrid grid => s!"empty grid {grid.columns}x{grid.rows}"
  | .tooFewSets grid sets => s!"grid {grid.columns}x{grid.rows} declared with {sets} video sets"
  | .outside tile grid => s!"tile {tile.text} outside grid {grid.columns}x{grid.rows}"
  | .repeated tile => s!"tile {tile.text} declared twice"
  | .missing tile => s!"tile {tile.text} has no adaptation set"
  | .other description => description

inductive ManifestError where
  | markup (error : MarkupError)
  | missingElement (name : String)
  | missingAttribute (element key : String)
  | invalidValue (key value : String)
  | layout (error : LayoutError)
  | duration (value : String)
  deriving DecidableEq

def ManifestError.message : ManifestError → String
  | .markup error => "malformed manifest: " ++ error.message
  | .missingElement name => "manifest is missing element <" ++ name ++ ">"
  | .missingAttribute element key =>
    "<" ++ element ++ "> is missing attribute \x60" ++ key ++ "\x60"
  | .invalidValue key value =>
    "invalid value " ++ Text.quote value ++ " for \x60" ++ key ++ "\x60"
  | .layout error => "invalid tile layout: " ++ error.message
  | .duration value => "duration " ++ Text.quote value ++ " does not match PT[nH][nM]n.nnnS"

inductive StreamError where
  | manifest (error : ManifestError)
  | badRequest (description : String)
  | badResponse (description : String)
  | sessionClosed
  | aborted
  | streamDrained
  deriving DecidableEq

namespace StreamError

def message : StreamError → String
  | .manifest error => error.message
  | .badRequest description => "bad request: " ++ description
  | .badResponse description => "bad response: " ++ description
  | .sessionClosed => "session closed"
  | .aborted => "aborted"
  | .streamDrained => "stream drained"

def kind : StreamError → ErrorKind
  | .manifest _ => .parse
  | .badRequest _ => .badRequest
  | .badResponse _ => .badResponse
  | .sessionClosed => .sessionClosed
  | .aborted => .aborted
  | .streamDrained => .streamDrained

def badStatus (url : String) (status : Nat) : StreamError :=
  .badResponse s!"HTTP {status} for {url}"

def isTileLocal : StreamError → Bool
  | .badRequest _ | .badResponse _ | .aborted => true
  | _ => false

/-- A refused segment is where a stream ends. -/
def isEndOfStream : StreamError → Bool
  | .badResponse _ => true
  | _ => false

end StreamError

inductive Failure where
  | error (error : StreamError)
  | fault (fault : Fault)
  deriving DecidableEq

def orFault {α : Type} : Except Fault α → Except Failure α
  | .ok value => .ok value
  | .error fault => .error (.fault fault)

end TiledStream
