import TiledStream.StreamError
import TiledStream.Text.Utf8

/-! Decoded frames and the events of a tile's stream. -/

namespace TiledStream

structure Frame where
  segment : Nat
  index : Nat
  representation : Nat
  width : Nat
  height : Nat
  data : Bytes
  deriving DecidableEq

def Frame.unnumbered (width height : Nat) (data : Bytes) : Frame :=
  { segment := 0, index := 0, representation := 0, width, height, data }

def Frame.isEmpty (frame : Frame) : Bool := frame.data.isEmpty

inductive TileEvent where
  | frame (frame : Frame)
  | endOfStream
  | error (kind : ErrorKind)
  deriving DecidableEq

def TileEvent.isTerminal : TileEvent → Bool
  | .frame _ => false
  | .endOfStream | .error _ => true

def TileEvent.frame? : TileEvent → Option Frame
  | .frame content => some content
  | .endOfStream | .error _ => none

end TiledStream
