import TiledStream.Markup.Reference

/-! Markup written as a list of pieces, without indentation. -/

namespace TiledStream.Markup

inductive Piece where
  | start (name : String) (attributes : List (String × List Char))
  | empty (name : String) (attributes : List (String × List Char))
  | text (content : List Char)
  | stop (name : String)
  deriving DecidableEq

def writeAttribute (entry : String × List Char) : List Char :=
  ' ' :: entry.1.toList ++ '=' :: '"' :: escape entry.2 ++ ['"']

def Piece.write : Piece → List Char
  | .start name attributes =>
    '<' :: name.toList ++ attributes.flatMap writeAttribute ++ ['>']
  | .empty name attributes =>
    '<' :: name.toList ++ attributes.flatMap writeAttribute ++ ['/', '>']
  | .text content => escape content
  | .stop name => '<' :: '/' :: name.toList ++ ['>']

def write (pieces : List Piece) : List Char := pieces.flatMap Piece.write

def element (name : String) (attributes : List (String × List Char)) (content : List Piece) :
    List Piece :=
  .start name attributes :: content ++ [.stop name]

end TiledStream.Markup
