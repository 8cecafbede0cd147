import TiledStream.Text.DecimalDigit
import TiledStream.Text.Search

/-! Path templates as manifests declare them. Placeholders for the representation are filled when a
manifest is read; the one for the segment number becomes a slot in braces. -/

namespace TiledStream.MediaTemplate

def substitute (template id bandwidth : List Char) : List Char :=
  Text.replaceAll "$Bandwidth$".toList bandwidth
    (Text.replaceAll "$RepresentationID$".toList id template)

def placeholder? (text : List Char) : Option (List Char × List Char) :=
  match text with
  | '$' :: 'N' :: 'u' :: 'm' :: 'b' :: 'e' :: 'r' :: '$' :: rest => some ([], rest)
  | '$' :: 'N' :: 'u' :: 'm' :: 'b' :: 'e' :: 'r' :: '%' :: '0' :: rest =>
    match rest.takeWhile Text.isDecimalDigit, rest.dropWhile Text.isDecimalDigit with
    | [], _ => none
    | digits, 'd' :: '$' :: after => some (digits, after)
    | _, _ => none
  | _ => none

def slot (width : List Char) : List Char :=
  if width.isEmpty then ['\x7b', '\x7d'] else '\x7b' :: ':' :: '0' :: width ++ ['\x7d']

def withSlot? : List Char → Option (List Char)
  | [] => none
  | c :: rest =>
    match placeholder? (c :: rest) with
    | some (width, after) => some (slot width ++ after)
    | none => (withSlot? rest).map (c :: ·)

end TiledStream.MediaTemplate
