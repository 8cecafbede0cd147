import TiledStream.Markup.Attribute
import TiledStream.Text.Blank

/-! What a document declares about a presentation, before any of it is checked: the attributes of
its root, its title, and the adaptation sets of its first period. -/

namespace TiledStream

open Markup (Attributes Tag Event)

structure DeclaredRepresentation where
  attributes : Attributes
  template : Option Attributes
  deriving DecidableEq

structure DeclaredSet where
  attributes : Attributes
  /-- Scheme and value of each supplemental property. -/
  properties : List (String × String)
  template : Option Attributes
  representations : List DeclaredRepresentation
  deriving DecidableEq

structure Declaration where
  root : Option Attributes
  title : Option String
  sets : List DeclaredSet
  deriving DecidableEq

inductive ElementName where
  | presentation
  | information
  | title
  | period
  | adaptationSet
  | property
  | representation
  | template
  | other
  deriving DecidableEq

def ElementName.ofName (name : List Char) : ElementName :=
  match String.ofList (Markup.localName name) with
  | "MPD" => .presentation
  | "ProgramInformation" => .information
  | "Title" => .title
  | "Period" => .period
  | "AdaptationSet" => .adaptationSet
  | "SupplementalProperty" => .property
  | "Representation" => .representation
  | "SegmentTemplate" => .template
  | _ => .other

structure Reading where
  declaration : Declaration
  periods : Nat
  inInformation : Bool
  inTitle : Bool
  currentSet : Option DeclaredSet
  currentRepresentation : Option DeclaredRepresentation
  deriving DecidableEq

namespace Reading

def start : Reading where
  declaration := { root := none, title := none, sets := [] }
  periods := 0
  inInformation := false
  inTitle := false
  currentSet := none
  currentRepresentation := none

def addProperty (set : DeclaredSet) (attributes : Attributes) : DeclaredSet :=
  match attributes.value? "value" with
  | some value =>
    { set with
      properties := set.properties ++ [((attributes.value? "schemeIdUri").getD "", value)] }
  | none => set

/-- A template belongs to the innermost of representation and set that is open. -/
def addTemplate (reading : Reading) (attributes : Attributes) : Reading :=
  match reading.currentRepresentation, reading.currentSet with
  | some representation, _ =>
    { reading with
      currentRepresentation := some { representation with template := some attributes } }
  | none, some set =>
    { reading with currentSet := some { set with template := some attributes } }
  | none, none => reading

def opened (reading : Reading) (tag : Tag) : Except MarkupError Reading :=
  match ElementName.ofName tag.name with
  | .presentation => do
    let attributes ← tag.readAttributes
    pure { reading with declaration := { reading.declaration with root := some attributes } }
  | .information => .ok { reading with inInformation := true }
  | .title =>
    if reading.inInformation then
      let title := reading.declaration.title.getD ""
      .ok { reading with
        inTitle := true
        declaration := { reading.declaration with title := some title } }
    else .ok reading
  | .period => .ok { reading with periods := reading.periods + 1 }
  | .adaptationSet =>
    if reading.periods = 1 then do
      let attributes ← tag.readAttributes
      pure { reading with
        currentSet :=
          some { attributes, properties := [], template := none, representations := [] } }
    else .ok reading
  | .property =>
    match reading.currentSet with
    | some set => do
      let attributes ← tag.readAttributes
      pure { reading with currentSet := some (addProperty set attributes) }
    | none => .ok reading
  | .representation =>
    match reading.currentSet with
    | some _ => do
      let attributes ← tag.readAttributes
      pure { reading with currentRepresentation := some { attributes, template := none } }
    | none => .ok reading
  | .template => do
    let attributes ← tag.readAttributes
    pure (reading.addTemplate attributes)
  | .other => .ok reading

def closed (reading : Reading) (name : List Char) : Reading :=
  match ElementName.ofName name with
  | .information => { reading with inInformation := false }
  | .title => { reading with inTitle := false }
  | .representation =>
    match reading.currentRepresentation, reading.currentSet with
    | some representation, some set =>
      { reading with
        currentRepresentation := none
        currentSet :=
          some { set with representations := set.representations ++ [representation] } }
    | _, _ => { reading with currentRepresentation := none }
  | .adaptationSet =>
    match reading.currentSet with
    | some set =>
      { reading with
        currentSet := none
        declaration := { reading.declaration with sets := reading.declaration.sets ++ [set] } }
    | none => reading
  | _ => reading

/-- Each piece of a title is trimmed by itself. -/
def characters (reading : Reading) (content : List Char) : Reading :=
  match reading.inTitle, reading.declaration.title with
  | true, some title =>
    let longer := title ++ String.ofList (Text.trim content)
    { reading with declaration := { reading.declaration with title := some longer } }
  | _, _ => reading

def step (reading : Reading) (event : Event) : Except MarkupError Reading :=
  match event with
  | .start tag => reading.opened tag
  | .empty tag => (reading.opened tag).map (·.closed tag.name)
  | .stop name => .ok (reading.closed name)
  | .text source => (Markup.unescape source).map reading.characters
  | .cdata content => .ok (reading.characters content)
  | .comment _ | .instruction _ | .doctype _ => .ok reading

end Reading

def Reading.finish (reading : Reading) (rest : Markup.Feed) : Except MarkupError Declaration := do
  let last ← rest.events.foldlM Reading.step reading
  let unclosed ← rest.ending
  if unclosed.isEmpty then pure last.declaration else .error .unfinished

def Declaration.read (document : List Char) : Except MarkupError Declaration :=
  Reading.start.finish (Markup.feed [] (Markup.unmarked document))

namespace DeclaredSet

def inherited? (set : DeclaredSet) (key : String) : Option String :=
  match set.representations.head?.bind (·.attributes.value? key) with
  | some value => some value
  | none => set.attributes.value? key

def mimeType? (set : DeclaredSet) : Option String := set.inherited? "mimeType"

def isAudio (set : DeclaredSet) : Bool :=
  (set.mimeType?.any fun mime => Text.contains "audio".toList mime.toList) ||
    set.attributes.value? "contentType" == some "audio"

/-- The value of the first property for spatial relations, or else of the first property. -/
def spatialDescription? (set : DeclaredSet) : Option String :=
  let spatial := set.properties.find? fun property =>
    Text.contains "srd".toList property.1.toList
  (spatial.or set.properties.head?).map (·.2)

end DeclaredSet

end TiledStream
