import TiledStream.Manifest.Presentation
import TiledStream.Proofs.Manifest.Reading

/-! What the document of a presentation declares. -/

namespace TiledStream

open Markup (Piece tagOf)

namespace Presentation

variable (presentation : Presentation)

def templateEntries (initialization media : List Char) : List (String × List Char) := [
  ("timescale", "1000".toList),
  ("duration", "1000".toList),
  ("startNumber", "1".toList),
  ("initialization", initialization),
  ("media", media)]

def rungEntries (rung : Rung) : List (String × List Char) := [
  ("id", Text.digitsOf rung.id),
  ("mimeType", "video/mp4".toList),
  ("codecs", presentation.codecs.toList),
  ("width", Text.digitsOf presentation.tileExtent.width),
  ("height", Text.digitsOf presentation.tileExtent.height),
  ("bandwidth", Text.digitsOf rung.bandwidth)]

def setEntries : List (String × List Char) := [
  ("segmentAlignment", "true".toList),
  ("maxWidth", Text.digitsOf presentation.tileExtent.width),
  ("maxHeight", Text.digitsOf presentation.tileExtent.height)]

def audioEntries (track : AudioTrack) : List (String × List Char) := [
  ("id", "0".toList),
  ("mimeType", "audio/mp4".toList),
  ("codecs", track.codecs.toList),
  ("audioSamplingRate", Text.digitsOf track.sampleRate),
  ("bandwidth", Text.digitsOf track.bandwidth)]

def rootEntries : List (String × List Char) := [
    ("xmlns", "urn:mpeg:dash:schema:mpd:2011".toList),
    ("type", "static".toList),
    ("profiles", "urn:mpeg:dash:profile:isoff-live:2011".toList)] ++
  durationAttribute "mediaPresentationDuration" presentation.presentationDuration ++
  durationAttribute "minBufferTime" presentation.minBufferTime ++
  durationAttribute "maxSegmentDuration" presentation.maxSegmentDuration

def number (tile : Coordinate) : Nat := tile.x + tile.y * presentation.grid.columns + 1

def tileTemplateEntries (tileIndex : Nat) : List (String × List Char) :=
  let stem := pathStem tileIndex "$RepresentationID$".toList
  templateEntries (stem ++ "init.mp4".toList) (stem ++ "$Number$.m4s".toList)

def declaredRung (tileIndex : Nat) (rung : Rung) : DeclaredRepresentation where
  attributes := readAs (presentation.rungEntries rung)
  template :=
    if presentation.inlineTemplates then some (readAs (tileTemplateEntries tileIndex)) else none

def declaredTile (tile : Coordinate) : DeclaredSet where
  attributes := readAs presentation.setEntries
  properties :=
    [("urn:mpeg:dash:srd:2014", String.ofList (spatialValue presentation.grid tile))]
  template :=
    if presentation.inlineTemplates then none
    else some (readAs (tileTemplateEntries (presentation.number tile)))
  representations := presentation.ladder.map (presentation.declaredRung (presentation.number tile))

def declaredTrack (track : AudioTrack) : DeclaredRepresentation where
  attributes := readAs (audioEntries track)
  template := some (readAs
    (templateEntries audioInitializationPath.toList "audio_$Number$.m4s".toList))

def declaredAudio (track : AudioTrack) : DeclaredSet where
  attributes := readAs [("segmentAlignment", "true".toList), ("lang", "und".toList)]
  properties := []
  template := none
  representations := [declaredTrack track]

def declared : Declaration where
  root := some (readAs presentation.rootEntries)
  title := some (String.ofList (Text.trim presentation.title.toList))
  sets :=
    (tiles presentation.grid).map presentation.declaredTile ++
      (presentation.audio.map declaredAudio).toList

def tileElement (tile : Coordinate) : List Piece :=
  let shared := tileTemplate (presentation.number tile)
  let property : Piece := .empty "SupplementalProperty" [
    ("schemeIdUri", "urn:mpeg:dash:srd:2014".toList),
    ("value", spatialValue presentation.grid tile)]
  let rungs := presentation.ladder.flatMap (presentation.rungPieces shared)
  Markup.element "AdaptationSet" presentation.setEntries
    (property :: (if presentation.inlineTemplates then rungs else shared :: rungs))

end Presentation

namespace Reading

def between (root : Markup.Attributes) (title : String) (sets : List DeclaredSet) : Reading where
  declaration := { root := some root, title := some title, sets }
  periods := 1
  inInformation := false
  inTitle := false
  currentSet := none
  currentRepresentation := none

def within (root : Markup.Attributes) (title : String) (sets : List DeclaredSet)
    (current : DeclaredSet) : Reading :=
  { between root title sets with currentSet := some current }

end Reading

namespace Presentation

variable {presentation : Presentation} {root : Markup.Attributes} {title : String}
  {sets : List DeclaredSet} {current : DeclaredSet}

theorem keys_template (initialization media : List Char) :
    areKeys ((templateEntries initialization media).map (·.1)) = true := by
  change areKeys ["timescale", "duration", "startNumber", "initialization", "media"] = true
  decide

theorem keys_tileTemplate (tileIndex : Nat) :
    areKeys ((tileTemplateEntries tileIndex).map (·.1)) = true :=
  keys_template _ _

theorem keys_property (scheme value : List Char) :
    areKeys ([("schemeIdUri", scheme), ("value", value)].map (·.1)) = true := by
  change areKeys ["schemeIdUri", "value"] = true
  decide

theorem keys_rung (rung : Rung) :
    areKeys ((presentation.rungEntries rung).map (·.1)) = true := by
  change areKeys ["id", "mimeType", "codecs", "width", "height", "bandwidth"] = true
  decide

theorem keys_set : areKeys (presentation.setEntries.map (·.1)) = true := by
  change areKeys ["segmentAlignment", "maxWidth", "maxHeight"] = true
  decide

theorem keys_audio (track : AudioTrack) : areKeys ((audioEntries track).map (·.1)) = true := by
  change areKeys ["id", "mimeType", "codecs", "audioSamplingRate", "bandwidth"] = true
  decide

theorem keys_durationAttribute (key : String) (duration : Option Duration) :
    (durationAttribute key duration).map (·.1) = if duration.isSome then [key] else [] := by
  cases duration <;> rfl

theorem keys_root : areKeys (presentation.rootEntries.map (·.1)) = true := by
  simp only [rootEntries, List.map_append, keys_durationAttribute]
  cases presentation.presentationDuration.isSome <;> cases presentation.minBufferTime.isSome <;>
    cases presentation.maxSegmentDuration.isSome <;> decide

theorem reads_rung (presentation : Presentation) (tileIndex : Nat) (rung : Rung) :
    Reads (presentation.rungPieces (tileTemplate tileIndex) rung)
      (.within root title sets current)
      (.within root title sets { current with
        representations :=
          current.representations ++ [presentation.declaredRung tileIndex rung] }) := by
  have keys : areKeys ((presentation.rungEntries rung).map (·.1)) = true := keys_rung rung
  unfold rungPieces
  cases inline : presentation.inlineTemplates with
  | true =>
      have started := (Reading.within root title sets current).step_representation rfl keys
      have element := Reads.element started
        (Reads.empty (Reading.step_template _ (keys_tileTemplate tileIndex)))
      rw [Reading.closed_representation _ rfl rfl] at element
      simp only [declaredRung, inline, ↓reduceIte]
      exact element
  | false =>
      have element := Reads.empty
        (show (Reading.within root title sets current).step
          (.empty (tagOf "Representation" (presentation.rungEntries rung))) = _ by
            rw [Reading.step, Reading.opened_representation _ rfl keys, Except.map,
              Markup.tagOf_name, Reading.closed_representation _ rfl rfl])
      simp only [declaredRung, inline, Bool.false_eq_true, ↓reduceIte]
      exact element

theorem reads_ladder (presentation : Presentation) (tileIndex : Nat) (ladder : List Rung) :
    Reads (ladder.flatMap (presentation.rungPieces (tileTemplate tileIndex)))
      (.within root title sets current)
      (.within root title sets { current with
        representations :=
          current.representations ++ ladder.map (presentation.declaredRung tileIndex) }) := by
  induction ladder generalizing current with
  | nil => simpa using Reads.nil (.within root title sets current)
  | cons rung ladder ih =>
      have first : Reads (presentation.rungPieces (tileTemplate tileIndex) rung)
          (.within root title sets current) _ := presentation.reads_rung tileIndex rung
      simpa using first.append ih

theorem addProperty_spatial (scheme value : List Char) :
    Reading.addProperty current (readAs [("schemeIdUri", scheme), ("value", value)]) =
      { current with
        properties := current.properties ++ [(String.ofList scheme, String.ofList value)] } := by
  simp [Reading.addProperty, readAs, Markup.Attributes.value?, List.lookup_cons]

theorem reads_property (presentation : Presentation) (tile : Coordinate) :
    Reads [.empty "SupplementalProperty" [
        ("schemeIdUri", "urn:mpeg:dash:srd:2014".toList),
        ("value", spatialValue presentation.grid tile)]]
      (.within root title sets current)
      (.within root title sets { current with
        properties := current.properties ++
          [("urn:mpeg:dash:srd:2014", String.ofList (spatialValue presentation.grid tile))] }) := by
  apply Reads.empty
  rw [Reading.step_property _ rfl (keys_property _ _), addProperty_spatial]
  rfl

theorem reads_template (tileIndex : Nat) :
    Reads [tileTemplate tileIndex] (.within root title sets current)
      (.within root title sets { current with
        template := some (readAs (tileTemplateEntries tileIndex)) }) :=
  Reads.empty (Reading.step_template _ (keys_tileTemplate tileIndex))

theorem reads_tile (presentation : Presentation) (tile : Coordinate) :
    Reads (presentation.tileElement tile) (.between root title sets)
      (.between root title (sets ++ [presentation.declaredTile tile])) := by
  have started : (Reading.between root title sets).step
      (.start (tagOf "AdaptationSet" presentation.setEntries)) =
        .ok (.within root title sets {
          attributes := readAs presentation.setEntries
          properties := []
          template := none
          representations := [] }) :=
    Reading.step_adaptationSet _ rfl keys_set
  unfold tileElement
  cases inline : presentation.inlineTemplates with
  | true =>
      have element := Reads.element started
        ((presentation.reads_property tile).append
          (presentation.reads_ladder (presentation.number tile) presentation.ladder))
      rw [Reading.closed_adaptationSet _ rfl] at element
      simp only [declaredTile, inline, ↓reduceIte]
      exact element
  | false =>
      have element := Reads.element started
        ((presentation.reads_property tile).append
          ((reads_template (presentation.number tile)).append
            (presentation.reads_ladder (presentation.number tile) presentation.ladder)))
      rw [Reading.closed_adaptationSet _ rfl] at element
      simp only [declaredTile, inline, Bool.false_eq_true, ↓reduceIte]
      exact element

theorem reads_tiles (presentation : Presentation) (coordinates : List Coordinate) :
    Reads (coordinates.map presentation.tileElement).flatten (.between root title sets)
      (.between root title (sets ++ coordinates.map presentation.declaredTile)) := by
  induction coordinates generalizing sets with
  | nil => simpa using Reads.nil (.between root title sets)
  | cons tile coordinates ih =>
      have first : Reads (presentation.tileElement tile) (.between root title sets) _ :=
        presentation.reads_tile tile
      simpa using first.append ih

theorem reads_track (track : AudioTrack) :
    Reads
      (Markup.element "Representation" (audioEntries track)
        [template audioInitializationPath.toList "audio_$Number$.m4s".toList])
      (.within root title sets current)
      (.within root title sets { current with
        representations := current.representations ++ [declaredTrack track] }) := by
  have started :=
    (Reading.within root title sets current).step_representation rfl (keys_audio track)
  have element := Reads.element started
    (Reads.empty (Reading.step_template _
      (keys_template audioInitializationPath.toList "audio_$Number$.m4s".toList)))
  rw [Reading.closed_representation _ rfl rfl] at element
  exact element

theorem reads_audio (track : AudioTrack) :
    Reads (audioPieces track) (.between root title sets)
      (.between root title (sets ++ [declaredAudio track])) := by
  have setKeys : areKeys ([("segmentAlignment", "true".toList), ("lang", "und".toList)].map
      (·.1)) = true := by decide
  have started : (Reading.between root title sets).step (.start (tagOf "AdaptationSet" _)) =
      .ok _ :=
    Reading.step_adaptationSet _ rfl setKeys
  have element := Reads.element started (reads_track track)
  rw [Reading.closed_adaptationSet _ rfl] at element
  exact element

def titling (root : Markup.Attributes) (title : String) : Reading :=
  { Reading.start with
    inInformation := true
    inTitle := true
    declaration := { root := some root, title := some title, sets := [] } }

/-- The title is written as one piece of character data, so trimming it once is enough. -/
theorem reads_title (root : Markup.Attributes) (content : List Char) :
    Reads (Markup.element "ProgramInformation" [] (Markup.element "Title" [] [.text content]))
      { Reading.start with declaration := { root := some root, title := none, sets := [] } }
      { Reading.start with
        declaration := {
          root := some root
          title := some (String.ofList (Text.trim content))
          sets := [] } } := by
  have text : Reads [.text content] (titling root "")
      (titling root (String.ofList (Text.trim content))) := by
    refine Reads.text ?_ fun none => ?_
    · simp [Reading.characters, titling]
    · rw [none]
      rfl
  have inner : ({ Reading.start with
      inInformation := true
      declaration := { root := some root, title := none, sets := [] } } : Reading).step
        (.start (tagOf "Title" [])) = .ok (titling root "") := Reading.step_title _ rfl
  have outer : ({ Reading.start with
      declaration := { root := some root, title := none, sets := [] } } : Reading).step
        (.start (tagOf "ProgramInformation" [])) = .ok _ := Reading.step_information _
  have element := Reads.element outer (Reads.element inner text)
  rw [Reading.closed_information, Reading.closed_title] at element
  exact element

theorem reads_sound (presentation : Presentation) :
    Reads ((presentation.audio.map audioPieces).getD []) (.between root title sets)
      (.between root title (sets ++ (presentation.audio.map declaredAudio).toList)) := by
  cases presentation.audio with
  | none => simpa using Reads.nil (.between root title sets)
  | some track => exact reads_audio track

theorem reads_period (presentation : Presentation) (root : Markup.Attributes) (title : String) :
    Reads
      (Markup.element "Period" []
        (((tiles presentation.grid).map presentation.tileElement).flatten ++
          (presentation.audio.map audioPieces).getD []))
      { Reading.start with declaration := { root := some root, title := some title, sets := [] } }
      (.between root title ((tiles presentation.grid).map presentation.declaredTile ++
        (presentation.audio.map declaredAudio).toList)) := by
  have started : ({ Reading.start with
      declaration := { root := some root, title := some title, sets := [] } } : Reading).step
        (.start (tagOf "Period" [])) = .ok (.between root title []) := Reading.step_period _
  have element := Reads.element started
    ((presentation.reads_tiles (tiles presentation.grid)).append presentation.reads_sound)
  rw [Reading.closed_period, List.nil_append] at element
  exact element

def content (presentation : Presentation) : List Piece :=
  Markup.element "ProgramInformation" []
      (Markup.element "Title" [] [.text presentation.title.toList]) ++
    Markup.element "Period" []
      (((tiles presentation.grid).map presentation.tileElement).flatten ++
        (presentation.audio.map audioPieces).getD [])

theorem reads_document (presentation : Presentation) :
    Reads (Markup.element "MPD" presentation.rootEntries presentation.content) Reading.start
      { Reading.between (readAs presentation.rootEntries)
          (String.ofList (Text.trim presentation.title.toList)) [] with
        declaration := presentation.declared } := by
  have started : Reading.start.step (.start (tagOf "MPD" presentation.rootEntries)) =
      .ok { Reading.start with
        declaration := {
          root := some (readAs presentation.rootEntries)
          title := none
          sets := [] } } :=
    Reading.step_presentation _ keys_root
  have element := Reads.element started
    ((reads_title _ presentation.title.toList).append (presentation.reads_period _ _))
  rw [Reading.closed_presentation] at element
  exact element

end Presentation

end TiledStream
