import TiledStream.Proofs.Manifest.Filling
import TiledStream.Proofs.Segment.Resolution

/-! Media paths and their addresses tell the numbers of segments apart. The digits of a number can be
read back from between the two parts of a template, and they neither make nor break a `://`. -/

namespace TiledStream

namespace Text

theorem padded_injective {width one two : Nat} (same : padded width one = padded width two) :
    one = two := by
  have numbers := congrArg numberOf same
  rw [numberOf_padded, numberOf_padded] at numbers
  exact numbers

theorem infix_append_cons {part before after : List Char} {c : Char} (absent : c ∉ part) :
    part <:+: before ++ c :: after ↔ part <:+: before ∨ part <:+: after := by
  constructor
  · rintro ⟨head, tail, same⟩
    rcases List.append_eq_append_iff.mp same with ⟨more, rfl, rest⟩ | ⟨more, parts, rest⟩
    · exact .inl ⟨head, more, rfl⟩
    · cases more with
      | nil =>
          rw [List.append_nil] at parts
          exact .inl ⟨head, [], by rw [List.append_nil, parts]⟩
      | cons d more =>
          obtain ⟨rfl, rfl⟩ := List.cons.inj rest
          right
          rcases List.append_eq_append_iff.mp parts with ⟨left, _, inside⟩ | ⟨left, _, inside⟩
          · exact absurd (inside ▸ List.mem_append_right left List.mem_cons_self) absent
          · cases left with
            | nil =>
                rw [List.nil_append] at inside
                exact absurd (inside ▸ List.mem_cons_self) absent
            | cons d left =>
                obtain ⟨_, rfl⟩ := List.cons.inj inside
                exact ⟨left, tail, rfl⟩
  · rintro (inside | inside)
    · exact inside.trans (List.prefix_append before _).isInfix
    · exact inside.trans ((List.suffix_cons c after).trans (List.suffix_append before _)).isInfix

/-- A part that shares no character with the middle of a text lies before or after it. -/
theorem infix_around {part before middle after : List Char} (nonempty : middle ≠ [])
    (apart : ∀ c ∈ middle, c ∉ part) :
    part <:+: before ++ middle ++ after ↔ part <:+: before ∨ part <:+: after := by
  induction middle generalizing before with
  | nil => exact absurd rfl nonempty
  | cons c middle ih =>
      rw [List.append_assoc, List.cons_append, infix_append_cons (apart c List.mem_cons_self)]
      cases middle with
      | nil => rfl
      | cons d middle =>
          have rest : ∀ e ∈ d :: middle, e ∉ part := fun e member => apart e (.tail c member)
          have later : part <:+: [] ++ d :: middle ++ after ↔ part <:+: [] ∨ part <:+: after :=
            ih (List.cons_ne_nil d middle) rest
          rw [List.nil_append] at later
          rw [later]
          constructor
          · rintro (first | none | last)
            · exact .inl first
            · exact .inl (none.trans (List.nil_infix))
            · exact .inr last
          · rintro (first | last)
            · exact .inl first
            · exact .inr (.inr last)

end Text

namespace Url

theorem resolve_injective {url one two : String}
    (alike : isAbsolute one.toList = isAbsolute two.toList)
    (same : resolve url one = resolve url two) : one = two := by
  unfold resolve at same
  rw [alike] at same
  split at same
  · exact same
  · rw [String.ofList_inj, List.append_right_inj] at same
    exact String.toList_injective same

end Url

structure Slotted (media before slot after : List Char) : Prop where
  parts : media = before ++ '\x7b' :: (slot ++ '\x7d' :: after)
  unopened : '\x7b' ∉ before
  unclosed : '\x7d' ∉ slot

/-- Whether media paths and their addresses tell any two numbers apart. -/
def Representation.Distinguishes (representation : Representation) : Prop :=
  ∀ one two, one ≠ two → ∃ first second, representation.mediaPath one = .ok first ∧
    representation.mediaPath two = .ok second ∧ first ≠ second ∧
    ∀ url, Url.resolve url first ≠ Url.resolve url second

variable {representation : Representation} {before slot after : List Char}

theorem Slotted.mediaPath (slotted : Slotted representation.media.toList before slot after)
    (number : Nat) : representation.mediaPath number =
      if greatestWidth < slotWidth slot then .error .overflow
      else .ok (String.ofList (before ++ Text.padded (slotWidth slot) number ++ after)) := by
  rw [Representation.mediaPath, slotted.parts,
    fillSlot_braces number slotted.unopened slotted.unclosed]
  split
  · rfl
  · rfl

theorem isAbsolute_padded (width number : Nat) :
    Url.isAbsolute (before ++ Text.padded width number ++ after) = true ↔
      "://".toList <:+: before ∨ "://".toList <:+: after := by
  have nonempty : Text.padded width number ≠ [] := by
    intro none
    exact Text.digitsOf_ne_nil number (List.append_eq_nil_iff.mp none).2
  have apart : ∀ c ∈ Text.padded width number, c ∉ "://".toList := by
    intro c member mark
    have digit := Text.isDigit_of_mem_padded member
    have spelled : c = ':' ∨ c = '/' := by simpa using mark
    rcases spelled with rfl | rfl
    · exact absurd digit (by decide)
    · exact absurd digit (by decide)
  rw [Url.isAbsolute, Text.contains_iff, Text.infix_around nonempty apart]

theorem Slotted.distinguishes (slotted : Slotted representation.media.toList before slot after) :
    representation.Distinguishes ↔ slotWidth slot ≤ greatestWidth := by
  constructor
  · intro distinguishes
    obtain ⟨first, _, filled, _⟩ := distinguishes 0 1 (by decide)
    rw [slotted.mediaPath] at filled
    split at filled
    · cases filled
    · omega
  · intro narrow one two different
    have within : ¬greatestWidth < slotWidth slot := by omega
    rw [slotted.mediaPath, slotted.mediaPath, if_neg within, if_neg within]
    have apart : String.ofList (before ++ Text.padded (slotWidth slot) one ++ after) ≠
        String.ofList (before ++ Text.padded (slotWidth slot) two ++ after) := by
      intro same
      rw [String.ofList_inj, List.append_left_inj, List.append_right_inj] at same
      exact different (Text.padded_injective same)
    refine ⟨_, _, rfl, rfl, apart, ?_⟩
    intro url same
    refine apart (Url.resolve_injective ?_ same)
    rw [String.toList_ofList, String.toList_ofList, Bool.eq_iff_iff, isAbsolute_padded,
      isAbsolute_padded]

theorem exists_slotted (start : List Char) {following : List Char} (closed : '\x7d' ∈ following) :
    ∃ before slot after, Slotted (start ++ '\x7b' :: following) before slot after := by
  by_cases opened : '\x7b' ∈ start
  · obtain ⟨before, tail, rfl, unopened⟩ := List.eq_append_cons_of_mem opened
    have later : '\x7d' ∈ tail ++ '\x7b' :: following := by simp [closed]
    obtain ⟨slot, after, parts, unclosed⟩ := List.eq_append_cons_of_mem later
    refine ⟨before, slot, after, ?_, unopened, unclosed⟩
    rw [← parts]
    simp
  · obtain ⟨slot, after, rfl, unclosed⟩ := List.eq_append_cons_of_mem closed
    exact ⟨start, slot, after, rfl, opened, unclosed⟩

theorem readRepresentation_slotted {declared : DeclaredRepresentation}
    {setTemplate : Option Markup.Attributes}
    (read : readRepresentation declared setTemplate true = .ok representation) :
    ∃ before slot after, Slotted representation.media.toList before slot after := by
  obtain ⟨_, _, _, _, _, _, _, _, found⟩ := readRepresentation_eq_ok read
  obtain ⟨start, digits, mark, rest, placeholder, _, parts⟩ :=
    MediaTemplate.withSlot?_eq_some found
  obtain ⟨inner, spelled, _⟩ := MediaTemplate.slot_eq placeholder
  have whole : representation.media.toList = start ++ '\x7b' :: (inner ++ '\x7d' :: rest) := by
    rw [parts, spelled]
    simp
  rw [whole]
  exact exists_slotted start (by simp)

theorem Manifest.parse_slotted {document : String} {manifest : Manifest} {video : VideoSet}
    (parsed : Manifest.parse document = .ok manifest) (listed : video ∈ manifest.videoSets)
    (member : representation ∈ video.representations) :
    ∃ before slot after, Slotted representation.media.toList before slot after := by
  obtain ⟨first, sets, gridRead, placed, _⟩ := laidOut_of_parse parsed
  obtain ⟨_, _, small, _⟩ := readGrid_eq_ok gridRead
  obtain ⟨built, mapped, _, arranged, _⟩ := (placeSets_eq_ok_iff small).mp placed
  obtain ⟨raster, at_raster⟩ := List.mem_iff_getElem?.mp (arranged.mem_iff.mp listed)
  obtain ⟨declared, _, read⟩ := (mapM_eq_ok mapped).2 raster video at_raster
  obtain ⟨index, at_index⟩ := List.mem_iff_getElem?.mp member
  obtain ⟨own, _, readOwn⟩ :=
    (mapM_eq_ok (VideoSet.madeOf read).representations).2 index representation at_index
  exact readRepresentation_slotted readOwn

open Streamer in
/-- A representation tells its segments apart exactly if its numbers are padded to no more than the
greatest width; beyond it no path can be written at all. In a run no address is fetched for two
segments of one representation. -/
theorem distinct_segments_apart {document manifestUrl : String} {manifest : Manifest}
    {raster tileIndex : Nat} {video : VideoSet} {choose : Selector} {choices : List Nat}
    {requests : List SegmentRequest} {streamer : Streamer}
    (parsed : Manifest.parse document = .ok manifest)
    (found : manifest.videoSets[raster]? = some video)
    (calls : Calls manifest manifestUrl choose video tileIndex choices requests streamer) :
    (∀ representation ∈ video.representations, ∃ before slot after,
      Slotted representation.media.toList before slot after ∧
        (representation.Distinguishes ↔ slotWidth slot ≤ greatestWidth) ∧
        (greatestWidth < slotWidth slot →
          ∀ number, representation.mediaPath number = .error .overflow)) ∧
    ∀ first ∈ requests, ∀ last ∈ requests, first.representation = last.representation →
      first.segment ≠ last.segment → ∃ one two, streamer.fetches[first.media]? = some one ∧
        streamer.fetches[last.media]? = some two ∧ one ≠ two := by
  have listed := List.mem_of_getElem? found
  have placed := Manifest.parse_placed parsed
  have inStep := calls.inStep (placed.videoSet_tile found) (placed.represented video listed)
  constructor
  · intro representation member
    obtain ⟨before, slot, after, slotted⟩ := Manifest.parse_slotted parsed listed member
    refine ⟨before, slot, after, slotted, slotted.distinguishes, ?_⟩
    intro wide number
    rw [slotted.mediaPath, if_pos wide]
  · intro first isFirst last isLast same different
    obtain ⟨chosen, one, at_first, filledFirst, _, fetchedFirst⟩ := inStep.own first isFirst
    obtain ⟨other, two, at_last, filledLast, _, fetchedLast⟩ := inStep.own last isLast
    rw [same, at_last] at at_first
    obtain rfl := Option.some.inj at_first
    obtain ⟨before, slot, after, slotted⟩ :=
      Manifest.parse_slotted parsed listed (List.mem_of_getElem? at_last)
    have narrow : slotWidth slot ≤ greatestWidth := by
      rw [slotted.mediaPath] at filledFirst
      split at filledFirst
      · cases filledFirst
      · omega
    obtain ⟨_, _, spelledFirst, spelledLast, _, apart⟩ :=
      slotted.distinguishes.mpr narrow first.segment last.segment different
    obtain rfl := Except.ok.inj (filledFirst.symm.trans spelledFirst)
    obtain rfl := Except.ok.inj (filledLast.symm.trans spelledLast)
    exact ⟨_, _, fetchedFirst, fetchedLast, apart manifestUrl⟩

theorem gallery_segments_apart :
    ∃ (document : String) (video : VideoSet) (requests : List SegmentRequest) (streamer : Streamer),
      Manifest.parse document = .ok Presentation.gallery.manifest ∧
      Presentation.gallery.manifest.videoSets[1]? = some video ∧
      Streamer.Calls Presentation.gallery.manifest "http://localhost/gallery.mpd"
        Streamer.wavering video 2 [1, 0, 0, 1] requests streamer ∧
      requests.map (·.representation) = [1, 0, 0, 1] ∧
      ∀ first ∈ requests, ∀ last ∈ requests, first.representation = last.representation →
        first.segment ≠ last.segment → ∃ one two, streamer.fetches[first.media]? = some one ∧
          streamer.fetches[last.media]? = some two ∧ one ≠ two := by
  obtain ⟨document, _, parsed⟩ := Presentation.parse_document Presentation.gallery_fits
  obtain ⟨video, found, requests, streamer, calls, count⟩ :
      ∃ video, Presentation.gallery.manifest.videoSets[1]? = some video ∧
        ∃ requests streamer,
          Streamer.Calls Presentation.gallery.manifest "http://localhost/gallery.mpd"
            Streamer.wavering video 2 [1, 0, 0, 1] requests streamer ∧
          requests.map (·.representation) = [1, 0, 0, 1] := by
    exact ⟨_, rfl, _, _, .callEach ([], [], _) .start [false, true, false, false, false, false] rfl,
      rfl⟩
  obtain ⟨_, apart⟩ := distinct_segments_apart parsed found calls
  exact ⟨document, video, requests, streamer, parsed, found, calls, count, apart⟩

def wideDocument : String :=
  "<MPD><Period><AdaptationSet maxWidth=\"2\" maxHeight=\"2\" codecs=\"c\" mimeType=\"m\">" ++
  "<SupplementalProperty schemeIdUri=\"urn:mpeg:dash:srd:2014\" value=\"0,0,0,1,1,1,1\"/>" ++
  "<SegmentTemplate media=\"$Number%065536d$\" initialization=\"i\"/>" ++
  "<Representation id=\"7\" bandwidth=\"9\"/></AdaptationSet></Period></MPD>"

def wideRepresentation : Representation where
  id := 7
  bandwidth := 9
  media := "\x7b:065536\x7d"
  initialization := "i"

theorem wide_segments_alike :
    ∃ manifest video, Manifest.parse wideDocument = .ok manifest ∧ video ∈ manifest.videoSets ∧
      wideRepresentation ∈ video.representations ∧
      wideRepresentation.mediaPath 1 = .error .overflow ∧
      wideRepresentation.mediaPath 2 = .error .overflow ∧ ¬wideRepresentation.Distinguishes := by
  have read : Declaration.read wideDocument.toList = .ok {
      root := some []
      title := none
      sets := [{
        attributes := [("mimeType", "m"), ("codecs", "c"), ("maxHeight", "2"), ("maxWidth", "2")]
        properties := [("urn:mpeg:dash:srd:2014", "0,0,0,1,1,1,1")]
        template := some [("initialization", "i"), ("media", "$Number%065536d$")]
        representations := [{
          attributes := [("bandwidth", "9"), ("id", "7")]
          template := none }] }] } := by
    unfold wideDocument
    simp only [String.toList_append]
    repeat rw [String.toList_ofList]
    decide +kernel
  refine ⟨{
    title := ""
    presentationDuration := none
    minBufferTime := none
    maxSegmentDuration := none
    grid := { columns := 1, rows := 1 }
    frameExtent := { width := 2, height := 2 }
    videoSets := [_]
    audioSet := none }, {
      tile := { x := 0, y := 0 }
      extent := { width := 2, height := 2 }
      codecs := "c"
      mimeType := "m"
      representations := [wideRepresentation] }, ?_, .head _, .head _, ?_, ?_, ?_⟩
  · rw [Manifest.parse_of_read read]
    decide +kernel
  · decide +kernel
  · decide +kernel
  · intro distinguishes
    obtain ⟨first, _, filled, _⟩ := distinguishes 1 2 (by decide)
    have wide : wideRepresentation.mediaPath 1 = .error .overflow := by decide +kernel
    rw [wide] at filled
    cases filled

end TiledStream
