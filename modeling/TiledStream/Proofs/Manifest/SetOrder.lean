import TiledStream.Proofs.Manifest.Durations
import TiledStream.Proofs.Manifest.Filling
import TiledStream.Proofs.Manifest.Reordering

/-! The manifest of a document does not depend on the order in which its adaptation sets stand. -/

namespace TiledStream

/-- The video sets claim one grid, as far as they say where they stand, and there is one audio set at
most. -/
structure Unambiguous (sets : List DeclaredSet) : Prop where
  totals : ∀ first ∈ sets, ∀ second ∈ sets, first.isAudio = false → second.isAudio = false →
    ∀ one two, SpatialDescription.ofSet first = .ok one → SpatialDescription.ofSet second = .ok two →
      one.total = two.total
  audio : (sets.filter (·.isAudio)).length ≤ 1

theorem Unambiguous.perm {sets others : List DeclaredSet} (unambiguous : Unambiguous sets)
    (same : sets.Perm others) : Unambiguous others where
  totals first firstMember second secondMember :=
    unambiguous.totals first (same.mem_iff.mpr firstMember) second (same.mem_iff.mpr secondMember)
  audio := by
    rw [← (same.filter _).length_eq]
    exact unambiguous.audio

theorem readGrid_congr {first second : DeclaredSet} {one two : SpatialDescription}
    (readFirst : SpatialDescription.ofSet first = .ok one)
    (readSecond : SpatialDescription.ofSet second = .ok two) (same : one.total = two.total)
    (sets : Nat) : readGrid first sets = readGrid second sets := by
  unfold readGrid
  rw [readFirst, readSecond]
  simp only [bind, Except.bind, same]

theorem ofSet_of_readVideoSet {grid : Grid} {declared : DeclaredSet} {video : VideoSet}
    (read : readVideoSet grid declared = .ok video) :
    ∃ description, SpatialDescription.ofSet declared = .ok description := by
  unfold readVideoSet at read
  obtain ⟨description, found, _⟩ := bind_eq_ok read
  exact ⟨description, found⟩

theorem ofSet_of_readGrid {first : DeclaredSet} {sets : Nat} {grid : Grid}
    (read : readGrid first sets = .ok grid) :
    ∃ description, SpatialDescription.ofSet first = .ok description := by
  unfold readGrid at read
  obtain ⟨description, found, _⟩ := bind_eq_ok read
  exact ⟨description, found⟩

theorem eq_of_perm_of_length_le_one {Item : Type} {items others : List Item}
    (same : items.Perm others) (short : items.length ≤ 1) : items = others := by
  rcases items with _ | ⟨item, _ | ⟨next, rest⟩⟩
  · exact (List.nil_perm.mp same).symm
  · exact (List.singleton_perm.mp same)
  · simp at short

namespace Manifest

variable {root : Option Markup.Attributes} {title : Option String} {sets others : List DeclaredSet}
  {manifest : Manifest}

theorem ofDeclaration_perm (same : sets.Perm others) (unambiguous : Unambiguous sets)
    (made : ofDeclaration { root, title, sets } = .ok manifest) :
    ofDeclaration { root, title, sets := others } = .ok manifest := by
  obtain ⟨attributes, first, rooted, parts⟩ := madeOf made
  obtain rfl : root = some attributes := rooted
  have video : (sets.filter fun set => !set.isAudio).Perm (others.filter fun set => !set.isAudio) :=
    same.filter _
  have audio : sets.filter (·.isAudio) = others.filter (·.isAudio) :=
    eq_of_perm_of_length_le_one (same.filter _) unambiguous.audio
  obtain ⟨_, _, small, _⟩ := readGrid_eq_ok parts.grid
  obtain ⟨built, mapped, _⟩ := (placeSets_eq_ok_iff small).mp parts.videoSets
  obtain ⟨other, otherBegins⟩ : ∃ other, (others.filter fun set => !set.isAudio).head? = some other := by
    cases all : others.filter fun set => !set.isAudio with
    | nil =>
        have begins := parts.first
        rw [all, List.perm_nil] at video
        simp [video] at begins
    | cons other rest => exact ⟨other, rfl⟩
  have otherMember := video.mem_iff.mpr (List.mem_of_head? otherBegins)
  obtain ⟨otherVideo, otherRead⟩ := exists_of_mapM_eq_ok mapped otherMember
  obtain ⟨two, readTwo⟩ := ofSet_of_readVideoSet otherRead
  obtain ⟨one, readOne⟩ := ofSet_of_readGrid parts.grid
  have gridOther : readGrid first (sets.filter fun set => !set.isAudio).length =
      readGrid other (others.filter fun set => !set.isAudio).length := by
    obtain ⟨firstListed, firstVideo⟩ := List.mem_filter.mp (List.mem_of_head? parts.first)
    obtain ⟨otherListed, otherIsVideo⟩ := List.mem_filter.mp otherMember
    rw [← video.length_eq]
    exact readGrid_congr readOne readTwo (unambiguous.totals first firstListed other otherListed
      (by simpa using firstVideo) (by simpa using otherIsVideo) one two readOne readTwo) _
  exact MadeOf.ofDeclaration { parts with
    first := otherBegins
    grid := gridOther.symm.trans parts.grid
    videoSets := placeSets_perm small video parts.videoSets
    audioSet := audio ▸ parts.audioSet }

section Documents

variable {document other : String}

/-- A manifest, or a fault, of one document is one of each document with the sets in another order. -/
theorem parse_reordered (reordered : Reordered document.toList other.toList)
    (unambiguous : ∀ declaration, Declaration.read document.toList = .ok declaration →
      Unambiguous declaration.sets) :
    (∀ manifest, parse document = .ok manifest ↔ parse other = .ok manifest) ∧
      ∀ fault, parse document = .error (.fault fault) ↔ parse other = .error (.fault fault) := by
  have alike := Declaration.read_reordered reordered
  generalize first : Declaration.read document.toList = one at alike
  generalize second : Declaration.read other.toList = two at alike
  cases alike with
  | read same root title =>
      have here := unambiguous _ first
      rw [parse_of_read first, parse_of_read second]
      refine ⟨fun manifest => ⟨?_, ?_⟩,
        fun fault => ofDeclaration_eq_fault_iff.trans ofDeclaration_eq_fault_iff.symm⟩
      · exact ofDeclaration_perm same here
      · exact ofDeclaration_perm same.symm (here.perm same)
  | failed one two =>
      rw [parse_of_unread first, parse_of_unread second]
      simp

end Documents

open Presentation (tiles)

/-- Video sets are laid out on a grid exactly if all of them can be read and their tiles are those of
the grid, each once; they then stand at their raster positions. In another order they are laid out
alike. So documents that differ only in the order of adaptation sets, of which both or neither of two
exchanged ones belong to the first period, have the same manifest or none, provided that the video sets
claim one grid and that there is one audio set at most. -/
theorem set_order_immaterial {grid : Grid} (small : grid.columns * grid.rows < 2 ^ 32)
    {sets others : List DeclaredSet} (permuted : sets.Perm others) {document other : String}
    (reordered : Reordered document.toList other.toList)
    (unambiguous : ∀ declaration, Declaration.read document.toList = .ok declaration →
      Unambiguous declaration.sets) :
    ((∃ videoSets, placeSets grid sets = .ok videoSets) ↔
      ∃ built, sets.mapM (readVideoSet grid) = .ok built ∧
        (built.map (·.tile)).Perm (tiles grid)) ∧
    (∀ videoSets, placeSets grid sets = .ok videoSets →
      (∃ built, sets.mapM (readVideoSet grid) = .ok built ∧ videoSets.Perm built) ∧
      videoSets.map (·.tile) = tiles grid ∧
      ∀ (raster : Nat) (video : VideoSet), videoSets[raster]? = some video →
        video.tile.rasterIndex grid.columns = .ok raster) ∧
    Answers (placeSets grid sets) ∧
    (∀ videoSets, placeSets grid sets = .ok videoSets ↔ placeSets grid others = .ok videoSets) ∧
    (∀ manifest, parse document = .ok manifest ↔ parse other = .ok manifest) ∧
    ∀ fault, parse document = .error (.fault fault) ↔ parse other = .error (.fault fault) := by
  refine ⟨exists_placeSets_iff small, ?_, answers_placeSets small sets, fun videoSets => ⟨?_, ?_⟩,
    parse_reordered reordered unambiguous⟩
  · intro videoSets placed
    obtain ⟨built, mapped, _, filled, raster⟩ := (placeSets_eq_ok_iff small).mp placed
    refine ⟨⟨built, mapped, filled⟩, raster, fun index video found => ?_⟩
    exact ((placeSets_eq_ok placed).2 index video (by simp [found])).2.1
  · exact placeSets_perm small permuted
  · exact placeSets_perm small permuted.symm

section Sample

def setText (place number inner : String) : String :=
  "<AdaptationSet maxWidth=\"2\" maxHeight=\"2\"><SupplementalProperty value=\"" ++ place ++
    "\"/><SegmentTemplate media=\"$Number$\" initialization=\"i\"/><Representation id=\"" ++
    number ++ "\" bandwidth=\"1\" codecs=\"c\" mimeType=\"v\"/>" ++ inner ++ "</AdaptationSet>"

def setOfText (place number : String) : DeclaredSet where
  attributes := [("maxHeight", "2"), ("maxWidth", "2")]
  properties := [("", place)]
  template := some [("initialization", "i"), ("media", "$Number$")]
  representations := [{
    attributes := [("mimeType", "v"), ("codecs", "c"), ("bandwidth", "1"), ("id", number)]
    template := none }]

def alone (number inner : String) : String := setText "0,0,1,1,1,1" number inner

def west (inner : String) : String := setText "0,0,1,1,2,1" "1" inner

def east (inner : String) : String := setText "1,0,1,1,2,1" "2" inner

def joined (opening first gap second ending : String) : String :=
  opening ++ first ++ gap ++ second ++ ending

theorem joined_toList (opening first gap second ending : String) :
    (joined opening first gap second ending).toList = opening.toList ++
      (first.toList ++ (gap.toList ++ (second.toList ++ ending.toList))) := by
  simp only [joined, String.toList_append, List.append_assoc]

theorem unambiguous_of_total (total : Grid) {sets : List DeclaredSet}
    (video : ∀ set ∈ sets, set.isAudio = false)
    (same : ∀ set ∈ sets, (SpatialDescription.ofSet set).map (·.total) = .ok total) :
    Unambiguous sets where
  totals first firstMember second secondMember _ _ one two readOne readTwo := by
    have totalOne := same first firstMember
    have totalTwo := same second secondMember
    rw [readOne] at totalOne
    rw [readTwo] at totalTwo
    exact (Except.ok.inj totalOne).trans (Except.ok.inj totalTwo).symm
  audio := by
    rw [List.filter_eq_nil_iff.mpr fun set member => by simp [video set member]]
    exact Nat.zero_le 1

theorem joined_reordered {first second : String} (firstSet : IsSetText first.toList)
    (secondSet : IsSetText second.toList) :
    Reordered (joined "<MPD><Period>" first " " second "</Period></MPD>").toList
      (joined "<MPD><Period>" second " " first "</Period></MPD>").toList := by
  have opening : Markup.events "<MPD><Period>".toList = .ok [
      .start { name := ['M', 'P', 'D'], attributes := [] },
      .start { name := ['P', 'e', 'r', 'i', 'o', 'd'], attributes := [] }] := by
    rw [String.toList_ofList]
    decide +kernel
  have gap : Markup.scan " ".toList = .ok [.text [' ']] := by
    rw [String.toList_ofList]
    decide +kernel
  have outside : IsOutside [['P', 'e', 'r', 'i', 'o', 'd'], ['M', 'P', 'D']] := by
    decide +kernel
  rw [joined_toList, joined_toList]
  exact .exchange _ opening rfl outside firstSet secondSet gap rfl outside (by decide +kernel)

theorem isSetText_west : IsSetText (west "").toList := by
  unfold west setText
  simp only [String.toList_append, List.append_assoc]
  repeat rw [String.toList_ofList]
  decide +kernel

theorem isSetText_east : IsSetText (east "").toList := by
  unfold east setText
  simp only [String.toList_append, List.append_assoc]
  repeat rw [String.toList_ofList]
  decide +kernel

theorem neighbours_immaterial :
    (∀ videoSets, placeSets { columns := 2, rows := 1 }
        [setOfText "0,0,1,1,2,1" "1", setOfText "1,0,1,1,2,1" "2"] = .ok videoSets ↔
      placeSets { columns := 2, rows := 1 }
        [setOfText "1,0,1,1,2,1" "2", setOfText "0,0,1,1,2,1" "1"] = .ok videoSets) ∧
    (placeSets { columns := 2, rows := 1 }
      [setOfText "0,0,1,1,2,1" "1", setOfText "1,0,1,1,2,1" "2"]).toOption.isSome ∧
    (∀ manifest,
      parse (joined "<MPD><Period>" (west "") " " (east "") "</Period></MPD>") = .ok manifest ↔
        parse (joined "<MPD><Period>" (east "") " " (west "") "</Period></MPD>") = .ok manifest) ∧
    (parse (joined "<MPD><Period>" (west "") " " (east "") "</Period></MPD>")).toOption.isSome := by
  have read :
      Declaration.read (joined "<MPD><Period>" (west "") " " (east "") "</Period></MPD>").toList =
        .ok ⟨some [], none, [setOfText "0,0,1,1,2,1" "1", setOfText "1,0,1,1,2,1" "2"]⟩ := by
    rw [joined_toList]
    unfold west east setText
    simp only [String.toList_append, List.append_assoc]
    repeat rw [String.toList_ofList]
    decide +kernel
  have small : Grid.columns ⟨2, 1⟩ * Grid.rows ⟨2, 1⟩ < 2 ^ 32 := by decide
  obtain ⟨_, _, _, layouts, manifests, _⟩ :=
    set_order_immaterial small (List.Perm.swap _ _ [])
      (joined_reordered isSetText_west isSetText_east) fun declaration found => by
        obtain rfl := Except.ok.inj (read.symm.trans found)
        exact unambiguous_of_total { columns := 2, rows := 1 } (by decide +kernel)
          (by decide +kernel)
  refine ⟨layouts, by decide +kernel, manifests, ?_⟩
  rw [parse_of_read read]
  decide +kernel

def outline (document : String) : Option (String × List (List Nat)) :=
  (parse document).toOption.map fun manifest =>
    (manifest.title, manifest.videoSets.map fun set => set.representations.map (·.id))

theorem outline_of_read {document : String} (declaration : Declaration)
    (read : Declaration.read document.toList = .ok declaration) :
    outline document = (ofDeclaration declaration).toOption.map fun manifest =>
      (manifest.title, manifest.videoSets.map fun set => set.representations.map (·.id)) := by
  rw [outline, parse_of_read read]

/-- The order of sets matters where they belong to different periods, inside of another set or of an
information about the document, or if they hold a title, a root or a period of their own. -/
theorem set_order_material :
    Unambiguous [setOfText "0,0,1,1,1,1" "1", setOfText "0,0,1,1,1,1" "2"] ∧
    Unambiguous [setOfText "0,0,1,1,2,1" "1", setOfText "1,0,1,1,2,1" "2"] ∧
    outline (joined "<MPD><Period>" (alone "1" "") "</Period><Period>" (alone "2" "")
      "</Period></MPD>") = some ("", [[1]]) ∧
    outline (joined "<MPD><Period>" (alone "2" "") "</Period><Period>" (alone "1" "")
      "</Period></MPD>") = some ("", [[2]]) ∧
    outline (joined "<MPD><Period><AdaptationSet maxWidth=\"2\" maxHeight=\"2\"><Period>"
      (alone "1" "") "" (alone "2" "") "</Period></AdaptationSet></Period></MPD>") =
        some ("", [[1]]) ∧
    outline (joined "<MPD><Period><AdaptationSet maxWidth=\"2\" maxHeight=\"2\"><Period>"
      (alone "2" "") "" (alone "1" "") "</Period></AdaptationSet></Period></MPD>") =
        some ("", [[2]]) ∧
    outline (joined "<MPD><Period>"
      (west "<ProgramInformation><Title>a</Title></ProgramInformation>") ""
      (east "<ProgramInformation><Title>b</Title></ProgramInformation>") "</Period></MPD>") =
        some ("ab", [[1], [2]]) ∧
    outline (joined "<MPD><Period>"
      (east "<ProgramInformation><Title>b</Title></ProgramInformation>") ""
      (west "<ProgramInformation><Title>a</Title></ProgramInformation>") "</Period></MPD>") =
        some ("ba", [[1], [2]]) ∧
    outline (joined "<MPD><Period>" (west "<MPD minBufferTime=\"x\"/>") "" (east "<MPD/>")
      "</Period></MPD>") = some ("", [[1], [2]]) ∧
    outline (joined "<MPD><Period>" (east "<MPD/>") "" (west "<MPD minBufferTime=\"x\"/>")
      "</Period></MPD>") = none ∧
    outline (joined "<MPD><Period>" (alone "1" "<Period/>") "" (alone "2" "")
      "</Period></MPD>") = some ("", [[1]]) ∧
    outline (joined "<MPD><Period>" (alone "2" "") "" (alone "1" "<Period/>")
      "</Period></MPD>") = none ∧
    outline (joined "<MPD><ProgramInformation><Period>" (west "<Title>a</Title>") ""
      (east "<Title>b</Title>") "</Period></ProgramInformation></MPD>") =
        some ("ab", [[1], [2]]) ∧
    outline (joined "<MPD><ProgramInformation><Period>" (east "<Title>b</Title>") ""
      (west "<Title>a</Title>") "</Period></ProgramInformation></MPD>") =
        some ("ba", [[1], [2]]) := by
  let one := setOfText "0,0,1,1,1,1" "1"
  let two := setOfText "0,0,1,1,1,1" "2"
  let left := setOfText "0,0,1,1,2,1" "1"
  let right := setOfText "1,0,1,1,2,1" "2"
  have single : Unambiguous [one, two] :=
    unambiguous_of_total { columns := 1, rows := 1 } (by decide +kernel) (by decide +kernel)
  have double : Unambiguous [left, right] :=
    unambiguous_of_total { columns := 2, rows := 1 } (by decide +kernel) (by decide +kernel)
  refine ⟨single, double,
    (outline_of_read ⟨some [], none, [one]⟩ ?_).trans (by decide +kernel),
    (outline_of_read ⟨some [], none, [two]⟩ ?_).trans (by decide +kernel),
    (outline_of_read ⟨some [], none, [one]⟩ ?_).trans (by decide +kernel),
    (outline_of_read ⟨some [], none, [two]⟩ ?_).trans (by decide +kernel),
    (outline_of_read ⟨some [], some "ab", [left, right]⟩ ?_).trans (by decide +kernel),
    (outline_of_read ⟨some [], some "ba", [right, left]⟩ ?_).trans (by decide +kernel),
    (outline_of_read ⟨some [], none, [left, right]⟩ ?_).trans (by decide +kernel),
    (outline_of_read ⟨some [("minBufferTime", "x")], none, [right, left]⟩ ?_).trans
      (by decide +kernel),
    (outline_of_read ⟨some [], none, [one]⟩ ?_).trans (by decide +kernel),
    (outline_of_read ⟨some [], none, [two, one]⟩ ?_).trans (by decide +kernel),
    (outline_of_read ⟨some [], some "ab", [left, right]⟩ ?_).trans (by decide +kernel),
    (outline_of_read ⟨some [], some "ba", [right, left]⟩ ?_).trans (by decide +kernel)⟩
  -- The kernel reads a list of characters faster than the bytes of a string.
  all_goals
    simp only [joined_toList, alone, west, east]
    unfold setText
    simp only [String.toList_append, List.append_assoc]
    repeat rw [String.toList_ofList]
    decide +kernel

end Sample

end Manifest

end TiledStream
