import TiledStream.Proofs.Manifest.Filling
import TiledStream.Proofs.Manifest.Interchange

/-! A template of a set counts for such representations alone as have none of their own. -/

namespace TiledStream

open Markup (Attributes)
open Presentation (tiles)

namespace DeclaredSet

def unsupplied (set : DeclaredSet) : DeclaredSet := { set with template := none }

variable {one two : DeclaredSet}

theorem eq_of_unsupplied (same : one.unsupplied = two.unsupplied) :
    two = { one with template := two.template } := by
  cases one
  cases two
  simp only [unsupplied, DeclaredSet.mk.injEq, true_and] at same ⊢
  exact ⟨same.1.symm, same.2.1.symm, same.2.2.symm⟩

theorem interchangeable_of_unsupplied (same : one.unsupplied = two.unsupplied)
    (own : ∀ declared ∈ one.representations, declared.template.isSome = true) :
    one.Interchangeable two := by
  rw [eq_of_unsupplied same]
  refine ⟨rfl, rfl, List.forall₂_same.mpr ?_⟩
  intro declared member
  obtain ⟨template, found⟩ := Option.isSome_iff_exists.mp (own declared member)
  refine ⟨rfl, ?_⟩
  rw [found]
  exact .some fun _ => rfl

theorem isAudio_of_unsupplied (same : one.unsupplied = two.unsupplied) :
    one.isAudio = two.isAudio := by
  rw [eq_of_unsupplied same]
  rfl

theorem ofSet_of_unsupplied (same : one.unsupplied = two.unsupplied) :
    SpatialDescription.ofSet one = SpatialDescription.ofSet two := by
  rw [eq_of_unsupplied same]
  rfl

end DeclaredSet

/-- Whether two video sets read of a declared one differ at most in representations that were
declared without a template. -/
structure KeepsOwn (declared : DeclaredSet) (one two : VideoSet) : Prop where
  around : two = { one with representations := two.representations }
  own : ∀ (index : Nat) (representation : DeclaredRepresentation),
    declared.representations[index]? = some representation →
    representation.template.isSome = true →
    one.representations[index]? = two.representations[index]?

theorem readRepresentation_own {declared : DeclaredRepresentation} {first second : Option Attributes}
    (own : declared.template.isSome = true) (numbered : Bool) :
    readRepresentation declared first numbered = readRepresentation declared second numbered := by
  obtain ⟨template, found⟩ := Option.isSome_iff_exists.mp own
  unfold readRepresentation
  rw [found]
  rfl

theorem readAudioSet_own {set : DeclaredSet} {representation : DeclaredRepresentation}
    (begins : set.representations.head? = some representation)
    (own : representation.template.isSome = true) (template : Option Attributes) :
    readAudioSet { set with template } = readAudioSet set := by
  have inherited (key : String) :
      ({ set with template } : DeclaredSet).inherited? key = set.inherited? key := rfl
  have read : readRepresentation representation template false =
      readRepresentation representation set.template false := readRepresentation_own own false
  unfold readAudioSet DeclaredSet.mimeType?
  simp only [begins, inherited, require, bind, Except.bind, read]

theorem VideoSet.MadeOf.keepsOwn {grid : Grid} {one two : DeclaredSet} {video other : VideoSet}
    (same : one.unsupplied = two.unsupplied) (made : video.MadeOf grid one)
    (madeOther : other.MadeOf grid two) : KeepsOwn one video other := by
  rw [DeclaredSet.eq_of_unsupplied same] at madeOther
  constructor
  · have tile : video.tile = other.tile :=
      Except.ok.inj (made.described.symm.trans madeOther.described)
    have width := Except.ok.inj (made.width.symm.trans madeOther.width)
    have height := Except.ok.inj (made.height.symm.trans madeOther.height)
    have codecs := Option.some.inj (made.codecs.symm.trans madeOther.codecs)
    have mimeType := Option.some.inj (made.mimeType.symm.trans madeOther.mimeType)
    obtain ⟨_, ⟨_, _⟩, _, _, _⟩ := video
    obtain ⟨_, ⟨_, _⟩, _, _, _⟩ := other
    dsimp only at tile width height codecs mimeType ⊢
    rw [tile, width, height, codecs, mimeType]
  · intro index declared found own
    obtain ⟨representation, here, read⟩ := getElem?_of_mapM made.representations found
    obtain ⟨also, there, readOther⟩ := getElem?_of_mapM madeOther.representations found
    rw [readRepresentation_own own] at read
    rw [here, there, Except.ok.inj (read.symm.trans readOther)]

theorem head?_related {Item : Type} {relation : Item → Item → Prop} {ones twos : List Item} {one : Item}
    (related : List.Forall₂ relation ones twos) (begins : ones.head? = some one) :
    ∃ two, twos.head? = some two ∧ relation one two := by
  cases related with
  | nil => exact nomatch begins
  | cons here _ =>
      obtain rfl := Option.some.inj begins
      exact ⟨_, rfl, here⟩

theorem forall₂_of_modify {Item : Type} {relation : Item → Item → Prop} {change : Item → Item}
    {index : Nat} {ones twos : List Item} (same : ones.modify index change = twos.modify index change)
    (elsewhere : ∀ item, relation item item)
    (here : ∀ one two, ones[index]? = some one → change one = change two → relation one two) :
    List.Forall₂ relation ones twos := by
  induction ones generalizing twos index with
  | nil =>
      rw [List.modify_nil, eq_comm, List.modify_eq_nil_iff] at same
      rw [same]
      exact .nil
  | cons one ones ih =>
      cases twos with
      | nil => simp at same
      | cons two twos =>
          cases index with
          | zero =>
              obtain ⟨first, rfl⟩ := List.cons.inj same
              exact .cons (here one two rfl first) (List.forall₂_same.mpr fun item _ => elsewhere item)
          | succ index =>
              obtain ⟨rfl, rest⟩ := List.cons.inj same
              exact .cons (elsewhere one) (ih rest here)

section Sets

variable {grid : Grid} {sets others : List DeclaredSet} {videoSets otherSets : List VideoSet}

theorem placeSets_keepsOwn (small : grid.columns * grid.rows < 2 ^ 32)
    (related : List.Forall₂ (fun one two : DeclaredSet => one.unsupplied = two.unsupplied) sets others)
    (placed : placeSets grid sets = .ok videoSets)
    (placedOther : placeSets grid others = .ok otherSets) {raster : Nat} {video : VideoSet}
    (found : videoSets[raster]? = some video) :
    ∃ declared ∈ sets, ∃ other, otherSets[raster]? = some other ∧
      readVideoSet grid declared = .ok video ∧ KeepsOwn declared video other := by
  obtain ⟨built, mapped, _, same, raster_eq⟩ := (placeSets_eq_ok_iff small).mp placed
  obtain ⟨builtOther, mappedOther, _, sameOther, other_eq⟩ :=
    (placeSets_eq_ok_iff small).mp placedOther
  obtain ⟨number, at_number⟩ :=
    List.mem_iff_getElem?.mp (same.mem_iff.mp (List.mem_of_getElem? found))
  obtain ⟨declared, listed, read⟩ := (mapM_eq_ok mapped).2 number video at_number
  obtain ⟨bound, here⟩ := List.getElem?_eq_some_iff.mp listed
  have otherBound : number < others.length := related.length_eq ▸ bound
  have alike := related.get bound otherBound
  obtain ⟨other, otherAt, otherRead⟩ :=
    getElem?_of_mapM mappedOther (List.getElem?_eq_getElem otherBound)
  have keeps : KeepsOwn declared video other :=
    (VideoSet.madeOf read).keepsOwn (by simpa [here] using alike) (VideoSet.madeOf otherRead)
  have tile : other.tile = video.tile := by rw [keeps.around]
  obtain ⟨place, at_place⟩ :=
    List.mem_iff_getElem?.mp (sameOther.mem_iff.mpr (List.mem_of_getElem? otherAt))
  have here_tile : (tiles grid)[raster]? = some video.tile := by
    rw [← raster_eq, List.getElem?_map, found, Option.map_some]
  have there_tile : (tiles grid)[place]? = some video.tile := by
    rw [← other_eq, List.getElem?_map, at_place, Option.map_some, tile]
  have same_place : raster = place :=
    (List.getElem?_inj (List.getElem?_eq_some_iff.mp here_tile).1 (nodup_tiles_all grid)).mp
      (here_tile.trans there_tile.symm)
  exact ⟨declared, List.mem_of_getElem? listed, other, same_place ▸ at_place, read, keeps⟩

theorem readFrameExtent_congr {one two : List VideoSet}
    (same : one.map (·.extent) = two.map (·.extent)) :
    readFrameExtent grid one = readFrameExtent grid two := by
  have sums (size : Extent → Nat) :
      (one.map fun video => size video.extent) = two.map fun video => size video.extent := by
    have mapped := congrArg (List.map size) same
    rwa [List.map_map, List.map_map] at mapped
  unfold readFrameExtent
  rw [sums (·.width), sums (·.height)]

end Sets

namespace Manifest

/-- Whether two manifests of some sets differ at most in representations that were declared without a
template. Of audio only the first representation of the first set counts. -/
structure KeepsOwn (sets : List DeclaredSet) (one two : Manifest) : Prop where
  around : two = { one with videoSets := two.videoSets, audioSet := two.audioSet }
  size : one.videoSets.length = two.videoSets.length
  video : ∀ (raster : Nat) (video : VideoSet), one.videoSets[raster]? = some video →
    ∃ declared ∈ sets, ∃ other, two.videoSets[raster]? = some other ∧
      readVideoSet one.grid declared = .ok video ∧ TiledStream.KeepsOwn declared video other
  audio : ∀ (declared : DeclaredSet) (representation : DeclaredRepresentation),
    sets.find? (·.isAudio) = some declared →
    declared.representations.head? = some representation →
    representation.template.isSome = true → one.audioSet = two.audioSet

section Made

variable {root : Attributes} {title : Option String} {sets others : List DeclaredSet}
  {leading otherLeading : DeclaredSet} {manifest other : Manifest}
  (related : List.Forall₂ (fun one two : DeclaredSet => one.unsupplied = two.unsupplied) sets others)
  (made : manifest.MadeOf root title sets leading)
  (madeOther : other.MadeOf root title others otherLeading)

include related in
theorem filter_isVideo :
    List.Forall₂ (fun one two : DeclaredSet => one.unsupplied = two.unsupplied)
      (sets.filter fun set => !set.isAudio) (others.filter fun set => !set.isAudio) :=
  filter_related _ related fun one two same => by rw [DeclaredSet.isAudio_of_unsupplied same]

include related made madeOther

theorem MadeOf.same_grid : manifest.grid = other.grid := by
  have video := filter_isVideo related
  obtain ⟨set, begins, same⟩ := head?_related video made.first
  obtain rfl := Option.some.inj (begins.symm.trans madeOther.first)
  have here := made.grid
  unfold readGrid at here
  rw [DeclaredSet.ofSet_of_unsupplied same, video.length_eq] at here
  exact Except.ok.inj (here.symm.trans madeOther.grid)

theorem MadeOf.keepsVideo {raster : Nat} {video : VideoSet}
    (found : manifest.videoSets[raster]? = some video) :
    ∃ declared ∈ sets, ∃ otherVideo, other.videoSets[raster]? = some otherVideo ∧
      readVideoSet manifest.grid declared = .ok video ∧
      TiledStream.KeepsOwn declared video otherVideo := by
  have small := (readGrid_eq_ok made.grid).2.2.1
  have placed := madeOther.videoSets
  rw [← made.same_grid related madeOther] at placed
  obtain ⟨declared, member, keeps⟩ :=
    placeSets_keepsOwn small (filter_isVideo related) made.videoSets placed found
  exact ⟨declared, (List.mem_filter.mp member).1, keeps⟩

theorem MadeOf.same_size : manifest.videoSets.length = other.videoSets.length := by
  rw [length_of_placeSets made.videoSets, length_of_placeSets madeOther.videoSets,
    made.same_grid related madeOther]

theorem MadeOf.same_frameExtent : manifest.frameExtent = other.frameExtent := by
  have extents : manifest.videoSets.map (·.extent) = other.videoSets.map (·.extent) := by
    apply List.ext_getElem?
    intro raster
    rw [List.getElem?_map, List.getElem?_map]
    cases found : manifest.videoSets[raster]? with
    | none =>
        have beyond := List.getElem?_eq_none_iff.mp found
        rw [List.getElem?_eq_none (made.same_size related madeOther ▸ beyond)]
    | some video =>
        obtain ⟨_, _, otherVideo, otherFound, _, own⟩ := made.keepsVideo related madeOther found
        rw [otherFound, own.around]
        rfl
  have here := made.frameExtent
  rw [readFrameExtent_congr extents, made.same_grid related madeOther] at here
  exact Except.ok.inj (here.symm.trans madeOther.frameExtent)

theorem MadeOf.keepsAudio {declared : DeclaredSet} {representation : DeclaredRepresentation}
    (found : sets.find? (·.isAudio) = some declared)
    (begins : declared.representations.head? = some representation)
    (own : representation.template.isSome = true) : manifest.audioSet = other.audioSet := by
  have audio := filter_related (fun set => set.isAudio) related fun one two same =>
    DeclaredSet.isAudio_of_unsupplied same
  rw [← List.head?_filter] at found
  obtain ⟨set, there, same⟩ := head?_related audio found
  have here := made.audioSet
  have read := madeOther.audioSet
  rw [found] at here
  rw [there, DeclaredSet.eq_of_unsupplied same, Option.mapM_some, readAudioSet_own begins own] at read
  exact Except.ok.inj (here.symm.trans read)

end Made

theorem keepsOwn_of_related {one two : Declaration} {manifest other : Manifest}
    (root : one.root = two.root) (title : one.title = two.title)
    (related : List.Forall₂ (fun one two : DeclaredSet => one.unsupplied = two.unsupplied)
      one.sets two.sets)
    (made : ofDeclaration one = .ok manifest) (madeOther : ofDeclaration two = .ok other) :
    KeepsOwn one.sets manifest other := by
  obtain ⟨attributes, first, rooted, made⟩ := madeOf made
  obtain ⟨otherAttributes, otherFirst, otherRooted, madeOther⟩ := madeOf madeOther
  obtain rfl := Option.some.inj (rooted.symm.trans (root.trans otherRooted))
  rw [← title] at madeOther
  refine {
    around := ?_
    size := made.same_size related madeOther
    video := fun raster video found => made.keepsVideo related madeOther found
    audio := fun declared representation => made.keepsAudio related madeOther }
  have named := made.title.trans madeOther.title.symm
  have grid := made.same_grid related madeOther
  have frame := made.same_frameExtent related madeOther
  have presentation :=
    Except.ok.inj (made.presentationDuration.symm.trans madeOther.presentationDuration)
  have buffer := Except.ok.inj (made.minBufferTime.symm.trans madeOther.minBufferTime)
  have segment := Except.ok.inj (made.maxSegmentDuration.symm.trans madeOther.maxSegmentDuration)
  cases manifest
  cases other
  dsimp only at named grid frame presentation buffer segment ⊢
  rw [named, grid, frame, presentation, buffer, segment]

end Manifest

end TiledStream
