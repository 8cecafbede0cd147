import Mathlib.Data.List.Forall2
import TiledStream.Manifest.Layout
import TiledStream.Proofs.Traverse

/-! Declared sets that may stand for each other. What counts of a template is the values it gives to
each representation, wherever it was declared. -/

namespace TiledStream

def Agree (one two : Markup.Attributes) : Prop := ∀ key, one.value? key = two.value? key

theorem Agree.trans {one two three : Markup.Attributes} (first : Agree one two)
    (second : Agree two three) : Agree one three := fun key => (first key).trans (second key)

theorem Agree.symm {one two : Markup.Attributes} (agree : Agree one two) : Agree two one :=
  fun key => (agree key).symm

namespace DeclaredRepresentation

/-- Representations that say the same with the templates of their sets. -/
structure Interchangeable (oneTemplate twoTemplate : Option Markup.Attributes)
    (one two : DeclaredRepresentation) : Prop where
  attributes : one.attributes = two.attributes
  template : Option.Rel Agree (one.template.or oneTemplate) (two.template.or twoTemplate)

end DeclaredRepresentation

namespace DeclaredSet

structure Interchangeable (one two : DeclaredSet) : Prop where
  attributes : one.attributes = two.attributes
  properties : one.properties = two.properties
  representations : List.Forall₂
    (DeclaredRepresentation.Interchangeable one.template two.template)
    one.representations two.representations

end DeclaredSet

theorem readRepresentation_congr {oneTemplate twoTemplate : Option Markup.Attributes}
    {one two : DeclaredRepresentation} (same : one.Interchangeable oneTemplate twoTemplate two)
    (numbered : Bool) :
    readRepresentation one oneTemplate numbered = readRepresentation two twoTemplate numbered := by
  have templates := same.template
  unfold readRepresentation
  rw [same.attributes]
  generalize one.template.or oneTemplate = first at templates
  generalize two.template.or twoTemplate = second at templates
  cases templates with
  | none => rfl
  | @some first second agree =>
      have read (key : String) : templateAttribute first key = templateAttribute second key := by
        rw [templateAttribute, agree key, templateAttribute]
      simp only [require, bind, Except.bind, read]

theorem mapM_congr {Source Error Target : Type} {relation : Source → Source → Prop}
    {first second : Source → Except Error Target} {ones twos : List Source}
    (related : List.Forall₂ relation ones twos)
    (same : ∀ one two, relation one two → first one = second two) :
    ones.mapM first = twos.mapM second := by
  induction related with
  | nil => rfl
  | cons here rest ih => rw [List.mapM_cons, List.mapM_cons, same _ _ here, ih]

namespace DeclaredSet

variable {one two : DeclaredSet}

theorem Interchangeable.inherited? (same : one.Interchangeable two) (key : String) :
    one.inherited? key = two.inherited? key := by
  have representations := same.representations
  unfold DeclaredSet.inherited?
  rw [same.attributes]
  generalize one.representations = ones at representations
  generalize two.representations = twos at representations
  cases representations with
  | nil => rfl
  | cons here _ =>
      simp only [List.head?_cons, Option.bind_some]
      rw [here.attributes]

theorem Interchangeable.isAudio (same : one.Interchangeable two) : one.isAudio = two.isAudio := by
  unfold DeclaredSet.isAudio mimeType?
  rw [same.inherited?, same.attributes]

theorem Interchangeable.ofSet (same : one.Interchangeable two) :
    SpatialDescription.ofSet one = SpatialDescription.ofSet two := by
  unfold SpatialDescription.ofSet spatialDescription?
  rw [same.properties]

theorem Interchangeable.readVideoSet (same : one.Interchangeable two) (grid : Grid) :
    TiledStream.readVideoSet grid one = TiledStream.readVideoSet grid two := by
  have empty : one.representations.isEmpty = two.representations.isEmpty := by
    rw [Bool.eq_iff_iff, List.isEmpty_iff_length_eq_zero, List.isEmpty_iff_length_eq_zero,
      same.representations.length_eq]
  have representations := mapM_congr same.representations
    fun first second related => readRepresentation_congr related true
  unfold TiledStream.readVideoSet readExtent mimeType?
  rw [same.ofSet, same.attributes, empty]
  simp only [same.inherited?, representations]

theorem Interchangeable.readAudioSet (same : one.Interchangeable two) :
    TiledStream.readAudioSet one = TiledStream.readAudioSet two := by
  have representations := same.representations
  unfold TiledStream.readAudioSet mimeType?
  simp only [same.inherited?]
  generalize one.representations = ones at representations
  generalize two.representations = twos at representations
  cases representations with
  | nil => rfl
  | cons here _ =>
      simp only [List.head?_cons, require]
      have read := readRepresentation_congr here false
      simp only [bind, Except.bind]
      rw [read]

theorem Interchangeable.readGrid (same : one.Interchangeable two) (sets : Nat) :
    TiledStream.readGrid one sets = TiledStream.readGrid two sets := by
  unfold TiledStream.readGrid
  rw [same.ofSet]

end DeclaredSet

theorem filter_related {Item : Type} {relation : Item → Item → Prop} (keeps : Item → Bool)
    {ones twos : List Item} (related : List.Forall₂ relation ones twos)
    (same : ∀ one two, relation one two → keeps one = keeps two) :
    List.Forall₂ relation (ones.filter keeps) (twos.filter keeps) := by
  induction related with
  | nil => exact .nil
  | @cons one two ones twos here rest ih =>
      rw [List.filter_cons, List.filter_cons, same one two here]
      split
      · exact .cons here ih
      · exact ih

theorem placeSets_congr {grid : Grid} {ones twos : List DeclaredSet}
    (related : List.Forall₂ DeclaredSet.Interchangeable ones twos) :
    placeSets grid ones = placeSets grid twos := by
  have folded (slots : List (Option VideoSet)) :
      ones.foldlM (placeSet grid) slots = twos.foldlM (placeSet grid) slots := by
    induction related generalizing slots with
    | nil => rfl
    | @cons one two ones twos here rest ih =>
        have placed : placeSet grid slots one = placeSet grid slots two := by
          unfold placeSet
          rw [here.readVideoSet grid]
        rw [List.foldlM_cons, List.foldlM_cons, placed]
        cases placeSet grid slots two with
        | error error => rfl
        | ok next => exact ih next
  unfold placeSets
  simp only [folded]

namespace Manifest

/-- Sets that are interchangeable one by one make the same manifest, or fail alike. -/
theorem ofDeclaration_congr {root : Option Markup.Attributes} {title : Option String}
    {ones twos : List DeclaredSet}
    (related : List.Forall₂ DeclaredSet.Interchangeable ones twos) :
    ofDeclaration { root, title, sets := ones } = ofDeclaration { root, title, sets := twos } := by
  have video := filter_related (fun set => !set.isAudio) related fun one two same => by
    rw [same.isAudio]
  have audio := filter_related (fun set => set.isAudio) related fun one two same => same.isAudio
  unfold ofDeclaration
  dsimp only
  generalize ones.filter (fun set => !set.isAudio) = videoOnes at video
  generalize twos.filter (fun set => !set.isAudio) = videoTwos at video
  generalize ones.filter (fun set => set.isAudio) = audioOnes at audio
  generalize twos.filter (fun set => set.isAudio) = audioTwos at audio
  have heard : audioOnes.head?.mapM readAudioSet = audioTwos.head?.mapM readAudioSet := by
    cases audio with
    | nil => rfl
    | cons here _ => rw [List.head?_cons, List.head?_cons, Option.mapM_some, here.readAudioSet]; rfl
  have placed (grid : Grid) : placeSets grid videoOnes = placeSets grid videoTwos :=
    placeSets_congr video
  rw [heard]
  cases video with
  | nil => rfl
  | cons here rest =>
      simp only [placed, List.head?_cons, List.length_cons, rest.length_eq, require,
        orManifestError, bind, Except.bind, here.readGrid]

end Manifest

end TiledStream
