import TiledStream.Manifest.Basic
import TiledStream.Manifest.MediaTemplate
import TiledStream.Manifest.Presentation
import TiledStream.Proofs.Manifest.MediaPath

/-! Templates of a presentation give back the paths they were written for. -/

namespace TiledStream

namespace Text

variable {mark : Char} {rest part replacement before after : List Char}

theorem replaceFrom_plain (plain : ∀ c ∈ before, c ≠ mark) :
    replaceFrom (mark :: part) replacement 0 (before ++ rest) =
      before ++ replaceFrom (mark :: part) replacement 0 rest := by
  induction before with
  | nil => rfl
  | cons c before ih =>
      have other : (mark == c) = false :=
        beq_eq_false_iff_ne.mpr fun same => plain c List.mem_cons_self same.symm
      rw [List.cons_append, replaceFrom, List.isPrefixOf_cons_cons, other]
      simp only [Bool.false_and, Bool.false_eq_true, ↓reduceIte, List.cons_append]
      rw [ih fun d member => plain d (List.mem_cons_of_mem c member)]

theorem replaceFrom_skip (covered : List Char) :
    replaceFrom part replacement covered.length (covered ++ rest) =
      replaceFrom part replacement 0 rest := by
  induction covered with
  | nil => rfl
  | cons c covered ih =>
      rw [List.length_cons, List.cons_append, replaceFrom]
      exact ih

theorem replaceFrom_part :
    replaceFrom (mark :: part) replacement 0 (mark :: part ++ rest) =
      replacement ++ replaceFrom (mark :: part) replacement 0 rest := by
  have starts : (mark :: part).isPrefixOf (mark :: (part ++ rest)) = true := by
    simp [List.isPrefixOf_iff_prefix]
  rw [List.cons_append, replaceFrom, if_pos starts, List.length_cons, Nat.add_sub_cancel,
    replaceFrom_skip]

end Text

namespace MediaTemplate

theorem withSlot?_plain {before rest : List Char} (plain : ∀ c ∈ before, c ≠ '$') :
    withSlot? (before ++ rest) = (withSlot? rest).map (before ++ ·) := by
  induction before with
  | nil => simp
  | cons c before ih =>
      have none : placeholder? (c :: (before ++ rest)) = none := by
        have other := plain c List.mem_cons_self
        unfold placeholder?
        split
        · rename_i same
          exact absurd (List.cons.inj same).1 other
        · rename_i same
          exact absurd (List.cons.inj same).1 other
        · rfl
      rw [List.cons_append, withSlot?, none]
      dsimp only
      rw [ih fun d member => plain d (List.mem_cons_of_mem c member), Option.map_map]
      rfl

end MediaTemplate

theorem fillSlot_plain {before : List Char} (after : List Char) (segment : Nat)
    (plain : ∀ c ∈ before, c ≠ '\x7b') :
    fillSlot (before ++ '\x7b' :: '\x7d' :: after) segment =
      .ok (before ++ Text.digitsOf segment ++ after) := by
  have unopened : '\x7b' ∉ before := fun member => plain _ member rfl
  have filled : fillSlot (before ++ '\x7b' :: '\x7d' :: after) segment = _ :=
    fillSlot_braces segment unopened List.not_mem_nil
  have unpadded : Text.padded 0 segment = Text.digitsOf segment := by
    simp [Text.padded, List.leftpad]
  have none : slotWidth [] = 0 := rfl
  rw [none, if_neg (Nat.not_lt_zero _), unpadded] at filled
  exact filled

namespace Presentation

def isStemChar (c : Char) : Bool := c.isAlphanum || c == '_'

theorem isStemChar_ne {c : Char} (stem : isStemChar c = true) : c ≠ '$' ∧ c ≠ '\x7b' := by
  constructor
  · rintro rfl
    revert stem
    decide
  · rintro rfl
    revert stem
    decide

theorem isStemChar_digitsOf (number : Nat) :
    ∀ c ∈ Text.digitsOf number, isStemChar c = true := by
  intro c member
  simp [isStemChar, Char.isAlphanum, Text.isDigit_of_mem_digitsOf member]

def stemHead (tileIndex : Nat) : List Char :=
  "tile".toList ++ Text.digitsOf tileIndex ++ "_rep".toList

theorem pathStem_eq (tileIndex : Nat) (representation : List Char) :
    pathStem tileIndex representation = stemHead tileIndex ++ (representation ++ ['_']) :=
  List.append_assoc _ _ _

theorem isStemChar_head (tileIndex : Nat) : ∀ c ∈ stemHead tileIndex, isStemChar c = true :=
  List.forall_mem_append.mpr ⟨
    List.forall_mem_append.mpr ⟨
      List.all_eq_true.mp (show "tile".toList.all isStemChar = true by decide),
      isStemChar_digitsOf tileIndex⟩,
    List.all_eq_true.mp (show "_rep".toList.all isStemChar = true by decide)⟩

theorem isStemChar_stem (tileIndex id : Nat) :
    ∀ c ∈ pathStem tileIndex (Text.digitsOf id), isStemChar c = true := by
  rw [pathStem_eq]
  exact List.forall_mem_append.mpr ⟨isStemChar_head tileIndex,
    List.forall_mem_append.mpr
      ⟨isStemChar_digitsOf id, List.forall_mem_singleton.mpr (by decide)⟩⟩

theorem substitute_stem (tileIndex id : Nat) (bandwidth : List Char) {ending : List Char}
    (noId : ∀ text, Text.replaceFrom "$RepresentationID$".toList text 0 ending = ending)
    (noBandwidth : ∀ text, Text.replaceFrom "$Bandwidth$".toList text 0 ending = ending) :
    MediaTemplate.substitute (pathStem tileIndex "$RepresentationID$".toList ++ ending)
        (Text.digitsOf id) bandwidth =
      pathStem tileIndex (Text.digitsOf id) ++ ending := by
  have head : ∀ c ∈ stemHead tileIndex, c ≠ '$' :=
    fun c member => (isStemChar_ne (isStemChar_head tileIndex c member)).1
  have stem : ∀ c ∈ pathStem tileIndex (Text.digitsOf id), c ≠ '$' :=
    fun c member => (isStemChar_ne (isStemChar_stem tileIndex id c member)).1
  have filled (text : List Char) : Text.replaceFrom "$RepresentationID$".toList text 0
      (pathStem tileIndex "$RepresentationID$".toList ++ ending) =
        pathStem tileIndex text ++ ending := by
    have underscore : ∀ c ∈ ['_'], c ≠ '$' := List.forall_mem_singleton.mpr (by decide)
    have spelled : "$RepresentationID$".toList = '$' :: "RepresentationID$".toList := by decide
    rw [pathStem_eq, pathStem_eq, List.append_assoc, List.append_assoc]
    rw [spelled] at noId ⊢
    rw [Text.replaceFrom_plain head, Text.replaceFrom_part, Text.replaceFrom_plain underscore,
      noId, List.append_assoc, List.append_assoc]
  have spelled : "$Bandwidth$".toList = '$' :: "Bandwidth$".toList := by decide
  rw [MediaTemplate.substitute, Text.replaceAll, Text.replaceAll, filled]
  rw [spelled] at noBandwidth ⊢
  rw [Text.replaceFrom_plain stem, noBandwidth]

theorem substitute_media (tileIndex id : Nat) (bandwidth : List Char) :
    MediaTemplate.substitute
        (pathStem tileIndex "$RepresentationID$".toList ++ "$Number$.m4s".toList)
        (Text.digitsOf id) bandwidth =
      pathStem tileIndex (Text.digitsOf id) ++ "$Number$.m4s".toList :=
  substitute_stem tileIndex id bandwidth (fun _ => rfl) (fun _ => rfl)

theorem substitute_initialization (tileIndex id : Nat) (bandwidth : List Char) :
    MediaTemplate.substitute
        (pathStem tileIndex "$RepresentationID$".toList ++ "init.mp4".toList)
        (Text.digitsOf id) bandwidth =
      (initializationPath tileIndex id).toList := by
  rw [substitute_stem tileIndex id bandwidth (fun _ => rfl) (fun _ => rfl)]
  exact String.toList_ofList.symm

def slotted (tileIndex id : Nat) : List Char :=
  pathStem tileIndex (Text.digitsOf id) ++ "\x7b\x7d.m4s".toList

theorem withSlot?_media (tileIndex id : Nat) :
    MediaTemplate.withSlot? (pathStem tileIndex (Text.digitsOf id) ++ "$Number$.m4s".toList) =
      some (slotted tileIndex id) := by
  have stem : ∀ c ∈ pathStem tileIndex (Text.digitsOf id), c ≠ '$' :=
    fun c member => (isStemChar_ne (isStemChar_stem tileIndex id c member)).1
  rw [MediaTemplate.withSlot?_plain stem]
  rfl

theorem fillSlot_slotted (tileIndex id segment : Nat) :
    (fillSlot (slotted tileIndex id) segment).map String.ofList =
      .ok (mediaPath tileIndex id segment) := by
  have stem : ∀ c ∈ pathStem tileIndex (Text.digitsOf id), c ≠ '\x7b' :=
    fun c member => (isStemChar_ne (isStemChar_stem tileIndex id c member)).2
  have filled := fillSlot_plain ".m4s".toList segment stem
  have spelled : "\x7b\x7d.m4s".toList = '\x7b' :: '\x7d' :: ".m4s".toList := by decide
  rw [slotted, spelled, filled]
  rfl

end Presentation

end TiledStream
