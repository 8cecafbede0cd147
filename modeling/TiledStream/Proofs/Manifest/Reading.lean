import TiledStream.Manifest.Declaration
import TiledStream.Proofs.Markup.Attributes

/-! Written pieces of a manifest are read one after the other. -/

namespace TiledStream

open Markup (Piece Scans tagOf isName)

def readAs (attributes : List (String × List Char)) : Markup.Attributes :=
  (attributes.map fun entry => (entry.1, String.ofList entry.2)).reverse

def areKeys (names : List String) : Bool := names.all isName && decide names.Nodup

theorem readAttributes_keys {attributes : List (String × List Char)} (name : String)
    (keys : areKeys (attributes.map (·.1)) = true) :
    (tagOf name attributes).readAttributes = .ok (readAs attributes) := by
  simp only [areKeys, Bool.and_eq_true, List.all_map, List.all_eq_true, Function.comp_apply,
    decide_eq_true_iff] at keys
  exact Markup.readAttributes_written keys.1 keys.2

/-- Some pieces take a reading from one state to another, and leave no element open. -/
structure Reads (pieces : List Piece) (reading after : Reading) : Prop where
  folded : (pieces.flatMap Piece.events).foldlM Reading.step reading = .ok after
  balanced : ∀ rest opened, Markup.openElements (pieces.flatMap Piece.events ++ rest) opened =
    Markup.openElements rest opened

namespace Reads

theorem nil (reading : Reading) : Reads [] reading reading :=
  { folded := rfl
    balanced := fun _ _ => rfl }

theorem append {first second : List Piece} {reading between after : Reading}
    (before : Reads first reading between) (next : Reads second between after) :
    Reads (first ++ second) reading after :=
  { folded := by
      rw [List.flatMap_append, List.foldlM_append, before.folded]
      exact next.folded
    balanced := fun rest opened => by
      rw [List.flatMap_append, List.append_assoc, before.balanced, next.balanced] }

theorem empty {name : String} {attributes : List (String × List Char)} {reading after : Reading}
    (stepped : reading.step (.empty (tagOf name attributes)) = .ok after) :
    Reads [.empty name attributes] reading after :=
  { folded := by
      simp only [List.flatMap_cons, List.flatMap_nil, Piece.events, List.append_nil,
        List.foldlM_cons, stepped]
      rfl
    balanced := fun _ _ => rfl }

theorem text {content : List Char} {reading after : Reading}
    (stepped : reading.characters content = after) (kept : content = [] → after = reading) :
    Reads [.text content] reading after := by
  cases content with
  | nil =>
      rw [kept rfl]
      exact { folded := rfl, balanced := fun _ _ => rfl }
  | cons c content =>
      refine { folded := ?_, balanced := fun _ _ => rfl }
      simp only [List.flatMap_cons, List.flatMap_nil, Piece.events, List.append_nil,
        List.foldlM_cons, Reading.step, Markup.unescape_escape, Except.map, stepped]
      rfl

theorem element {name : String} {attributes : List (String × List Char)} {content : List Piece}
    {reading inside finished : Reading}
    (started : reading.step (.start (tagOf name attributes)) = .ok inside)
    (inner : Reads content inside finished) :
    Reads (Markup.element name attributes content) reading (finished.closed name.toList) :=
  { folded := by
      simp only [Markup.element, List.cons_append, List.flatMap_cons, List.flatMap_append,
        Piece.events, List.flatMap_nil, List.append_nil, List.foldlM_cons, started]
      change List.foldlM Reading.step inside _ = _
      rw [List.nil_append, List.foldlM_append, inner.folded]
      rfl
    balanced := fun rest opened => by
      simp only [Markup.element, List.cons_append, List.flatMap_cons, List.flatMap_append,
        Piece.events, List.flatMap_nil, List.append_nil, List.nil_append, List.append_assoc]
      change Markup.openElements _ (name.toList :: opened) = _
      rw [inner.balanced, Markup.openElements_cons, Markup.openAfter_stop]
      rfl }

end Reads

namespace Reading

variable (reading : Reading) {attributes : List (String × List Char)}

theorem step_presentation (keys : areKeys (attributes.map (·.1)) = true) :
    reading.step (.start (tagOf "MPD" attributes)) = .ok { reading with
      declaration := { reading.declaration with root := some (readAs attributes) } } := by
  have named : ElementName.ofName "MPD".toList = .presentation := by decide
  simp only [step, opened, Markup.tagOf_name, named, readAttributes_keys "MPD" keys]
  rfl

theorem step_information :
    reading.step (.start (tagOf "ProgramInformation" attributes)) =
      .ok { reading with inInformation := true } := by
  have named : ElementName.ofName "ProgramInformation".toList = .information := by decide
  simp only [step, opened, Markup.tagOf_name, named]

theorem step_title (inside : reading.inInformation = true) :
    reading.step (.start (tagOf "Title" attributes)) = .ok { reading with
      inTitle := true
      declaration := { reading.declaration with
        title := some (reading.declaration.title.getD "") } } := by
  have named : ElementName.ofName "Title".toList = .title := by decide
  simp only [step, opened, Markup.tagOf_name, named, inside, ↓reduceIte]

theorem step_period :
    reading.step (.start (tagOf "Period" attributes)) =
      .ok { reading with periods := reading.periods + 1 } := by
  have named : ElementName.ofName "Period".toList = .period := by decide
  simp only [step, opened, Markup.tagOf_name, named]

theorem step_adaptationSet (first : reading.periods = 1) (keys : areKeys (attributes.map (·.1)) = true) :
    reading.step (.start (tagOf "AdaptationSet" attributes)) = .ok { reading with
      currentSet := some {
        attributes := readAs attributes
        properties := []
        template := none
        representations := [] } } := by
  have named : ElementName.ofName "AdaptationSet".toList = .adaptationSet := by decide
  simp only [step, opened, Markup.tagOf_name, named, first, ↓reduceIte, readAttributes_keys "AdaptationSet" keys]
  rfl

theorem step_property {declared : DeclaredSet} (current : reading.currentSet = some declared)
    (keys : areKeys (attributes.map (·.1)) = true) :
    reading.step (.empty (tagOf "SupplementalProperty" attributes)) = .ok { reading with
      currentSet := some (addProperty declared (readAs attributes)) } := by
  have named : ElementName.ofName "SupplementalProperty".toList = .property := by decide
  simp only [step, opened, Markup.tagOf_name, named, current, readAttributes_keys "SupplementalProperty" keys]
  simp only [closed, named, bind, Except.bind, pure, Except.pure, Except.map]

theorem opened_representation {declared : DeclaredSet}
    (current : reading.currentSet = some declared) (keys : areKeys (attributes.map (·.1)) = true) :
    reading.opened (tagOf "Representation" attributes) = .ok { reading with
      currentRepresentation := some { attributes := readAs attributes, template := none } } := by
  have named : ElementName.ofName "Representation".toList = .representation := by decide
  simp only [opened, Markup.tagOf_name, named, current, readAttributes_keys "Representation" keys]
  rfl

theorem step_representation {declared : DeclaredSet}
    (current : reading.currentSet = some declared) (keys : areKeys (attributes.map (·.1)) = true) :
    reading.step (.start (tagOf "Representation" attributes)) = .ok { reading with
      currentRepresentation := some { attributes := readAs attributes, template := none } } :=
  reading.opened_representation current keys

theorem step_template (keys : areKeys (attributes.map (·.1)) = true) :
    reading.step (.empty (tagOf "SegmentTemplate" attributes)) =
      .ok (reading.addTemplate (readAs attributes)) := by
  have named : ElementName.ofName "SegmentTemplate".toList = .template := by decide
  simp only [step, opened, Markup.tagOf_name, named, readAttributes_keys "SegmentTemplate" keys]
  simp only [closed, named, bind, Except.bind, pure, Except.pure, Except.map]

theorem closed_representation {representation : DeclaredRepresentation} {declared : DeclaredSet}
    (inside : reading.currentRepresentation = some representation)
    (current : reading.currentSet = some declared) :
    reading.closed "Representation".toList = { reading with
      currentRepresentation := none
      currentSet := some { declared with
        representations := declared.representations ++ [representation] } } := by
  have named : ElementName.ofName "Representation".toList = .representation := by decide
  simp only [closed, named, inside, current]

theorem closed_adaptationSet {declared : DeclaredSet}
    (current : reading.currentSet = some declared) :
    reading.closed "AdaptationSet".toList = { reading with
      currentSet := none
      declaration := { reading.declaration with
        sets := reading.declaration.sets ++ [declared] } } := by
  have named : ElementName.ofName "AdaptationSet".toList = .adaptationSet := by decide
  simp only [closed, named, current]

theorem closed_title : reading.closed "Title".toList = { reading with inTitle := false } := by
  have named : ElementName.ofName "Title".toList = .title := by decide
  simp only [closed, named]

theorem closed_information :
    reading.closed "ProgramInformation".toList = { reading with inInformation := false } := by
  have named : ElementName.ofName "ProgramInformation".toList = .information := by decide
  simp only [closed, named]

theorem closed_period : reading.closed "Period".toList = reading := by
  have named : ElementName.ofName "Period".toList = .period := by decide
  simp only [closed, named]

theorem closed_presentation : reading.closed "MPD".toList = reading := by
  have named : ElementName.ofName "MPD".toList = .presentation := by decide
  simp only [closed, named]

end Reading

theorem value?_of_mem {attributes : List (String × List Char)} {key : String} {value : List Char}
    (keys : areKeys (attributes.map (·.1)) = true) (member : (key, value) ∈ attributes) :
    (readAs attributes).value? key = some (String.ofList value) := by
  simp only [areKeys, Bool.and_eq_true, decide_eq_true_iff] at keys
  obtain ⟨before, after, rfl⟩ := List.append_of_mem member
  have distinct := keys.2
  rw [List.map_append, List.map_cons, List.nodup_append, List.nodup_cons] at distinct
  refine List.lookup_eq_some_iff.mpr
    ⟨(after.map fun entry => (entry.1, String.ofList entry.2)).reverse,
      (before.map fun entry => (entry.1, String.ofList entry.2)).reverse, by simp [readAs], ?_⟩
  intro entry later
  obtain ⟨source, inside, rfl⟩ := List.mem_map.mp (List.mem_reverse.mp later)
  refine bne_iff_ne.mpr fun same => distinct.2.1.1 ?_
  have repeated : source.1 ∈ after.map (·.1) := List.mem_map_of_mem inside
  rw [← show key = source.1 from same] at repeated
  exact repeated

theorem value?_of_not_mem {attributes : List (String × List Char)} {key : String}
    (absent : key ∉ attributes.map (·.1)) : (readAs attributes).value? key = none := by
  refine List.lookup_eq_none_iff.mpr fun entry member => bne_iff_ne.mpr fun same => absent ?_
  obtain ⟨source, inside, rfl⟩ := List.mem_map.mp (List.mem_reverse.mp member)
  rw [show key = source.1 from same]
  exact List.mem_map_of_mem inside

theorem inherited?_of_first {set : DeclaredSet} {first : DeclaredRepresentation} {key value : String}
    (head : set.representations.head? = some first)
    (found : first.attributes.value? key = some value) : set.inherited? key = some value := by
  rw [DeclaredSet.inherited?, head, Option.bind_some, found]

end TiledStream
