import TiledStream.Proofs.Manifest.HoistedTemplates
import TiledStream.Proofs.Manifest.OwnTemplates
import TiledStream.Proofs.Manifest.SetOrder

/-! A template that all representations of a set share may stand in the set, and one that stands in a
set is none of a representation that has its own. -/

namespace TiledStream

open Markup (Attributes Event Feed Tag Uncut feed feed_joined openElements openElements_closed scan)

theorem modify_append {Item : Type} (change : Item → Item) (items : List Item) (item : Item)
    (index : Nat) : (items ++ [item]).modify index change =
      items.modify index change ++ [if items.length = index then change item else item] := by
  induction items generalizing index with
  | nil => cases index <;> simp [eq_comm]
  | cons first items ih =>
      cases index with
      | zero => rfl
      | succ index => simp [ih]

namespace Reading

def unsupplied (index : Nat) (reading : Reading) : Reading :=
  { reading with
    currentSet := reading.currentSet.map fun set =>
      { set with
        template := if reading.declaration.sets.length = index then none else set.template }
    declaration := { reading.declaration with
      sets := reading.declaration.sets.modify index DeclaredSet.unsupplied } }

variable {index : Nat} {reading one two : Reading} {tag : Tag} {event : Event} {events : List Event}

theorem opened_unsupplied (other : ElementName.ofName tag.name ≠ .template) :
    (reading.unsupplied index).opened tag = (reading.opened tag).map (unsupplied index) := by
  unfold opened
  cases named : ElementName.ofName tag.name with
  | presentation => cases tag.readAttributes <;> rfl
  | title => cases reading with | mk _ _ inInformation => cases inInformation <;> rfl
  | adaptationSet =>
      by_cases first : reading.periods = 1
      · rw [if_pos first, unsupplied, if_pos first]
        cases tag.readAttributes with
        | error error => rfl
        | ok attributes => simp [Except.map, unsupplied, bind, Except.bind, pure, Except.pure]
      · rw [if_neg first, unsupplied, if_neg first]
        rfl
  | property =>
      cases reading with
      | mk _ _ _ _ currentSet =>
          cases currentSet with
          | none => rfl
          | some set =>
              cases tag.readAttributes with
              | error error => rfl
              | ok attributes =>
                  change Except.ok _ = Except.ok _
                  unfold unsupplied addProperty
                  cases attributes.value? "value" <;> rfl
  | representation =>
      cases reading with
      | mk _ _ _ _ currentSet => cases currentSet <;> cases tag.readAttributes <;> rfl
  | template => exact absurd named other
  | _ => rfl

theorem closed_unsupplied (name : List Char) :
    (reading.unsupplied index).closed name = (reading.closed name).unsupplied index := by
  unfold closed
  cases ElementName.ofName name with
  | representation =>
      cases reading with
      | mk _ _ _ _ currentSet currentRepresentation =>
          cases currentSet <;> cases currentRepresentation <;> rfl
  | adaptationSet =>
      cases reading with
      | mk _ _ _ _ currentSet =>
          cases currentSet with
          | none => rfl
          | some set =>
              simp only [unsupplied, Option.map_some, Option.map_none, modify_append]
              split <;> rfl
  | _ => rfl

theorem characters_unsupplied (content : List Char) :
    (reading.unsupplied index).characters content =
      (reading.characters content).unsupplied index :=
  characters_view rfl rfl (fun _ => rfl) content

theorem step_unsupplied
    (other : ∀ tag, event = .start tag ∨ event = .empty tag →
      ElementName.ofName tag.name ≠ .template) :
    (reading.unsupplied index).step event = (reading.step event).map (unsupplied index) := by
  apply step_view
  · intro tag begins
    exact opened_unsupplied (other tag begins)
  · intro reading name _
    exact closed_unsupplied name
  · intro content
    exact characters_unsupplied content

theorem unsupplied_addTemplate (attributes : Attributes) :
    (reading.addTemplate attributes).unsupplied index =
      ((reading.unsupplied index).addTemplate attributes).unsupplied index := by
  have twice : DeclaredSet.unsupplied ∘ DeclaredSet.unsupplied = DeclaredSet.unsupplied := rfl
  by_cases here : reading.declaration.sets.length = index <;>
    cases reading with
    | mk _ _ _ _ currentSet currentRepresentation =>
        cases currentSet <;> cases currentRepresentation <;>
          simp_all [addTemplate, unsupplied, List.modify_modify_eq]

/-- The template of a set makes no difference but to that set. -/
theorem unsupplied_placed (attributes : Attributes)
    (outside : reading.currentRepresentation = none) :
    (reading.addTemplate attributes).unsupplied reading.declaration.sets.length =
      reading.unsupplied reading.declaration.sets.length := by
  cases reading with
  | mk _ _ _ _ currentSet =>
      obtain rfl := outside
      cases currentSet <;> simp [addTemplate, unsupplied]

theorem opened_template_congr (same : one.unsupplied index = two.unsupplied index)
    (named : ElementName.ofName tag.name = .template) :
    (one.opened tag).map (unsupplied index) = (two.opened tag).map (unsupplied index) := by
  unfold opened
  rw [named]
  cases tag.readAttributes with
  | error error => rfl
  | ok attributes =>
      change Except.ok ((one.addTemplate attributes).unsupplied index) =
        Except.ok ((two.addTemplate attributes).unsupplied index)
      rw [unsupplied_addTemplate, same, ← unsupplied_addTemplate]

theorem step_congr (same : one.unsupplied index = two.unsupplied index) :
    (one.step event).map (unsupplied index) = (two.step event).map (unsupplied index) := by
  by_cases template : ∃ tag, (event = .start tag ∨ event = .empty tag) ∧
      ElementName.ofName tag.name = .template
  · obtain ⟨tag, begins, named⟩ := template
    have opened := opened_template_congr same named
    rcases begins with rfl | rfl
    · exact opened
    · have kept (reading : Reading) : reading.closed tag.name = reading := by
        rw [closed, named]
      simp only [step, kept]
      have nothing (result : Except MarkupError Reading) :
          result.map (fun reading => reading) = result := by
        cases result <;> rfl
      rw [nothing, nothing]
      exact opened
  · have other : ∀ tag, event = .start tag ∨ event = .empty tag →
        ElementName.ofName tag.name ≠ .template :=
      fun tag begins named => template ⟨tag, begins, named⟩
    rw [← step_unsupplied other, ← step_unsupplied other, same]

theorem run_congr (same : one.unsupplied index = two.unsupplied index) :
    (events.foldlM step one).map (unsupplied index) =
      (events.foldlM step two).map (unsupplied index) := by
  induction events generalizing one two with
  | nil => exact congrArg Except.ok same
  | cons event events ih =>
      rw [List.foldlM_cons, List.foldlM_cons]
      exact map_bind_congr (step_congr same) fun _ _ => ih

end Reading

/-- Documents of which the second has one more template, inside of the set that is declared behind so
many others, and of no representation of it. -/
inductive Supplied (index : Nat) : (document supplied : List Char) → Prop
  | template {before template after : List Char} {common : Attributes}
      {beforeEvents events : List Event} {opened : List (List Char)}
      (read : Markup.events before = .ok beforeEvents) (unbroken : UncutBefore beforeEvents after)
      (around : openElements beforeEvents [] = .ok opened) (unheld : Unheld opened)
      (inSet : .adaptationSet ∈ opened.map ElementName.ofName)
      (behind : ∀ reading, beforeEvents.foldlM Reading.step Reading.start = .ok reading →
        reading.declaration.sets.length = index)
      (scanned : scan template = .ok events) (isTemplate : IsTemplate common events) :
      Supplied index (before ++ after) (before ++ (template ++ after))

namespace Declaration

def unsupplied (index : Nat) (declaration : Declaration) : Declaration :=
  { declaration with sets := declaration.sets.modify index DeclaredSet.unsupplied }

variable {index : Nat} {before events : List Event} {opened : List (List Char)} {rest : Feed}
  {common : Attributes}

theorem finish_unsupplied {one two : Reading} (same : one.unsupplied index = two.unsupplied index) :
    (one.finish rest).map (unsupplied index) = (two.finish rest).map (unsupplied index) := by
  unfold Reading.finish
  refine map_bind_congr (Reading.run_congr same) fun last other kept => ?_
  have declared : last.declaration.unsupplied index = other.declaration.unsupplied index :=
    congrArg (·.declaration) kept
  cases rest.ending with
  | error error => rfl
  | ok unclosed =>
      cases unclosed with
      | nil => exact congrArg Except.ok declared
      | cons name unclosed => rfl

theorem finish_supplied (around : openElements before [] = .ok opened) (unheld : Unheld opened)
    (behind : ∀ reading, before.foldlM Reading.step Reading.start = .ok reading →
      reading.declaration.sets.length = index) (isTemplate : IsTemplate common events) :
    (Reading.start.finish ((rest.behind events).behind before)).map (unsupplied index) =
      (Reading.start.finish (rest.behind before)).map (unsupplied index) := by
  obtain ⟨found, _, runs⟩ := isTemplate.run
  rw [Reading.finish_behind, Reading.finish_behind]
  cases ran : before.foldlM Reading.step Reading.start with
  | error error => rfl
  | ok reading =>
      obtain ⟨outside, none⟩ := (Reading.within_of_read around ran).outside_of_unheld unheld
      change (reading.finish (rest.behind events)).map _ = (reading.finish rest).map _
      rw [Reading.finish_behind, runs reading outside]
      refine finish_unsupplied ?_
      rw [← behind reading ran]
      exact Reading.unsupplied_placed found none

theorem read_supplied {document supplied : List Char} (placed : Supplied index document supplied) :
    ((Declaration.read supplied).map (unsupplied index)).mapError MarkupError.unplaced =
      ((Declaration.read document).map (unsupplied index)).mapError MarkupError.unplaced := by
  obtain @⟨before, template, after, common, beforeEvents, events, opened, read, unbroken, around,
    unheld, inSet, behind, scanned, isTemplate⟩ := placed
  have some : before ≠ [] := Markup.ne_nil_of_events read fun none => by
    rw [none] at around
    obtain rfl := Except.ok.inj around
    exact nomatch inSet
  have apart : (Declaration.read (before ++ after)).mapError MarkupError.unplaced =
      (Reading.start.finish ((feed opened after).behind beforeEvents)).mapError
        MarkupError.unplaced := by
    rw [Declaration.read]
    rcases unbroken with uncut | markup
    · rw [Markup.feed_document read around fun none => absurd none some]
      exact Reading.finish_glued_outside uncut fun reading ran =>
        ((Reading.within_of_read around ran).outside_of_unheld unheld).1
    · rw [Markup.unmarked_before markup, feed_joined read around (.inr markup)]
  have begins : ∀ c ∈ (template ++ after).head?, c = '<' := isTemplate.element.head? scanned
  rw [mapError_map, mapError_map, apart, ← mapError_map, ← mapError_map, Declaration.read,
    Markup.unmarked_before begins, feed_joined read around (.inr begins),
    feed_joined scanned (openElements_closed isTemplate.element.closed) isTemplate.element.apart,
    finish_supplied around unheld behind isTemplate]

end Declaration

namespace Manifest

theorem parse_supplied {document supplied : String} {declaration : Declaration} {index : Nat}
    (same : ((Declaration.read supplied.toList).map (·.unsupplied index)).mapError
        MarkupError.unplaced =
      ((Declaration.read document.toList).map (·.unsupplied index)).mapError MarkupError.unplaced)
    (read : Declaration.read document.toList = .ok declaration) :
    ((∀ set, declaration.sets[index]? = some set →
        ∀ representation ∈ set.representations, representation.template.isSome = true) →
      parse document = parse supplied) ∧
    ∀ manifest other, parse document = .ok manifest → parse supplied = .ok other →
      KeepsOwn declaration.sets manifest other := by
  rw [read] at same
  obtain ⟨other, readOther, alike⟩ := map_eq_ok (mapError_eq_ok.mp same)
  simp only [Declaration.unsupplied, Declaration.mk.injEq] at alike
  obtain ⟨root, title, sets⟩ := alike
  rw [parse_of_read read, parse_of_read readOther]
  constructor
  · intro own
    have related : List.Forall₂ DeclaredSet.Interchangeable declaration.sets other.sets :=
      forall₂_of_modify sets.symm .refl fun one two here kept =>
        DeclaredSet.interchangeable_of_unsupplied kept (own one here)
    cases declaration
    cases other
    obtain rfl := root
    obtain rfl := title
    exact ofDeclaration_congr related
  · intro manifest otherManifest made madeOther
    have related : List.Forall₂ (fun one two : DeclaredSet => one.unsupplied = two.unsupplied)
        declaration.sets other.sets :=
      forall₂_of_modify sets.symm (fun _ => rfl) fun _ _ _ kept => kept
    exact keepsOwn_of_related root.symm title.symm related made madeOther

/-- A template that all representations of a set share may as well stand once in the set itself: the
document is answered alike. One that is placed in a set makes a difference to that set alone, and there
to such representations alone as have no template of their own. Errors may name other places. -/
theorem template_hoisting_immaterial {document hoisted bare supplied : String} {index : Nat}
    (moved : Hoisted document.toList hoisted.toList)
    (placed : Supplied index bare.toList supplied.toList) :
    (parse document).mapError Failure.unplaced = (parse hoisted).mapError Failure.unplaced ∧
    ((Declaration.read supplied.toList).map (·.unsupplied index)).mapError MarkupError.unplaced =
      ((Declaration.read bare.toList).map (·.unsupplied index)).mapError MarkupError.unplaced ∧
    ∀ declaration, Declaration.read bare.toList = .ok declaration →
      ((∀ set, declaration.sets[index]? = some set →
          ∀ representation ∈ set.representations, representation.template.isSome = true) →
        parse bare = parse supplied) ∧
      ∀ manifest other, parse bare = .ok manifest → parse supplied = .ok other →
        KeepsOwn declaration.sets manifest other := by
  have same := Declaration.read_supplied placed
  refine ⟨parse_hoisted moved, same, ?_⟩
  intro declaration read
  exact parse_supplied same read

section Sample

theorem hoists_pair {common : Attributes}
    {first second closing empty template gap name one two : List Char} {events gapEvents : List Event}
    (named : ElementName.ofName name = .representation)
    (opensFirst : scan first = .ok [.start ⟨name, one⟩])
    (opensSecond : scan second = .ok [.start ⟨name, two⟩])
    (empties : scan empty = .ok [.empty ⟨name, two⟩]) (closes : scan closing = .ok [.stop name])
    (scanned : scan template = .ok events) (isTemplate : IsTemplate common events)
    (gapScanned : scan gap = .ok gapEvents) (plain : Reading.IsPlain gapEvents) :
    Hoists common true { placed := false, held := .outside } { placed := true, held := .outside }
      (first ++ (gap ++ (template ++ (closing ++ (second ++ (template ++ closing))))))
      (first ++ (gap ++ (closing ++ (template ++ empty)))) := by
  have spaced : Hoists common true { placed := false, held := .lacking }
      { placed := false, held := .having } (gap ++ (template ++ [])) (gap ++ []) :=
    .plain gapScanned plain (.inr (isTemplate.element.head? scanned))
      (.inr fun _ none => nomatch none) (.shed scanned isTemplate .nothing)
  have emptied : Hoists common true { placed := true, held := .outside }
      { placed := true, held := .outside } (second ++ ((template ++ []) ++ (closing ++ [])))
      (empty ++ []) :=
    .emptied named opensSecond closes empties (.shed scanned isTemplate .nothing) .nothing
  have content : Hoists common true { placed := false, held := .outside }
      { placed := true, held := .outside } _ _ :=
    .representation named opensFirst closes spaced (.place scanned isTemplate emptied)
  simpa using content

def tileSet (content : String) : String :=
  "<AdaptationSet maxWidth=\"2\" maxHeight=\"2\">" ++ content ++ "</AdaptationSet>"

def presented (content : String) : String := "<MPD><Period>" ++ content ++ "</Period></MPD>"

def fills : String := "<SupplementalProperty value=\"0,0,1,1,1,1\"/>"

def ladderText (number : String) : String :=
  " id=\"" ++ number ++ "\" bandwidth=\"1\" codecs=\"c\" mimeType=\"v\""

def represented (number inner : String) : String :=
  "<Representation" ++ ladderText number ++ ">" ++ inner ++ "</Representation>"

def templated (inner : String) : String :=
  "<SegmentTemplate media=\"$Number$\" initialization=\"i\">" ++ inner ++ "</SegmentTemplate>"

def numbered : Attributes := [("initialization", "i"), ("media", "$Number$")]

def filling (template : Option Attributes) (ladder : List (String × Option Attributes)) :
    DeclaredSet where
  attributes := [("maxHeight", "2"), ("maxWidth", "2")]
  properties := [("", "0,0,1,1,1,1")]
  template
  representations := ladder.map fun (number, template) => {
    attributes := [("mimeType", "v"), ("codecs", "c"), ("bandwidth", "1"), ("id", number)]
    template }

theorem isTemplate_templated : ∃ events, scan (templated "").toList = .ok events ∧
    IsTemplate numbered events := by
  let tag : Tag := {
    name := "SegmentTemplate".toList
    attributes := " media=\"$Number$\" initialization=\"i\"".toList }
  refine ⟨.start tag :: ([] ++ [.stop tag.name]), ?_, .whole (by decide +kernel) ?_ (fun _ => rfl) rfl
    (fun _ member => absurd member List.not_mem_nil)⟩
  · unfold templated tag
    simp only [String.toList_append]
    repeat rw [String.toList_ofList]
    decide +kernel
  · unfold tag
    decide +kernel

theorem hoisted_presented :
    Hoisted
      (presented (tileSet (fills ++ (represented "1" (" " ++ templated "") ++
        represented "2" (templated ""))))).toList
      (presented (tileSet (fills ++ (represented "1" " " ++ (templated "" ++
        ("<Representation" ++ ladderText "2" ++ "/>")))))).toList := by
  obtain ⟨events, scanned, isTemplate⟩ := isTemplate_templated
  let property : Event := .empty ⟨"SupplementalProperty".toList, " value=\"0,0,1,1,1,1\"".toList⟩
  let name : List Char := "Representation".toList
  have scans : scan ("<Representation" ++ ladderText "1" ++ ">").toList =
        .ok [.start ⟨name, (ladderText "1").toList⟩] ∧
      scan ("<Representation" ++ ladderText "2" ++ ">").toList =
        .ok [.start ⟨name, (ladderText "2").toList⟩] ∧
      scan ("<Representation" ++ ladderText "2" ++ "/>").toList =
        .ok [.empty ⟨name, (ladderText "2").toList⟩] ∧
      scan "</Representation>".toList = .ok [.stop name] ∧
      ElementName.ofName name = .representation ∧ scan " ".toList = .ok [.text [' ']] ∧
      scan fills.toList = .ok [property] ∧ Reading.isPlain property = true ∧
      Markup.events "<MPD><Period>".toList =
        .ok [.start ⟨"MPD".toList, []⟩, .start ⟨"Period".toList, []⟩] ∧
      scan "<AdaptationSet maxWidth=\"2\" maxHeight=\"2\">".toList =
        .ok [.start ⟨"AdaptationSet".toList, " maxWidth=\"2\" maxHeight=\"2\"".toList⟩] ∧
      scan "</AdaptationSet>".toList = .ok [.stop "AdaptationSet".toList] := by
    unfold property name ladderText fills
    simp only [String.toList_append]
    repeat rw [String.toList_ofList]
    decide +kernel
  obtain ⟨first, second, empties, closes, named, gap, filled, plain, read, opened, closed⟩ := scans
  have pair := hoists_pair named first second empties closes scanned isTemplate gap ⟨rfl, by decide⟩
  have uncut : Uncut [property] := by
    intro source same
    simp [property] at same
  have moved (after : List Char) := @Hoisted.set _ _ _ _ _ after _ _ _ _ read rfl (by decide +kernel)
    (by decide +kernel) (by decide +kernel) opened closed
    (.plain filled ⟨rfl, List.forall_mem_singleton.mpr plain⟩ (.inl uncut) (.inl uncut) pair)
  have texts := moved "</Period></MPD>".toList
  unfold presented tileSet represented
  simp only [String.toList_append] at texts ⊢
  simp only [List.append_assoc] at texts ⊢
  exact texts

theorem supplied_presented :
    Supplied 0 (presented (tileSet (fills ++ represented "1" (templated "")))).toList
      (presented (tileSet
        (fills ++ represented "1" (templated "") ++ "<SegmentTemplate/>"))).toList := by
  let before : List Char := ("<MPD><Period>" ++ "<AdaptationSet maxWidth=\"2\" maxHeight=\"2\">" ++
    (fills ++ represented "1" (templated ""))).toList
  let after : List Char := ("</AdaptationSet>" ++ "</Period></MPD>").toList
  have checked : (Markup.events before).map (fun events =>
      (events.getLast?, openElements events [],
        (events.foldlM Reading.step Reading.start).map (·.declaration.sets.length))) =
      .ok (some (.stop "Representation".toList),
        .ok ["AdaptationSet".toList, "Period".toList, "MPD".toList], .ok 0) := by
    unfold before fills represented templated ladderText
    simp only [String.toList_append]
    repeat rw [String.toList_ofList]
    decide +kernel
  obtain ⟨events, read, found⟩ := map_eq_ok checked
  simp only [Prod.mk.injEq] at found
  obtain ⟨last, around, counted⟩ := found
  have uncut : Uncut events := fun source same => nomatch last.symm.trans same
  let tag : Tag := { name := "SegmentTemplate".toList, attributes := [] }
  have scanned : scan "<SegmentTemplate/>".toList = .ok [.empty tag] ∧
      ElementName.ofName tag.name = .template ∧ tag.readAttributes = .ok [] := by
    unfold tag
    rw [String.toList_ofList]
    decide +kernel
  obtain ⟨scanned, named, none⟩ := scanned
  have behind : ∀ reading, events.foldlM Reading.step Reading.start = .ok reading →
      reading.declaration.sets.length = 0 := by
    intro reading ran
    rw [ran] at counted
    exact Except.ok.inj counted
  have placed : Supplied 0 (before ++ after) (before ++ ("<SegmentTemplate/>".toList ++ after)) :=
    .template read (.inl uncut) around (by decide +kernel) (by decide +kernel) behind scanned
      (.empty named none fun _ => rfl)
  unfold before after at placed
  unfold presented tileSet
  simp only [String.toList_append] at placed ⊢
  simp only [List.append_assoc] at placed ⊢
  exact placed

theorem shared_template_hoisted :
    (parse (presented (tileSet (fills ++ (represented "1" (" " ++ templated "") ++
        represented "2" (templated "")))))).mapError Failure.unplaced =
      (parse (presented (tileSet (fills ++ (represented "1" " " ++ (templated "" ++
        ("<Representation" ++ ladderText "2" ++ "/>"))))))).mapError Failure.unplaced ∧
    outline (presented (tileSet (fills ++ (represented "1" (" " ++ templated "") ++
      represented "2" (templated ""))))) = some ("", [[1, 2]]) ∧
    parse (presented (tileSet (fills ++ represented "1" (templated "")))) =
      parse (presented (tileSet (fills ++ represented "1" (templated "") ++ "<SegmentTemplate/>"))) ∧
    outline (presented (tileSet (fills ++ represented "1" (templated "")))) = some ("", [[1]]) := by
  obtain ⟨moved, _, kept⟩ :=
    template_hoisting_immaterial hoisted_presented supplied_presented
  have pair : Declaration.read (presented (tileSet (fills ++
      (represented "1" (" " ++ templated "") ++ represented "2" (templated ""))))).toList =
        .ok ⟨some [], none, [filling none [("1", some numbered), ("2", some numbered)]]⟩ := by
    unfold presented tileSet fills represented templated ladderText
    simp only [String.toList_append]
    repeat rw [String.toList_ofList]
    decide +kernel
  have single : Declaration.read (presented (tileSet (fills ++
      represented "1" (templated "")))).toList =
        .ok ⟨some [], none, [filling none [("1", some numbered)]]⟩ := by
    unfold presented tileSet fills represented templated ladderText
    simp only [String.toList_append]
    repeat rw [String.toList_ofList]
    decide +kernel
  have own : ∀ set ∈ [filling none [("1", some numbered)]],
      ∀ representation ∈ set.representations, representation.template.isSome = true := by
    decide
  exact ⟨moved, (outline_of_read _ pair).trans (by decide +kernel),
    (kept _ single).1 fun set found => own set (List.mem_of_getElem? found),
    (outline_of_read _ single).trans (by decide +kernel)⟩

def astray : String := "<SupplementalProperty value=\"9\"/>"

def barren : String := "<Role><SegmentTemplate/></Role>"

/-- It matters where a template stands if an element inside of it is taken note of, if pieces of a title
or of a reference meet where it stood, if the set stands in a representation, or behind a second period,
if another template or another set stands inside of it, to what is found wrong first, and to the place
where that is in its character data. -/
theorem template_hoisting_material :
    outline (presented (tileSet (fills ++ represented "1" (templated astray)))) =
      some ("", [[1]]) ∧
    outline (presented (tileSet (templated astray ++ fills ++ represented "1" ""))) = none ∧
    outline (presented ("<ProgramInformation><Title>" ++ tileSet (fills ++
      represented "1" (" a " ++ templated "" ++ " b ")) ++ "</Title></ProgramInformation>")) =
        some ("ab", [[1]]) ∧
    outline (presented ("<ProgramInformation><Title>" ++ tileSet (fills ++ templated "" ++
      represented "1" (" a " ++ " b ")) ++ "</Title></ProgramInformation>")) =
        some ("a  b", [[1]]) ∧
    outline (presented ("<AdaptationSet><Representation>" ++ tileSet (fills ++
      represented "1" (templated "")) ++ "</Representation></AdaptationSet>")) =
        some ("", [[1]]) ∧
    outline (presented ("<AdaptationSet><Representation>" ++ tileSet (fills ++ templated "" ++
      represented "1" "") ++ "</Representation></AdaptationSet>")) = none ∧
    outline (presented (tileSet (fills ++ represented "1" ("&am" ++ templated "" ++ "p;")))) = none ∧
    outline (presented (tileSet (fills ++ templated "" ++ represented "1" ("&am" ++ "p;")))) =
      some ("", [[1]]) ∧
    outline (presented (tileSet (fills ++ represented "1" (templated "") ++ barren))) =
      some ("", [[1]]) ∧
    outline (presented (tileSet (fills ++ templated "" ++ represented "1" "" ++ barren))) = none ∧
    outline (presented (tileSet (fills ++ represented "1" (barren ++ templated "")))) =
      some ("", [[1]]) ∧
    outline (presented (tileSet (fills ++ templated "" ++ represented "1" barren))) = none ∧
    outline (presented (tileSet (fills ++ represented "1" (templated "") ++
      "<Period/><AdaptationSet/>"))) = some ("", [[1]]) ∧
    outline (presented (tileSet (fills ++ represented "1" "" ++
      "<Period/><AdaptationSet/>" ++ templated ""))) = none ∧
    outline (presented (tileSet (fills ++ represented "2" "" ++ "<Period/><AdaptationSet>" ++
      represented "1" (templated "") ++ "</AdaptationSet>"))) = none ∧
    outline (presented (tileSet (fills ++ represented "2" "" ++ "<Period/><AdaptationSet>" ++
      templated "" ++ represented "1" "" ++ "</AdaptationSet>"))) = some ("", [[2, 1]]) ∧
    Declaration.read (presented (tileSet ("<Representation id>" ++
      "<SegmentTemplate media=\"&x;\"/>" ++ "</Representation>"))).toList =
        .error (.badAttribute (.noEquals 17)) ∧
    Declaration.read (presented (tileSet ("<SegmentTemplate media=\"&x;\"/>" ++
      "<Representation id>" ++ "</Representation>"))).toList =
        .error (.badReference (.unknown 1 2 "x")) ∧
    Declaration.read (presented (tileSet (represented "1" (templated "&x;") ++
      "<SupplementalProperty id/>"))).toList = .error (.badReference (.unknown 1 2 "x")) ∧
    Declaration.read (presented (tileSet (represented "1" "" ++ "<SupplementalProperty id/>" ++
      templated "&x;"))).toList = .error (.badAttribute (.noEquals 23)) ∧
    parse (presented (tileSet (represented "1" ("ab" ++ templated "" ++ "&e;")))) =
      .error (.error (.manifest (.markup (.badReference (.unknown 1 2 "e"))))) ∧
    parse (presented (tileSet (templated "" ++ represented "1" ("ab" ++ "&e;")))) =
      .error (.error (.manifest (.markup (.badReference (.unknown 3 4 "e"))))) := by
  let own := filling none [("1", some numbered)]
  let hoisted := filling (some numbered) [("1", none)]
  have unread : Declaration.read (presented (tileSet (fills ++
      represented "1" ("&am" ++ templated "" ++ "p;")))).toList =
        .error (.badReference (.unfinished 0 3)) := by
    unfold presented tileSet fills represented templated ladderText
    simp only [String.toList_append]
    repeat rw [String.toList_ofList]
    decide +kernel
  refine ⟨
    (outline_of_read ⟨some [], none, [{ own with properties := own.properties ++ [("", "9")] }]⟩
      ?_).trans (by decide +kernel),
    (outline_of_read ⟨some [], none, [{ hoisted with properties := ("", "9") :: own.properties }]⟩
      ?_).trans (by decide +kernel),
    (outline_of_read ⟨some [], some "ab", [own]⟩ ?_).trans (by decide +kernel),
    (outline_of_read ⟨some [], some "a  b", [hoisted]⟩ ?_).trans (by decide +kernel),
    (outline_of_read ⟨some [], none, [own]⟩ ?_).trans (by decide +kernel),
    (outline_of_read ⟨some [], none, [filling none [("1", none)]]⟩ ?_).trans (by decide +kernel),
    by rw [outline, parse_of_unread unread]; rfl,
    (outline_of_read ⟨some [], none, [hoisted]⟩ ?_).trans (by decide +kernel),
    (outline_of_read ⟨some [], none, [filling (some []) [("1", some numbered)]]⟩ ?_).trans
      (by decide +kernel),
    (outline_of_read ⟨some [], none, [filling (some []) [("1", none)]]⟩ ?_).trans
      (by decide +kernel),
    (outline_of_read ⟨some [], none, [own]⟩ ?_).trans (by decide +kernel),
    (outline_of_read ⟨some [], none, [filling (some numbered) [("1", some [])]]⟩ ?_).trans
      (by decide +kernel),
    (outline_of_read ⟨some [], none, [own]⟩ ?_).trans (by decide +kernel),
    (outline_of_read ⟨some [], none, [filling none [("1", none)]]⟩ ?_).trans (by decide +kernel),
    (outline_of_read ⟨some [], none, [filling none [("2", none), ("1", some numbered)]]⟩ ?_).trans
      (by decide +kernel),
    (outline_of_read ⟨some [], none, [filling (some numbered) [("2", none), ("1", none)]]⟩ ?_).trans
      (by decide +kernel),
    ?_, ?_, ?_, ?_, parse_of_unread ?_, parse_of_unread ?_⟩
  all_goals
    dsimp only [presented, tileSet, fills, represented, ladderText, templated, astray, barren]
    simp only [String.toList_append]
    repeat rw [String.toList_ofList]
    decide +kernel

end Sample

end Manifest

end TiledStream
