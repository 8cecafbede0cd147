import TiledStream.Proofs.Manifest.Hoisting

/-! Documents in which a template that all representations of a set share is written once, directly
in the set: they are answered alike, up to the places that errors name. -/

namespace TiledStream

open Markup (Apart Attributes Event Feed Tag Uncut feed feed_joined glue openElements openElements_append
  openElements_closed scan)
open Reading (Follows IsPlain Rejoined isPlain)

def UncutBefore (events : List Event) (rest : List Char) : Prop :=
  Uncut events ∨ ∀ c ∈ rest.head?, c = '<'

/-- The contents of a set, or of an element inside of it, with a template in each representation and
with one in the set itself, placed once outside of all elements of the set. Both stand directly in
their elements, if that is what the content is of; representations may stand inside of any elements but
titles. -/
inductive Hoists (common : Attributes) :
    (direct : Bool) → (stage done : HoistingStage) → (own shared : List Char) → Prop
  | nothing {direct : Bool} {stage : HoistingStage} : Hoists common direct stage stage [] []
  | plain {direct : Bool} {stage done : HoistingStage} {text own shared : List Char}
      {events : List Event}
      (scanned : scan text = .ok events) (plain : IsPlain events)
      (beforeOwn : UncutBefore events own) (beforeShared : UncutBefore events shared)
      (rest : Hoists common direct stage done own shared) :
      Hoists common direct stage done (text ++ own) (text ++ shared)
  | place {done : HoistingStage} {template own shared : List Char} {events : List Event}
      (scanned : scan template = .ok events) (isTemplate : IsTemplate common events)
      (rest : Hoists common true { placed := true, held := .outside } done own shared) :
      Hoists common true { placed := false, held := .outside } done own (template ++ shared)
  | shed {placed : Bool} {done : HoistingStage} {template own shared : List Char} {events : List Event}
      (scanned : scan template = .ok events) (isTemplate : IsTemplate common events)
      (rest : Hoists common true { placed, held := .having } done own shared) :
      Hoists common true { placed, held := .lacking } done (template ++ own) shared
  | representation {direct : Bool} {stage done : HoistingStage}
      {opening inner innerShared closing own shared : List Char} {tag : Tag}
      (named : ElementName.ofName tag.name = .representation)
      (opens : scan opening = .ok [.start tag]) (closes : scan closing = .ok [.stop tag.name])
      (content : Hoists common true { stage with held := .lacking } { stage with held := .having }
        inner innerShared) (rest : Hoists common direct stage done own shared) :
      Hoists common direct stage done (opening ++ (inner ++ (closing ++ own)))
        (opening ++ (innerShared ++ (closing ++ shared)))
  | emptied {direct : Bool} {stage done : HoistingStage}
      {opening inner closing empty own shared : List Char} {tag : Tag}
      (named : ElementName.ofName tag.name = .representation)
      (opens : scan opening = .ok [.start tag]) (closes : scan closing = .ok [.stop tag.name])
      (empties : scan empty = .ok [.empty tag])
      (content : Hoists common true { stage with held := .lacking } { stage with held := .having }
        inner []) (rest : Hoists common direct stage done own shared) :
      Hoists common direct stage done (opening ++ (inner ++ (closing ++ own))) (empty ++ shared)
  | wrapped {direct : Bool} {stage done : HoistingStage}
      {opening inner innerShared closing own shared : List Char} {tag : Tag}
      (named : isPlain (.start tag) = true) (other : ElementName.ofName tag.name ≠ .title)
      (opens : scan opening = .ok [.start tag]) (closes : scan closing = .ok [.stop tag.name])
      (content : Hoists common false stage stage inner innerShared)
      (rest : Hoists common direct stage done own shared) :
      Hoists common direct stage done (opening ++ (inner ++ (closing ++ own)))
        (opening ++ (innerShared ++ (closing ++ shared)))

section Scanning

variable {common : Attributes} {text rest own shared : List Char} {opened left : List (List Char)}
  {tag : Tag} {events others : List Event}

theorem scan_eq_of_feed (fed : feed opened text = { events, ending := .ok left }) :
    scan text = .ok events := by
  have scanned := (Markup.scan_of_feed (congrArg Feed.ending fed)).1
  rwa [fed] at scanned

theorem scan_then (scanned : scan text = .ok events) (closed : openElements events [] = .ok [])
    (apart : Apart events rest) (later : scan rest = .ok others)
    (ended : openElements others [] = .ok []) : scan (text ++ rest) = .ok (events ++ others) := by
  apply scan_eq_of_feed
  rw [feed_joined scanned closed apart, Markup.feed_eq_of_scan later ended, Feed.behind]

theorem scan_rejoined (scanned : scan text = .ok events) (plain : IsPlain events)
    (unbroken : UncutBefore events rest) (later : scan rest = .ok others)
    (ended : openElements others [] = .ok []) :
    ∃ all, scan (text ++ rest) = .ok all ∧ Rejoined (events ++ others) all := by
  rcases unbroken with uncut | markup
  · have glued : scan (text ++ rest) = .ok (glue events others) := by
      apply scan_eq_of_feed
      rw [Markup.feed_glued scanned plain.closed, Markup.feed_eq_of_scan later ended, Feed.glued]
    refine ⟨_, glued, fun opened => Markup.openElements_glued, fun reading outside => ?_⟩
    exact Reading.run_glued_outside uncut fun _ ran => plain.outside outside ran
  · exact ⟨_, scan_then scanned plain.closed (.inr markup) later ended, fun _ => rfl,
      fun _ _ => rfl⟩

theorem feed_element {opening inner closing : List Char} (opens : scan opening = .ok [.start tag])
    (scanned : scan inner = .ok events) (closed : openElements events [] = .ok [])
    (closes : scan closing = .ok [.stop tag.name]) :
    feed opened (opening ++ (inner ++ (closing ++ rest))) =
      (feed opened rest).behind (.start tag :: (events ++ [.stop tag.name])) := by
  have starts : openElements [.start tag] opened = .ok (tag.name :: opened) := rfl
  have stops : openElements [.stop tag.name] (tag.name :: opened) = .ok opened := by
    rw [Markup.openElements_cons, Markup.openAfter_stop]
    rfl
  have ended : ∀ c ∈ (closing ++ rest).head?, c = '<' :=
    Markup.head?_of_scan closes (by simp)
  rw [feed_joined opens starts (.inl (by simp)),
    feed_joined scanned (openElements_closed closed) (.inr ended),
    feed_joined closes stops (.inl (by simp)), Feed.behind_behind, Feed.behind_behind]
  rfl

theorem scan_element {opening inner closing : List Char} (opens : scan opening = .ok [.start tag])
    (scanned : scan inner = .ok events) (closed : openElements events [] = .ok [])
    (closes : scan closing = .ok [.stop tag.name]) (later : scan rest = .ok others)
    (ended : openElements others [] = .ok []) :
    scan (opening ++ (inner ++ (closing ++ rest))) =
      .ok ((.start tag :: (events ++ [.stop tag.name])) ++ others) := by
  apply scan_eq_of_feed
  rw [feed_element opens scanned closed closes, Markup.feed_eq_of_scan later ended, Feed.behind]

theorem Hoists.follows {direct : Bool} {stage done : HoistingStage}
    (hoists : Hoists common direct stage done own shared) :
    ∃ ownEvents sharedEvents, scan own = .ok ownEvents ∧ scan shared = .ok sharedEvents ∧
      Follows common stage done ownEvents sharedEvents := by
  induction hoists with
  | nothing => exact ⟨[], [], by rw [scan], by rw [scan], .nothing⟩
  | plain scanned plain beforeOwn beforeShared _ ih =>
      obtain ⟨ownEvents, sharedEvents, ownScanned, sharedScanned, follows⟩ := ih
      obtain ⟨allOwn, ownAll, ownRejoined⟩ :=
        scan_rejoined scanned plain beforeOwn ownScanned follows.ownClosed
      obtain ⟨allShared, sharedAll, sharedRejoined⟩ :=
        scan_rejoined scanned plain beforeShared sharedScanned follows.sharedClosed
      have joined := (Follows.plain plain).append follows
      exact ⟨allOwn, allShared, ownAll, sharedAll, joined.rejoined ownRejoined sharedRejoined⟩
  | place scanned isTemplate _ ih =>
      obtain ⟨ownEvents, sharedEvents, ownScanned, sharedScanned, follows⟩ := ih
      have element := isTemplate.element
      have sharedAll :=
        scan_then scanned element.closed element.apart sharedScanned follows.sharedClosed
      exact ⟨ownEvents, _, ownScanned, sharedAll, (Follows.place isTemplate).append follows⟩
  | shed scanned isTemplate _ ih =>
      obtain ⟨ownEvents, sharedEvents, ownScanned, sharedScanned, follows⟩ := ih
      have element := isTemplate.element
      have ownAll := scan_then scanned element.closed element.apart ownScanned follows.ownClosed
      exact ⟨_, sharedEvents, ownAll, sharedScanned, (Follows.shed isTemplate).append follows⟩
  | representation named opens closes _ _ content ih =>
      obtain ⟨ownEvents, sharedEvents, ownScanned, sharedScanned, follows⟩ := ih
      obtain ⟨innerEvents, otherEvents, innerScanned, otherScanned, inside⟩ := content
      exact ⟨_, _,
        scan_element opens innerScanned inside.ownClosed closes ownScanned follows.ownClosed,
        scan_element opens otherScanned inside.sharedClosed closes sharedScanned
          follows.sharedClosed,
        (Follows.representation named inside).append follows⟩
  | emptied named opens closes empties _ _ content ih =>
      obtain ⟨ownEvents, sharedEvents, ownScanned, sharedScanned, follows⟩ := ih
      obtain ⟨innerEvents, otherEvents, innerScanned, otherScanned, inside⟩ := content
      rw [scan] at otherScanned
      obtain rfl := Except.ok.inj otherScanned
      exact ⟨_, _,
        scan_element opens innerScanned inside.ownClosed closes ownScanned follows.ownClosed,
        scan_then empties rfl (.inl (by simp)) sharedScanned follows.sharedClosed,
        (Follows.representation named inside).emptied.append follows⟩
  | wrapped named other opens closes _ _ content ih =>
      obtain ⟨ownEvents, sharedEvents, ownScanned, sharedScanned, follows⟩ := ih
      obtain ⟨innerEvents, otherEvents, innerScanned, otherScanned, inside⟩ := content
      exact ⟨_, _,
        scan_element opens innerScanned inside.ownClosed closes ownScanned follows.ownClosed,
        scan_element opens otherScanned inside.sharedClosed closes sharedScanned
          follows.sharedClosed,
        (Follows.wrapped named other inside).append follows⟩

end Scanning

/-- Whether none of some open elements is taken note of only inside of some other element and stands
inside of one: no title stands in an information about the document, and no representation in a set. -/
def Unheld : List (List Char) → Prop
  | [] => True
  | name :: outer =>
    (∀ container ∈ (ElementName.ofName name).container?,
      container ∉ outer.map ElementName.ofName) ∧ Unheld outer

instance decidableUnheld : (opened : List (List Char)) → Decidable (Unheld opened)
  | [] => .isTrue trivial
  | _ :: outer =>
    let _ := decidableUnheld outer
    inferInstanceAs (Decidable (_ ∧ _))

/-- Documents of which the second has a template directly in a set of the first period, where the
first has it in each representation of that set. -/
inductive Hoisted : (document hoisted : List Char) → Prop
  | set {before opening own shared closing after : List Char} {tag : Tag} {common : Attributes}
      {beforeEvents : List Event} {opened : List (List Char)}
      (read : Markup.events before = .ok beforeEvents)
      (around : openElements beforeEvents [] = .ok opened) (unheld : Unheld opened)
      (period : (begun beforeEvents).count .period = 1)
      (named : ElementName.ofName tag.name = .adaptationSet)
      (opens : scan opening = .ok [.start tag]) (closes : scan closing = .ok [.stop tag.name])
      (hoists : Hoists common true { placed := false, held := .outside }
        { placed := true, held := .outside } own shared) :
      Hoisted (before ++ (opening ++ (own ++ (closing ++ after))))
        (before ++ (opening ++ (shared ++ (closing ++ after))))

theorem Unheld.of_suffix {opened outer : List (List Char)} {name : List Char}
    (unheld : Unheld opened) (suffix : name :: outer <:+ opened) :
    ∀ container ∈ (ElementName.ofName name).container?,
      container ∉ outer.map ElementName.ofName := by
  induction opened with
  | nil => simp at suffix
  | cons innermost opened ih =>
      rcases List.suffix_cons_iff.mp suffix with same | inner
      · obtain ⟨rfl, rfl⟩ := List.cons.inj same
        exact unheld.1
      · exact ih unheld.2 inner

namespace DeclaredSet

variable {set : DeclaredSet} {common : Attributes} {owns bares : List DeclaredRepresentation}
  {first second : Option Attributes}

theorem Interchangeable.refl (set : DeclaredSet) : set.Interchangeable set := by
  refine ⟨rfl, rfl, List.forall₂_same.mpr ?_⟩
  intro declared _
  refine ⟨rfl, ?_⟩
  cases declared.template.or set.template with
  | none => exact .none
  | some found => exact .some fun _ => rfl

theorem interchangeable_refl (sets : List DeclaredSet) : List.Forall₂ Interchangeable sets sets :=
  List.forall₂_same.mpr fun set _ => .refl set

theorem interchangeable_of_sheds (matching : List.Forall₂ (Reading.Sheds common) owns bares)
    (supplied : Reading.Supplies common true second) :
    Interchangeable { set with template := first, representations := owns }
      { set with template := second, representations := bares } := by
  cases supplied with
  | @some found agree =>
      refine ⟨rfl, rfl, matching.imp ?_⟩
      intro own bare sheds
      obtain ⟨other, ownTemplate, otherAgree⟩ := sheds.template
      refine ⟨sheds.attributes, ?_⟩
      rw [ownTemplate, sheds.none]
      exact .some (otherAgree.trans agree.symm)

end DeclaredSet

namespace Reading

variable {reading : Reading} {tag : Tag} {common : Attributes} {own shared : List Event}
  {one two : Except MarkupError Reading} {opened : List (List Char)}

theorem Within.outside_of_unheld (within : reading.Within opened) (unheld : Unheld opened) :
    reading.inTitle = false ∧ reading.currentRepresentation = none := by
  have nowhere {kind container : ElementName} (held : kind.container? = some container) :
      reading.isInside kind = false := by
    cases inside : reading.isInside kind with
    | false => rfl
    | true =>
        obtain ⟨name, outer, suffix, rfl, contained⟩ := within kind inside
        exact absurd (contained container held) (unheld.of_suffix suffix container held)
  have title : reading.isInside .title = false := nowhere rfl
  have representation : reading.isInside .representation = false := nowhere rfl
  exact ⟨title, by simpa [isInside] using representation⟩

inductive Exchanged : Except MarkupError Reading → Except MarkupError Reading → Prop
  | read {sets others : List DeclaredSet}
      (related : List.Forall₂ DeclaredSet.Interchangeable sets others) (reading : Reading) :
      Exchanged (.ok (reading.behind sets)) (.ok (reading.behind others))
  | failed {first second : MarkupError} (same : first.unplaced = second.unplaced) :
      Exchanged (.error first) (.error second)

theorem Exchanged.run (exchanged : Exchanged one two) (events : List Event) :
    Exchanged (one >>= events.foldlM step) (two >>= events.foldlM step) := by
  cases exchanged with
  | failed same => exact .failed same
  | @read sets others related reading =>
      change Exchanged (events.foldlM step (reading.behind sets))
        (events.foldlM step (reading.behind others))
      rw [run_behind, run_behind]
      cases events.foldlM step reading with
      | error error => exact .failed rfl
      | ok last => exact .read related last

def left (reading : Reading) : Reading :=
  { reading with currentSet := none, currentRepresentation := none }

theorem closed_set {template : Option Attributes} {representations : List DeclaredRepresentation}
    {set : DeclaredSet} (named : ElementName.ofName tag.name = .adaptationSet)
    (current : reading.currentSet = some set) :
    (reading.holding template representations none).closed tag.name =
      reading.left.bare.behind
        (reading.declaration.sets ++ [{ set with template, representations }]) := by
  have added : (reading.holding template representations none).closed tag.name =
      reading.left.adding [{ set with template, representations }] := by
    rw [closed, named]
    simp only [holding, current, Option.map_some]
    rfl
  rw [added, adding_eq]
  rfl

theorem run_set (named : ElementName.ofName tag.name = .adaptationSet)
    (outside : reading.inTitle = false) (none : reading.currentRepresentation = none)
    (counted : reading.periods = 1)
    (follows : Follows common { placed := false, held := .outside }
      { placed := true, held := .outside } own shared) :
    Exchanged ((.start tag :: (own ++ [.stop tag.name])).foldlM step reading)
      ((.start tag :: (shared ++ [.stop tag.name])).foldlM step reading) := by
  have begins : reading.step (.start tag) = tag.readAttributes.map fun attributes =>
      { reading with
        currentSet :=
          some { attributes, properties := [], template := .none, representations := [] } } := by
    rw [step, opened, named]
    simp only [if_pos counted]
    cases tag.readAttributes <;> rfl
  rw [List.foldlM_cons, List.foldlM_cons, begins]
  cases tag.readAttributes with
  | error error => exact .failed rfl
  | ok attributes =>
      let entered : Reading := { reading with
        currentSet :=
          some { attributes, properties := [], template := .none, representations := [] } }
      have held : entered.holding .none [] .none = entered := by
        change { entered with currentRepresentation := .none } = entered
        rw [← none]
      have begun : Paired common { placed := false, held := .outside } (.ok entered)
          (.ok entered) := by
        have paired : Paired common { placed := false, held := .outside }
            (.ok (entered.holding .none [] .none)) (.ok (entered.holding .none [] .none)) :=
          .read rfl outside .nil .none .nothing
        rwa [held] at paired
      have paired := follows.paired _ _ begun
      change Paired common _ (own.foldlM step entered) (shared.foldlM step entered) at paired
      change Exchanged ((own ++ [Event.stop tag.name]).foldlM step entered)
        ((shared ++ [Event.stop tag.name]).foldlM step entered)
      rw [List.foldlM_append, List.foldlM_append]
      generalize own.foldlM step entered = first at paired ⊢
      generalize shared.foldlM step entered = second at paired ⊢
      cases paired with
      | failed same => exact .failed same
      | @read last owns bares first second _ _ inSet _ matching supplied holds =>
          obtain ⟨set, current⟩ := Option.isSome_iff_exists.mp inSet
          cases holds
          change Exchanged (.ok ((last.holding first owns .none).closed tag.name))
            (.ok ((last.holding second bares .none).closed tag.name))
          rw [closed_set named current, closed_set named current]
          refine .read (List.rel_append (DeclaredSet.interchangeable_refl _) ?_) _
          exact .cons (DeclaredSet.interchangeable_of_sheds matching supplied) .nil

end Reading

namespace Declaration

inductive Exchanged : Except MarkupError Declaration → Except MarkupError Declaration → Prop
  | read {sets others : List DeclaredSet}
      (related : List.Forall₂ DeclaredSet.Interchangeable sets others) (root : Option Attributes)
      (title : Option String) :
      Exchanged (.ok { root, title, sets }) (.ok { root, title, sets := others })
  | failed {first second : MarkupError} (same : first.unplaced = second.unplaced) :
      Exchanged (.error first) (.error second)

variable {before first second : List Event} {rest : Feed} {one two : Except MarkupError Reading}

theorem exchanged_finish (exchanged : Reading.Exchanged one two) :
    Exchanged (one >>= (·.finish rest)) (two >>= (·.finish rest)) := by
  have split (result : Except MarkupError Reading) : result >>= (·.finish rest) =
      result >>= rest.events.foldlM Reading.step >>= fun last => rest.ending >>= fun unclosed =>
        if unclosed.isEmpty then pure last.declaration else .error .unfinished := by
    cases result <;> rfl
  have further := exchanged.run rest.events
  rw [split, split]
  generalize one >>= rest.events.foldlM Reading.step = ranOne at further ⊢
  generalize two >>= rest.events.foldlM Reading.step = ranTwo at further ⊢
  cases further with
  | failed same => exact .failed same
  | @read sets others related last =>
      cases rest.ending with
      | error error => exact .failed rfl
      | ok unclosed =>
          cases unclosed with
          | nil => exact .read (List.rel_append related (DeclaredSet.interchangeable_refl _)) _ _
          | cons name unclosed => exact .failed rfl

theorem exchanged_behind
    (exchanged : ∀ reading, before.foldlM Reading.step Reading.start = .ok reading →
      Reading.Exchanged (first.foldlM Reading.step reading) (second.foldlM Reading.step reading)) :
    Exchanged (Reading.start.finish ((rest.behind first).behind before))
      (Reading.start.finish ((rest.behind second).behind before)) := by
  rw [Reading.finish_behind, Reading.finish_behind]
  cases ran : before.foldlM Reading.step Reading.start with
  | error error => exact .failed rfl
  | ok reading =>
      change Exchanged (reading.finish (rest.behind first)) (reading.finish (rest.behind second))
      rw [Reading.finish_behind, Reading.finish_behind]
      exact exchanged_finish (exchanged reading ran)

theorem read_hoisted {document hoisted : List Char} (moved : Hoisted document hoisted) :
    Exchanged (Declaration.read document) (Declaration.read hoisted) := by
  obtain @⟨before, opening, own, shared, closing, after, tag, common, beforeEvents, opened, read,
    around, unheld, period, named, opens, closes, hoists⟩ := moved
  obtain ⟨ownEvents, sharedEvents, ownScanned, sharedScanned, follows⟩ := hoists.follows
  have fed {inner : List Char} {innerEvents : List Event} (scanned : scan inner = .ok innerEvents)
      (closed : openElements innerEvents [] = .ok []) :
      Declaration.read (before ++ (opening ++ (inner ++ (closing ++ after)))) =
        Reading.start.finish (((feed opened after).behind
          (.start tag :: (innerEvents ++ [.stop tag.name]))).behind beforeEvents) := by
    have begins : ∀ c ∈ (opening ++ (inner ++ (closing ++ after))).head?, c = '<' :=
      Markup.head?_of_scan opens (by simp)
    rw [Declaration.read, Markup.unmarked_before begins, feed_joined read around (.inr begins),
      feed_element opens scanned closed closes]
  rw [fed ownScanned follows.ownClosed, fed sharedScanned follows.sharedClosed]
  refine exchanged_behind fun reading ran => ?_
  obtain ⟨outside, none⟩ := (Reading.within_of_read around ran).outside_of_unheld unheld
  have counted : reading.periods = 1 := (Reading.periods_of_read ran).trans period
  exact Reading.run_set named outside none counted follows

end Declaration

namespace Manifest

theorem parse_hoisted {document hoisted : String} (moved : Hoisted document.toList hoisted.toList) :
    (parse document).mapError Failure.unplaced = (parse hoisted).mapError Failure.unplaced := by
  have exchanged := Declaration.read_hoisted moved
  generalize first : Declaration.read document.toList = one at exchanged
  generalize second : Declaration.read hoisted.toList = two at exchanged
  cases exchanged with
  | read related root title =>
      rw [parse_of_read first, parse_of_read second]
      exact congrArg _ (ofDeclaration_congr related)
  | failed same =>
      rw [parse_of_unread first, parse_of_unread second]
      exact congrArg (fun cause => Except.error (Failure.error (.manifest (.markup cause)))) same

end Manifest

end TiledStream
