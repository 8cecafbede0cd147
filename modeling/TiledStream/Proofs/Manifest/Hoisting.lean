import TiledStream.Proofs.Manifest.TemplateEffects

/-! One template for a whole set: what all representations of a set declare by templates of their own
can be declared once by the set itself. -/

namespace TiledStream

open Markup (Attributes Event Tag openAfter_stop openElements openElements_append openElements_cons
  openElements_within)

inductive Held where
  | outside
  | lacking
  | having

structure HoistingStage where
  placed : Bool
  held : Held

namespace Reading

variable {common : Attributes} {placed : Bool} {stage done : HoistingStage}
  {one two : Except MarkupError Reading} {reading next : Reading} {tag : Tag} {name : List Char}
  {events before after : List Event}

structure Sheds (common : Attributes) (own bare : DeclaredRepresentation) : Prop where
  attributes : own.attributes = bare.attributes
  template : ∃ found, own.template = some found ∧ Agree found common
  none : bare.template = none

inductive Supplies (common : Attributes) : (placed : Bool) → Option Attributes → Prop
  | none : Supplies common false none
  | some {found : Attributes} (agree : Agree found common) :
      Supplies common true (some found)

inductive Holds (common : Attributes) :
    Held → Option DeclaredRepresentation → Option DeclaredRepresentation → Prop
  | nothing {held : Held} : Holds common held none none
  | lacking {attributes : Attributes} : Holds common .lacking
      (some { attributes, template := none }) (some { attributes, template := none })
  | having {own bare : DeclaredRepresentation} (sheds : Sheds common own bare) :
      Holds common .having (some own) (some bare)

/-- Readings of a set with templates in its representations and with one of its own, or failures
that are the same up to their places. -/
inductive Paired (common : Attributes) (stage : HoistingStage) :
    Except MarkupError Reading → Except MarkupError Reading → Prop
  | read {reading : Reading} {owns bares : List DeclaredRepresentation}
      {first second : Option Attributes} {own bare : Option DeclaredRepresentation}
      (inSet : reading.currentSet.isSome = true) (outside : reading.inTitle = false)
      (matching : List.Forall₂ (Sheds common) owns bares)
      (supplied : Supplies common stage.placed second) (holds : Holds common stage.held own bare) :
      Paired common stage (.ok (reading.holding first owns own))
        (.ok (reading.holding second bares bare))
  | failed {first second : MarkupError} (same : first.unplaced = second.unplaced) :
      Paired common stage (.error first) (.error second)

theorem Paired.of_unplaced {other another : Except MarkupError Reading}
    (paired : Paired common stage one two)
    (first : other.mapError MarkupError.unplaced = one.mapError MarkupError.unplaced)
    (second : another.mapError MarkupError.unplaced = two.mapError MarkupError.unplaced) :
    Paired common stage other another := by
  cases paired with
  | read inSet outside matching supplied holds =>
      obtain rfl := mapError_eq_ok.mp first
      obtain rfl := mapError_eq_ok.mp second
      exact .read inSet outside matching supplied holds
  | failed same =>
      cases other with
      | ok reading => exact nomatch first
      | error other =>
          cases another with
          | ok reading => exact nomatch second
          | error another =>
              exact .failed ((Except.error.inj first).trans
                (same.trans (Except.error.inj second).symm))

theorem Paired.plain (paired : Paired common stage one two)
    (plain : ∀ event ∈ events, isPlain event = true)
    (still : ∀ reading next : Reading, reading.inTitle = false →
      events.foldlM step reading = .ok next → next.inTitle = false) :
    Paired common stage (one >>= events.foldlM step) (two >>= events.foldlM step) := by
  cases paired with
  | failed same => exact .failed same
  | @read reading owns bares first second own bare inSet outside matching supplied holds =>
      change Paired common stage (events.foldlM step (reading.holding first owns own))
        (events.foldlM step (reading.holding second bares bare))
      rw [run_holding _ _ _ plain, run_holding _ _ _ plain]
      cases ran : events.foldlM step reading with
      | error error => exact .failed rfl
      | ok next =>
          have inSetNext := (inSet_run plain ran).trans inSet
          exact .read inSetNext (still reading next outside ran) matching supplied holds

theorem addTemplate_holding {template : Option Attributes}
    {representations : List DeclaredRepresentation} (found : Attributes) :
    (reading.holding template representations none).addTemplate found =
      if reading.currentSet.isSome then reading.holding (some found) representations none
      else reading.holding template representations none := by
  cases reading with
  | mk _ _ _ _ currentSet => cases currentSet <;> rfl

theorem Paired.place (paired : Paired common { placed := false, held := .outside } one two)
    (template : IsTemplate common events) :
    Paired common { placed := true, held := .outside } one (two >>= events.foldlM step) := by
  obtain ⟨found, agree, runs⟩ := template.run
  cases paired with
  | failed same => exact .failed same
  | @read reading owns bares first second own bare inSet outside matching supplied holds =>
      cases holds
      change Paired common _ _ (events.foldlM step (reading.holding second bares none))
      rw [runs (reading.holding second bares none) outside, addTemplate_holding, if_pos inSet]
      exact .read inSet outside matching (.some agree) .nothing

theorem Paired.shed (paired : Paired common { placed, held := .lacking } one two)
    (template : IsTemplate common events) :
    Paired common { placed, held := .having } (one >>= events.foldlM step) two := by
  obtain ⟨found, agree, runs⟩ := template.run
  cases paired with
  | failed same => exact .failed same
  | @read reading owns bares first second own bare inSet outside matching supplied holds =>
      change Paired common _ (events.foldlM step (reading.holding first owns own)) _
      rw [runs (reading.holding first owns own) outside]
      cases holds with
      | nothing =>
          -- The template falls to the set, whose representations have their own.
          rw [addTemplate_holding, if_pos inSet]
          exact .read inSet outside matching supplied .nothing
      | @lacking attributes =>
          exact .read inSet outside matching supplied (.having ⟨rfl, ⟨found, rfl, agree⟩, rfl⟩)

theorem Paired.enter (paired : Paired common stage one two)
    (named : ElementName.ofName tag.name = .representation) :
    Paired common { stage with held := .lacking } (one >>= [.start tag].foldlM step)
      (two >>= [.start tag].foldlM step) := by
  cases paired with
  | failed same => exact .failed same
  | @read reading owns bares first second own bare inSet outside matching supplied holds =>
      obtain ⟨set, current⟩ := Option.isSome_iff_exists.mp inSet
      have begins (template : Option Attributes) (representations : List DeclaredRepresentation)
          (representation : Option DeclaredRepresentation) :
          [.start tag].foldlM step (reading.holding template representations representation) =
            tag.readAttributes.map fun attributes => reading.holding template representations
              (some { attributes, template := none }) := by
        rw [List.foldlM_cons, step, opened, named]
        simp only [holding, current, Option.map_some]
        cases tag.readAttributes <;> rfl
      change Paired common _ ([.start tag].foldlM step (reading.holding first owns own))
        ([.start tag].foldlM step (reading.holding second bares bare))
      rw [begins, begins]
      cases tag.readAttributes with
      | error error => exact .failed rfl
      | ok attributes => exact .read inSet outside matching supplied .lacking

theorem Paired.leave {held : Held} (paired : Paired common { placed, held := .having } one two)
    (named : ElementName.ofName name = .representation) :
    Paired common { placed, held } (one >>= [.stop name].foldlM step)
      (two >>= [.stop name].foldlM step) := by
  cases paired with
  | failed same => exact .failed same
  | @read reading owns bares first second own bare inSet outside matching supplied holds =>
      change Paired common _ (.ok ((reading.holding first owns own).closed name))
        (.ok ((reading.holding second bares bare).closed name))
      obtain ⟨set, current⟩ := Option.isSome_iff_exists.mp inSet
      have ends (template : Option Attributes) (representations : List DeclaredRepresentation)
          (representation : Option DeclaredRepresentation) :
          (reading.holding template representations representation).closed name =
            reading.holding template (representations ++ representation.toList) none := by
        rw [closed, named]
        cases representation <;> simp [holding, current]
      rw [ends, ends]
      cases holds with
      | nothing =>
          simp only [Option.toList_none, List.append_nil]
          exact .read inSet outside matching supplied .nothing
      | having sheds =>
          exact .read inSet outside (List.rel_append matching (.cons sheds .nil)) supplied .nothing

structure IsPlain (events : List Event) : Prop where
  closed : openElements events [] = .ok []
  plain : ∀ event ∈ events, isPlain event = true

theorem IsPlain.outside (plain : IsPlain events) (outside : reading.inTitle = false)
    (ran : events.foldlM step reading = .ok next) : next.inTitle = false := by
  have untitled : reading.isInside .title = false := outside
  exact outside_run plain.closed untitled ran

/-- Events of the content of a set, with a template in each representation and without them, that
are read in step. -/
structure Follows (common : Attributes) (stage done : HoistingStage)
    (own shared : List Event) : Prop where
  ownClosed : openElements own [] = .ok []
  sharedClosed : openElements shared [] = .ok []
  paired : ∀ one two, Paired common stage one two →
    Paired common done (one >>= own.foldlM step) (two >>= shared.foldlM step)

structure Rejoined (apart joined : List Event) : Prop where
  opens : ∀ opened, openElements joined opened = openElements apart opened
  runs : ∀ reading : Reading, reading.inTitle = false →
    (joined.foldlM step reading).mapError MarkupError.unplaced =
      (apart.foldlM step reading).mapError MarkupError.unplaced

variable {own shared moreOwn moreShared apart joined : List Event}

theorem bind_append (one : Except MarkupError Reading) :
    one >>= (before ++ after).foldlM step = (one >>= before.foldlM step) >>= after.foldlM step := by
  cases one with
  | error error => rfl
  | ok reading => exact List.foldlM_append

theorem closed_append (first : openElements before [] = .ok [])
    (second : openElements after [] = .ok []) : openElements (before ++ after) [] = .ok [] := by
  rw [openElements_append, first]
  exact second

theorem closed_element {inner : List Event} (closed : openElements inner [] = .ok []) :
    openElements (.start tag :: (inner ++ [.stop tag.name])) [] = .ok [] := by
  change openElements (inner ++ [.stop tag.name]) ([] ++ [tag.name]) = _
  rw [openElements_append, openElements_within closed]
  change openElements [.stop tag.name] [tag.name] = _
  rw [openElements_cons, openAfter_stop]
  rfl

theorem bind_nil (one : Except MarkupError Reading) : one >>= [].foldlM step = one := by
  cases one <;> rfl

theorem Follows.append {further : HoistingStage} (first : Follows common stage done own shared)
    (second : Follows common done further moreOwn moreShared) :
    Follows common stage further (own ++ moreOwn) (shared ++ moreShared) := by
  constructor
  · exact closed_append first.ownClosed second.ownClosed
  · exact closed_append first.sharedClosed second.sharedClosed
  · intro one two paired
    rw [bind_append, bind_append]
    exact second.paired _ _ (first.paired one two paired)

theorem Follows.nothing : Follows common stage stage [] [] := by
  refine ⟨rfl, rfl, ?_⟩
  intro one two paired
  rw [bind_nil, bind_nil]
  exact paired

theorem Follows.plain (plain : IsPlain events) : Follows common stage stage events events := by
  refine ⟨plain.closed, plain.closed, ?_⟩
  intro one two paired
  exact paired.plain plain.plain fun _ _ outside ran => plain.outside outside ran

theorem Follows.place (template : IsTemplate common events) :
    Follows common { placed := false, held := .outside } { placed := true, held := .outside }
      [] events := by
  refine ⟨rfl, template.element.closed, ?_⟩
  intro one two paired
  rw [bind_nil]
  exact paired.place template

theorem Follows.shed (template : IsTemplate common events) :
    Follows common { placed, held := .lacking } { placed, held := .having } events [] := by
  refine ⟨template.element.closed, rfl, ?_⟩
  intro one two paired
  rw [bind_nil]
  exact paired.shed template

theorem step_empty (reading : Reading) :
    [.empty tag].foldlM step reading = [.start tag, .stop tag.name].foldlM step reading := by
  rw [List.foldlM_cons, List.foldlM_cons, step, step]
  cases reading.opened tag <;> rfl

theorem Follows.representation (named : ElementName.ofName tag.name = .representation)
    (content : Follows common { stage with held := .lacking } { stage with held := .having }
      own shared) :
    Follows common stage stage (.start tag :: (own ++ [.stop tag.name]))
      (.start tag :: (shared ++ [.stop tag.name])) := by
  refine ⟨closed_element content.ownClosed, closed_element content.sharedClosed, ?_⟩
  intro one two paired
  have entered := paired.enter named
  have left : Paired common stage _ _ := (content.paired _ _ entered).leave named
  rw [← bind_append, ← bind_append, ← bind_append, ← bind_append] at left
  simpa using left

theorem Follows.emptied (follows : Follows common stage done own [.start tag, .stop tag.name]) :
    Follows common stage done own [.empty tag] := by
  refine ⟨follows.ownClosed, rfl, ?_⟩
  intro one two paired
  have same : two >>= [Event.empty tag].foldlM step =
      two >>= [.start tag, .stop tag.name].foldlM step := by
    cases two with
    | error error => rfl
    | ok reading => exact step_empty reading
  rw [same]
  exact follows.paired one two paired

theorem untitled_start (named : ElementName.ofName tag.name ≠ .title)
    (outside : reading.inTitle = false) (read : reading.step (.start tag) = .ok next) :
    next.inTitle = false := by
  cases inside : next.inTitle with
  | false => rfl
  | true =>
      rcases (opens_of_opened read).inside .title inside with before | ⟨same, _⟩
      · exact before.symm.trans outside
      · exact absurd same.symm named

theorem Paired.start (paired : Paired common stage one two) (named : isPlain (.start tag) = true)
    (other : ElementName.ofName tag.name ≠ .title) :
    Paired common stage (one >>= [.start tag].foldlM step) (two >>= [.start tag].foldlM step) := by
  refine paired.plain (List.forall_mem_singleton.mpr named) ?_
  intro reading next outside ran
  rw [List.foldlM_cons] at ran
  obtain ⟨between, stepped, ran⟩ := bind_eq_ok ran
  obtain rfl := Except.ok.inj ran
  exact untitled_start other outside stepped

theorem Paired.stop (paired : Paired common stage one two)
    (named : isPlain (.stop name) = true) :
    Paired common stage (one >>= [.stop name].foldlM step) (two >>= [.stop name].foldlM step) := by
  refine paired.plain (List.forall_mem_singleton.mpr named) ?_
  intro reading next outside ran
  obtain rfl := Except.ok.inj ran
  cases inside : (reading.closed name).inTitle with
  | false => rfl
  | true =>
      have before : (reading.closed name).isInside .title = true := inside
      exact (isInside_closed before).2.symm.trans outside

theorem Follows.wrapped (named : isPlain (.start tag) = true)
    (other : ElementName.ofName tag.name ≠ .title)
    (content : Follows common stage stage own shared) :
    Follows common stage stage (.start tag :: (own ++ [.stop tag.name]))
      (.start tag :: (shared ++ [.stop tag.name])) := by
  refine ⟨closed_element content.ownClosed, closed_element content.sharedClosed, ?_⟩
  intro one two paired
  have begun := paired.start named other
  have ended := (content.paired _ _ begun).stop named
  rw [← bind_append, ← bind_append, ← bind_append, ← bind_append] at ended
  simpa using ended

theorem Follows.rejoined (follows : Follows common stage done own shared)
    (first : Rejoined own moreOwn) (second : Rejoined shared moreShared) :
    Follows common stage done moreOwn moreShared := by
  constructor
  · rw [first.opens]
    exact follows.ownClosed
  · rw [second.opens]
    exact follows.sharedClosed
  · intro one two paired
    have result := follows.paired one two paired
    cases paired with
    | failed same => exact result
    | @read reading owns bares template other own bare _ outside _ _ _ =>
        exact result.of_unplaced (first.runs (reading.holding template owns own) outside)
          (second.runs (reading.holding other bares bare) outside)

end Reading

end TiledStream
