import TiledStream.Proofs.Manifest.Effects
import TiledStream.Proofs.Manifest.Seams

/-! The adaptation sets of a document add to its declaration independently of each other, so that
documents with such sets exchanged declare the same sets in another order. -/

namespace TiledStream

open Markup (Apart Event Feed Tag openElements openElements_append openElements_closed openElements_cons
  openElements_within)

namespace Reading

variable {reading : Reading} {events : List Event}

theorem quiet_of_closed (within : reading.Within []) : reading.Quiet :=
  quiet_of_within within fun _ member => absurd member List.not_mem_nil

theorem Quiet.eq (quiet : reading.Quiet) :
    reading.Untitled ∧ reading.currentSet = none ∧ reading.currentRepresentation = none :=
  ⟨⟨quiet .information, quiet .title⟩, by simpa [isInside] using quiet .adaptationSet,
    by simpa [isInside] using quiet .representation⟩

def adding (reading : Reading) (sets : List DeclaredSet) : Reading :=
  { reading with
    declaration := { reading.declaration with sets := reading.declaration.sets ++ sets } }

def setsOf (counts : Bool) (events : List Event) : Except MarkupError (List DeclaredSet) :=
  (events.foldlM step { start with periods := if counts then 1 else 0 }).map (·.declaration.sets)

/-- Elements side by side, closed where they were opened, that say nothing about the whole document. -/
structure Part (events : List Event) : Prop where
  closed : openElements events [] = .ok []
  begins : ∀ kind ∈ begun events, kind.isGlobal = false

theorem run_part (quiet : reading.Quiet) (part : Part events) :
    events.foldlM step reading =
      (setsOf (decide (reading.periods = 1)) events).map reading.adding := by
  obtain ⟨⟨information, title⟩, set, representation⟩ := quiet.eq
  let fresh : Reading := { start with periods := if decide (reading.periods = 1) then 1 else 0 }
  have same : reading.periods = 1 ↔ fresh.periods = 1 := by
    by_cases first : reading.periods = 1 <;> simp [fresh, first]
  -- The reading is a fresh one, moved to this place of the document and behind its earlier sets.
  have whole : (fresh.beside reading).behind reading.declaration.sets = reading := by
    cases reading
    simp_all [behind, beside, fresh, start]
  have within : fresh.Within [] := within_start
  have moved : events.foldlM step reading = ((events.foldlM step fresh).map
      (·.beside reading)).map (·.behind reading.declaration.sets) := by
    rw [← run_beside same ⟨rfl, rfl⟩ part.begins, ← run_behind, whole]
  rw [moved, setsOf]
  cases ran : events.foldlM step fresh with
  | error error => rfl
  | ok last =>
      obtain ⟨⟨lastInformation, lastTitle⟩, lastSet, lastRepresentation⟩ :=
        (quiet_of_closed (within_run within part.closed ran)).eq
      cases reading
      cases last
      simp_all [Except.map, behind, beside, adding]

inductive Alike : Except MarkupError Reading → Except MarkupError Reading → Prop
  | read {earlier others : List DeclaredSet} (same : earlier.Perm others) (reading : Reading) :
      Alike (.ok (reading.behind earlier)) (.ok (reading.behind others))
  | failed (first second : MarkupError) : Alike (.error first) (.error second)

theorem Alike.run {one two : Except MarkupError Reading} (alike : Alike one two)
    (events : List Event) :
    Alike (one >>= events.foldlM step) (two >>= events.foldlM step) := by
  cases alike with
  | @read earlier others same reading =>
      change Alike (events.foldlM step (reading.behind earlier))
        (events.foldlM step (reading.behind others))
      rw [run_behind, run_behind]
      cases events.foldlM step reading with
      | error error => exact .failed error error
      | ok last => exact .read same last
  | failed first second => exact .failed first second

section Exchange

def bare (reading : Reading) : Reading :=
  { reading with declaration := { reading.declaration with sets := [] } }

theorem adding_behind (earlier sets : List DeclaredSet) :
    (reading.behind earlier).adding sets =
      reading.bare.behind (earlier ++ (reading.declaration.sets ++ sets)) := by
  simp [behind, adding, bare]

theorem adding_eq (sets : List DeclaredSet) :
    reading.adding sets = reading.bare.behind (reading.declaration.sets ++ sets) := by
  simp [behind, adding, bare]

theorem Quiet.behind (quiet : reading.Quiet) (earlier : List DeclaredSet) :
    (reading.behind earlier).Quiet := by
  intro kind
  rw [← quiet kind]
  cases kind <;> rfl

variable {first gap second : List Event}

theorem run_around (quiet : reading.Quiet) (firstPart : Part first) (secondPart : Part second)
    (still : ∀ between, gap.foldlM step reading.bare = .ok between → between.Quiet)
    (counts : reading.periods = 1 ↔ reading.periods + (begun gap).count .period = 1) :
    (first ++ (gap ++ second)).foldlM step reading = (do
      let here ← setsOf (decide (reading.periods = 1)) first
      let between ← gap.foldlM step reading.bare
      let there ← setsOf (decide (reading.periods = 1)) second
      pure (between.bare.behind
        (reading.declaration.sets ++ here ++ (between.declaration.sets ++ there)))) := by
  rw [List.foldlM_append, run_part quiet firstPart]
  cases setsOf (decide (reading.periods = 1)) first with
  | error error => rfl
  | ok here =>
      change (gap ++ second).foldlM step (reading.adding here) = _
      rw [List.foldlM_append, adding_eq, run_behind]
      cases ran : gap.foldlM step reading.bare with
      | error error => rfl
      | ok between =>
          have periods := periods_run ran
          change _ = reading.periods + _ at periods
          have same : decide (between.periods = 1) = decide (reading.periods = 1) :=
            decide_eq_decide.mpr (by rw [periods, counts])
          change second.foldlM step (between.behind _) = _
          rw [run_part ((still between ran).behind _) secondPart]
          change (setsOf (decide (between.periods = 1)) second).map _ = _
          rw [same]
          cases setsOf (decide (reading.periods = 1)) second with
          | error error => rfl
          | ok there => exact congrArg Except.ok (adding_behind _ there)

/-- Two parts in exchanged places declare the same sets in another order. -/
theorem run_exchanged (quiet : reading.Quiet) (firstPart : Part first) (secondPart : Part second)
    (still : ∀ between, gap.foldlM step reading.bare = .ok between → between.Quiet)
    (counts : reading.periods = 1 ↔ reading.periods + (begun gap).count .period = 1) :
    Alike ((first ++ (gap ++ second)).foldlM step reading)
      ((second ++ (gap ++ first)).foldlM step reading) := by
  rw [run_around quiet firstPart secondPart still counts,
    run_around quiet secondPart firstPart still counts]
  cases setsOf (decide (reading.periods = 1)) first <;>
    cases setsOf (decide (reading.periods = 1)) second <;>
    cases gap.foldlM step reading.bare
  case ok.ok.ok here there between =>
    refine .read ?_ between.bare
    rw [List.append_assoc, List.append_assoc]
    apply List.Perm.append_left
    rw [← List.append_assoc there]
    exact List.perm_append_comm.trans (List.perm_append_comm.append_right here)
  all_goals exact .failed _ _

end Exchange

end Reading

inductive IsElement (kind : ElementName) : List Event → Prop
  | empty {tag : Tag} (named : ElementName.ofName tag.name = kind) : IsElement kind [.empty tag]
  | whole {tag : Tag} {inner : List Event} (named : ElementName.ofName tag.name = kind)
      (closed : openElements inner [] = .ok []) :
      IsElement kind (.start tag :: (inner ++ [.stop tag.name]))

section Element

variable {kind : ElementName} {events : List Event} {text rest : List Char}

def isElement (kind : ElementName) : List Event → Bool
  | [.empty tag] => ElementName.ofName tag.name = kind
  | .start tag :: rest =>
    ElementName.ofName tag.name = kind ∧ rest.getLast? = some (.stop tag.name) ∧
      (openElements rest.dropLast []).toOption = some []
  | _ => false

theorem isElement_iff : isElement kind events = true ↔ IsElement kind events := by
  constructor
  · intro checked
    unfold isElement at checked
    split at checked
    · exact .empty (of_decide_eq_true checked)
    · obtain ⟨named, last, closed⟩ := of_decide_eq_true checked
      obtain ⟨inner, rfl⟩ := List.getLast?_eq_some_iff.mp last
      rw [List.dropLast_concat] at closed
      refine .whole named ?_
      cases ran : openElements inner [] <;> simp_all [Except.toOption]
    · simp at checked
  · intro element
    cases element with
    | empty named => simpa [isElement] using named
    | whole named closed => simp [isElement, named, closed, Except.toOption]

instance : Decidable (IsElement kind events) := decidable_of_iff _ isElement_iff

theorem IsElement.closed (element : IsElement kind events) : openElements events [] = .ok [] := by
  cases element with
  | empty => rfl
  | @whole tag inner named closed =>
      change openElements (inner ++ [.stop tag.name]) ([] ++ [tag.name]) = _
      rw [openElements_append, openElements_within closed]
      change openElements [.stop tag.name] [tag.name] = _
      rw [openElements_cons, Markup.openAfter_stop]
      rfl

theorem IsElement.apart (element : IsElement kind events) : Apart events rest := by
  refine .inl fun source => ?_
  cases element with
  | empty => simp
  | @whole tag inner =>
      rw [← List.cons_append, List.getLast?_append]
      simp

theorem IsElement.head? (element : IsElement kind events) (scanned : Markup.scan text = .ok events) :
    ∀ c ∈ (text ++ rest).head?, c = '<' := by
  cases element with
  | empty => exact Markup.head?_of_scan scanned fun _ same => nomatch same
  | whole => exact Markup.head?_of_scan scanned fun _ same => nomatch same

end Element

def IsSetText (text : List Char) : Prop :=
  ∃ events, Markup.scan text = .ok events ∧ IsElement .adaptationSet events ∧
    ∀ kind ∈ begun events, kind.isGlobal = false

instance (text : List Char) : Decidable (IsSetText text) :=
  match scanned : Markup.scan text with
  | .ok events =>
    decidable_of_iff (IsElement .adaptationSet events ∧ ∀ kind ∈ begun events, kind.isGlobal = false)
      (by simp [IsSetText, scanned])
  | .error _ => isFalse (by simp [IsSetText, scanned])

def IsOutside (opened : List (List Char)) : Prop :=
  ∀ kind ∈ opened.map ElementName.ofName, kind ∉ [.adaptationSet, .information]

instance (opened : List (List Char)) : Decidable (IsOutside opened) :=
  inferInstanceAs (Decidable (∀ kind ∈ opened.map ElementName.ofName, _))

/-- Documents that differ only in the order of adaptation sets. Two of them may be exchanged where
both belong to the first period or neither does, outside of all elements whose content a reading takes
to be about something else. -/
inductive Reordered : List Char → List Char → Prop
  | refl (document : List Char) : Reordered document document
  | exchange {before first gap second : List Char} (after : List Char)
      {beforeEvents gapEvents : List Event} {opened left : List (List Char)}
      (read : Markup.events before = .ok beforeEvents)
      (around : openElements beforeEvents [] = .ok opened) (outside : IsOutside opened)
      (firstSet : IsSetText first) (secondSet : IsSetText second)
      (between : Markup.scan gap = .ok gapEvents)
      (across : openElements gapEvents opened = .ok left) (beyond : IsOutside left)
      (period : (begun beforeEvents).count .period = 1 ↔
        (begun beforeEvents).count .period + (begun gapEvents).count .period = 1) :
      Reordered (before ++ (first ++ (gap ++ (second ++ after))))
        (before ++ (second ++ (gap ++ (first ++ after))))
  | trans {document between other : List Char} (first : Reordered document between)
      (second : Reordered between other) : Reordered document other

namespace Declaration

inductive Alike : Except MarkupError Declaration → Except MarkupError Declaration → Prop
  | read {sets others : List DeclaredSet} (same : sets.Perm others)
      (root : Option Markup.Attributes) (title : Option String) :
      Alike (.ok { root, title, sets }) (.ok { root, title, sets := others })
  | failed (first second : MarkupError) : Alike (.error first) (.error second)

theorem Alike.refl (result : Except MarkupError Declaration) : Alike result result := by
  cases result with
  | error error => exact .failed error error
  | ok declaration => exact .read (.refl declaration.sets) declaration.root declaration.title

theorem Alike.trans {first second third : Except MarkupError Declaration}
    (one : Alike first second) (two : Alike second third) : Alike first third := by
  cases one with
  | read same root title =>
      cases two with
      | read also => exact .read (same.trans also) root title
  | failed error =>
      cases two with
      | failed _ last => exact .failed error last

theorem finish_alike {one two : Except MarkupError Reading} (alike : Reading.Alike one two)
    (rest : Markup.Feed) :
    Alike (one >>= fun reading => reading.finish rest) (two >>= fun reading => reading.finish rest) := by
  have regroup (one : Except MarkupError Reading) :
      (one >>= fun reading => reading.finish rest) =
        (one >>= rest.events.foldlM Reading.step) >>= fun last => rest.ending >>= fun unclosed =>
          if unclosed.isEmpty then pure last.declaration else .error .unfinished := by
    cases one <;> rfl
  rw [regroup, regroup]
  have later := alike.run rest.events
  generalize (one >>= rest.events.foldlM Reading.step) = first,
    (two >>= rest.events.foldlM Reading.step) = second at later ⊢
  cases later with
  | @read earlier others same reading =>
      cases rest.ending with
      | error error => exact .failed error error
      | ok unclosed =>
          cases unclosed with
          | nil => exact .read (same.append_right _) _ _
          | cons name unclosed => exact .failed .unfinished .unfinished
  | failed first second => exact .failed first second

section Exchange

open Reading (Part)

variable {before first gap second : List Event} {opened left : List (List Char)}

theorem read_exchanged (around : openElements before [] = .ok opened)
    (outside : IsOutside opened) (firstPart : Part first) (secondPart : Part second)
    (across : openElements gap opened = .ok left) (beyond : IsOutside left)
    (period : (begun before).count .period = 1 ↔
      (begun before).count .period + (begun gap).count .period = 1) :
    Reading.Alike ((before ++ (first ++ (gap ++ second))).foldlM Reading.step Reading.start)
      ((before ++ (second ++ (gap ++ first))).foldlM Reading.step Reading.start) := by
  rw [List.foldlM_append, List.foldlM_append]
  cases ran : before.foldlM Reading.step Reading.start with
  | error error => exact .failed error error
  | ok reading =>
      have within := Reading.within_of_read around ran
      have still (between : Reading) (read : gap.foldlM Reading.step reading.bare = .ok between) :
          between.Quiet := by
        have bare : reading.bare.Within opened := within
        exact Reading.quiet_of_within (Reading.within_run bare across read) beyond
      have periods := Reading.periods_of_read ran
      exact Reading.run_exchanged (Reading.quiet_of_within within outside) firstPart secondPart
        still (by rwa [periods])

end Exchange

theorem read_reordered {document other : List Char} (reordered : Reordered document other) :
    Alike (Declaration.read document) (Declaration.read other) := by
  induction reordered with
  | refl document => exact .refl _
  | @exchange before first gap second after beforeEvents gapEvents opened left read around outside
      firstSet secondSet between across beyond period =>
      obtain ⟨firstEvents, firstScanned, firstElement, firstBegins⟩ := firstSet
      obtain ⟨secondEvents, secondScanned, secondElement, secondBegins⟩ := secondSet
      have fed {one two : List Char} {oneEvents twoEvents : List Event}
          (oneScanned : Markup.scan one = .ok oneEvents) (oneElement : IsElement .adaptationSet oneEvents)
          (twoScanned : Markup.scan two = .ok twoEvents)
          (twoElement : IsElement .adaptationSet twoEvents) :
          Markup.feed [] (Markup.unmarked (before ++ (one ++ (gap ++ (two ++ after))))) =
            (Markup.feed left after).behind
              (beforeEvents ++ (oneEvents ++ (gapEvents ++ twoEvents))) := by
        have begins {rest : List Char} : ∀ c ∈ (one ++ rest).head?, c = '<' :=
          oneElement.head? oneScanned
        rw [Markup.unmarked_before begins, Markup.feed_joined read around (.inr begins),
          Markup.feed_joined oneScanned (openElements_closed oneElement.closed) oneElement.apart,
          Markup.feed_joined between across (.inr (twoElement.head? twoScanned)),
          Markup.feed_joined twoScanned (openElements_closed twoElement.closed) twoElement.apart]
        simp only [Feed.behind_behind]
      rw [Declaration.read, Declaration.read,
        fed firstScanned firstElement secondScanned secondElement,
        fed secondScanned secondElement firstScanned firstElement, Reading.finish_behind,
        Reading.finish_behind]
      exact finish_alike (read_exchanged around outside ⟨firstElement.closed, firstBegins⟩
        ⟨secondElement.closed, secondBegins⟩ across beyond period) (Markup.feed left after)
  | trans _ _ first second => exact first.trans second

end Declaration

end TiledStream
