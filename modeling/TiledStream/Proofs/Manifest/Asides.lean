import TiledStream.Proofs.Manifest.Headings
import TiledStream.Proofs.Manifest.Seams
import TiledStream.Proofs.Manifest.SetOrder
import TiledStream.Proofs.Text.Trimming

/-! Comments and processing instructions carry no data: a document with one more of them is read as
it was, up to the places that errors name, unless they take blanks of a title apart from what is around
them. -/

namespace TiledStream

open Markup (Event Feed IsAside Uncut feed glue openElements unescape unmarked)
open Text (Seamless trim)

def InTitle (events : List Event) : Prop :=
  (events.foldl Reading.Heading.after Reading.start.heading).inTitle = true

instance (events : List Event) : Decidable (InTitle events) :=
  inferInstanceAs (Decidable (_ = true))

/-- Events that end with character data of a title, a text behind them, and the data on either side. -/
inductive CutsTitle : List Event → List Char → List Char → List Char → Prop
  | cut {front : List Event} {source after left right : List Char} (inside : InTitle front)
      (readLeft : unescape source = .ok left)
      (readRight : unescape (after.takeWhile (· != '<')) = .ok right) :
      CutsTitle (front ++ [.text source]) after left right

theorem CutsTitle.pieces {events : List Event} {after left right : List Char}
    (cuts : CutsTitle events after left right) :
    (∃ source, events.getLast? = some (.text source) ∧ unescape source = .ok left) ∧
      unescape (after.takeWhile (· != '<')) = .ok right := by
  obtain ⟨_, readLeft, readRight⟩ := cuts
  exact ⟨⟨_, by simp, readLeft⟩, readRight⟩

def SeamlessAll : List (List Char) → Prop
  | [] => True
  | piece :: rest => Seamless piece rest.flatten ∧ SeamlessAll rest

theorem flatMap_trim {pieces : List (List Char)} (seamless : SeamlessAll pieces) :
    pieces.flatMap trim = trim pieces.flatten := by
  induction pieces with
  | nil => rfl
  | cons piece rest ih =>
      rw [List.flatMap_cons, List.flatten_cons, Text.trim_append_iff.mpr seamless.1,
        ih seamless.2]

namespace Reading

variable {reading : Reading} {first second events : List Event}

theorem titled_start : start.Titled := fun inside => nomatch inside

theorem inTitle_of_run (read : events.foldlM step start = .ok reading) :
    reading.inTitle = true ↔ InTitle events := by
  have heading := (heads_run titled_start read).heading
  unfold InTitle
  rw [← heading]
  rfl

theorem step_aside {event : Event} (passed : event.isAside = true) :
    reading.step event = .ok reading := by
  cases event with
  | comment | instruction => rfl
  | _ => exact nomatch passed

theorem joins_seamless {left right : List Char} (seamless : Seamless left right) :
    reading.Joins left right := by
  cases inside : reading.inTitle with
  | false => exact joins_outside inside left right
  | true =>
      cases known : reading.declaration.title with
      | none => simp [Joins, characters, inside, known]
      | some title =>
          simp [Joins, characters, inside, known, Text.trim_append_iff.mpr seamless,
            String.append_assoc]

theorem text_pieces_untitled {source more : List Char} (unbroken : Markup.Unbroken source) :
    ((reading.step (.text (source ++ more))).map untitled).mapError MarkupError.unplaced =
      ((reading.step (.text source) >>= fun between =>
        between.step (.text more)).map untitled).mapError MarkupError.unplaced := by
  have pieces : (reading.step (.text source) >>= fun between => between.step (.text more)).map
      untitled =
      (unescape source >>= fun left => (unescape more).map (left ++ ·)).map fun _ =>
        reading.untitled := by
    rw [step]
    cases unescape source with
    | error error => rfl
    | ok left =>
        change ((reading.characters left).step (.text more)).map untitled = _
        rw [text_untitled, untitled_characters]
        cases unescape more <;> rfl
  rw [pieces, text_untitled, mapError_map, mapError_map, Markup.unescape_append unbroken]

theorem run_glued_untitled (uncut : Uncut first) :
    (((glue first second).foldlM step reading).map untitled).mapError MarkupError.unplaced =
      (((first ++ second).foldlM step reading).map untitled).mapError MarkupError.unplaced := by
  rcases Markup.glue_cases first second with apart | ⟨front, source, more, back, rfl, rfl, same⟩
  · rw [apart]
  · rw [same, List.append_assoc, List.foldlM_append, List.foldlM_append]
    cases front.foldlM step reading with
    | error error => rfl
    | ok between =>
        have pieces : ((between.step (.text (source ++ more))).map untitled).mapError
            MarkupError.unplaced = _ := text_pieces_untitled (uncut source (by simp))
        change (((Event.text (source ++ more) :: back).foldlM step between).map untitled).mapError _ =
          (((Event.text source :: Event.text more :: back).foldlM step between).map
            untitled).mapError _
        simp only [List.foldlM_cons]
        rw [← bind_assoc]
        exact mapError_map_bind_congr pieces fun one two same =>
          congrArg (·.mapError MarkupError.unplaced) (run_untitled same)

end Reading

namespace Declaration

variable {events : List Event} {before inserted after : List Char} {opened : List (List Char)}

def untitled (declaration : Declaration) : Declaration :=
  { declaration with title := declaration.title.map fun _ => "" }

/-- Elsewhere than at the start of a document a byte order mark is character data. -/
theorem finish_mark (rest : Feed) :
    (Reading.start.finish (rest.glued [.text ['\uFEFF']])).mapError MarkupError.unplaced =
      (Reading.start.finish rest).mapError MarkupError.unplaced := by
  refine Reading.finish_congr ?_
  rw [Reading.run_glued]
  · have content : unescape ['\uFEFF'] = .ok ['\uFEFF'] := by decide +kernel
    rw [List.singleton_append, List.foldlM_cons, Reading.step, content]
    rfl
  · rintro source same
    obtain rfl := Event.text.inj (Option.some.inj same)
    decide
  · rintro front source more back between same - ran left right - -
    obtain rfl : front = [] := by
      rw [eq_comm, List.append_eq_singleton_iff] at same
      simp only [List.cons_ne_nil, and_false, or_false] at same
      exact same.1
    obtain rfl := Except.ok.inj ran
    exact Reading.joins_outside rfl left right

/-- Two texts with an aside between them are read as events side by side, and without it as those
events glued, unless an end tag before the aside or a byte order mark behind it is out of place. -/
theorem read_either (after : List Char) (read : Markup.events before = .ok events)
    (aside : IsAside inserted) :
    (Declaration.read (before ++ (inserted ++ after))).mapError MarkupError.unplaced =
        (Declaration.read (before ++ after)).mapError MarkupError.unplaced ∨
      ∃ opened,
        Declaration.read (before ++ (inserted ++ after)) =
          Reading.start.finish ((feed opened after).behind events) ∧
        Declaration.read (before ++ after) =
          Reading.start.finish ((feed opened after).glued events) := by
  obtain ⟨event, scanned, passed⟩ := aside
  have nothing : before = [] → events = [] := not_imp_not.mp (Markup.ne_nil_of_events read)
  cases ran : openElements events [] with
  | error error =>
      have some : before ≠ [] := fun empty => by
        rw [nothing empty] at ran
        exact nomatch ran
      have stuck (rest : List Char) : Declaration.read (before ++ rest) =
          Reading.start.finish (feed [] (unmarked before)) := by
        rw [Declaration.read, Markup.unmarked_append fun empty => absurd empty some,
          Markup.feed_stuck read ran]
      rw [stuck, stuck]
      exact .inl rfl
  | ok opened =>
      have apart : Declaration.read (before ++ (inserted ++ after)) =
          Reading.start.finish ((feed opened after).behind events) := by
        rw [Declaration.read, Markup.feed_around read ran scanned passed, Reading.finish_behind,
          Reading.finish_behind, List.foldlM_append]
        cases events.foldlM Reading.step Reading.start with
        | error error => rfl
        | ok between =>
            change ([event].foldlM Reading.step between >>= _) = _
            rw [List.foldlM_cons, Reading.step_aside passed]
            rfl
      by_cases mark : before = [] ∧ after.head? = some '\uFEFF'
      · obtain ⟨rfl, begins⟩ := mark
        obtain ⟨rest, rfl⟩ := List.head?_eq_some_iff.mp begins
        obtain rfl := nothing rfl
        obtain rfl := Except.ok.inj ran
        rw [apart]
        have fed : feed [] (['\uFEFF'] ++ rest) = (feed [] rest).glued [.text ['\uFEFF']] :=
          Markup.feed_plain (by decide) (by decide)
        rw [List.singleton_append] at fed
        rw [fed]
        exact .inl (finish_mark (feed [] rest))
      · refine .inr ⟨opened, apart, ?_⟩
        rw [Declaration.read,
          Markup.feed_document read ran fun none begins => mark ⟨none, begins⟩]

theorem read_seamless (read : Markup.events before = .ok events) (uncut : Uncut events)
    (aside : IsAside inserted)
    (seamless : ∀ left right, CutsTitle events after left right → Seamless left right) :
    (Declaration.read (before ++ (inserted ++ after))).mapError MarkupError.unplaced =
      (Declaration.read (before ++ after)).mapError MarkupError.unplaced := by
  rcases read_either after read aside with same | ⟨opened, apart, glued⟩
  · exact same
  · rw [apart, glued]
    refine (Reading.finish_congr (Reading.run_glued uncut ?_)).symm
    rintro front source more back between rfl begins ran left right readLeft readRight
    cases inside : between.inTitle with
    | false => exact Reading.joins_outside inside left right
    | true =>
        rw [Markup.text_of_feed begins] at readRight
        exact Reading.joins_seamless
          (seamless left right (.cut ((Reading.inTitle_of_run ran).mp inside) readLeft readRight))

theorem read_untitled (read : Markup.events before = .ok events) (uncut : Uncut events)
    (aside : IsAside inserted) :
    ((Declaration.read (before ++ (inserted ++ after))).map untitled).mapError
        MarkupError.unplaced =
      ((Declaration.read (before ++ after)).map untitled).mapError MarkupError.unplaced := by
  rcases read_either after read aside with same | ⟨opened, apart, glued⟩
  · rw [mapError_map, mapError_map, same]
  · rw [apart, glued]
    refine (mapError_map_bind_congr (Reading.run_glued_untitled uncut) fun one two same => ?_).symm
    have declared : one.declaration.untitled = two.declaration.untitled :=
      congrArg Reading.declaration same
    change Except.mapError _ (Except.map _ ((feed opened after).ending >>= _)) =
      Except.mapError _ (Except.map _ ((feed opened after).ending >>= _))
    cases (feed opened after).ending with
    | error error => rfl
    | ok unclosed =>
        cases unclosed with
        | nil => exact congrArg Except.ok declared
        | cons name unclosed => rfl

end Declaration

namespace Manifest

def untitled (manifest : Manifest) : Manifest := { manifest with title := "" }

theorem ofDeclaration_titled (declaration : Declaration) (title : Option String) :
    ofDeclaration { declaration with title } = (ofDeclaration declaration).map fun manifest =>
      { manifest with title := title.getD "" } := by
  show _ = _ <$> _
  simp only [ofDeclaration, map_bind, map_pure]

theorem ofDeclaration_untitled (declaration : Declaration) :
    ofDeclaration declaration.untitled = (ofDeclaration declaration).map untitled := by
  have empty : (declaration.title.map fun _ => "").getD "" = "" := by
    cases declaration.title <;> rfl
  rw [Declaration.untitled, ofDeclaration_titled, empty]
  rfl

theorem title_of_ofDeclaration {declaration : Declaration} {manifest : Manifest}
    (made : ofDeclaration declaration = .ok manifest) :
    manifest.title = declaration.title.getD "" := by
  have titled := ofDeclaration_titled declaration declaration.title
  rw [made] at titled
  exact congrArg title (Except.ok.inj titled)

theorem title_of_parse {document : String} {manifest : Manifest}
    (parsed : parse document = .ok manifest) :
    ∃ events, Markup.events document.toList = .ok events ∧ manifest.title = String.ofList
      ((Reading.titlePieces Reading.start.heading events).flatMap trim) := by
  obtain ⟨declaration, read, made⟩ := parse_eq_ok parsed
  obtain ⟨events, reading, scanned, _, ran, rfl⟩ := Declaration.read_eq_ok.mp read
  refine ⟨events, scanned, ?_⟩
  rw [title_of_ofDeclaration made, (Reading.heads_run Reading.titled_start ran).title]
  rfl

section Documents

variable {before inserted after : String} {events : List Event}

theorem around_toList : (before ++ inserted ++ after).toList =
    before.toList ++ (inserted.toList ++ after.toList) := by
  simp only [String.toList_append, List.append_assoc]

theorem parse_untitled (read : Markup.events before.toList = .ok events) (uncut : Uncut events)
    (aside : IsAside inserted.toList) :
    ((parse (before ++ inserted ++ after)).map untitled).mapError Failure.unplaced =
      ((parse (before ++ after)).map untitled).mapError Failure.unplaced := by
  have layOut (document : String) : (parse document).map untitled =
      (((Declaration.read document.toList).map Declaration.untitled).mapError
        fun error => .error (.manifest (.markup error))) >>= ofDeclaration := by
    rw [parse_eq]
    cases Declaration.read document.toList with
    | error error => rfl
    | ok declaration => exact (ofDeclaration_untitled declaration).symm
  rw [layOut, layOut, around_toList, String.toList_append]
  exact layOut_congr (Declaration.read_untitled read uncut aside) ofDeclaration

/-- A comment or an instruction between any two pieces of a document changes at most the title, and
the title only where it cuts its character data and blanks stand there. If no blanks stand where pieces
of the titles meet, they are trimmed as a whole. -/
theorem asides_pass (read : Markup.events before.toList = .ok events) (uncut : Uncut events)
    (aside : IsAside inserted.toList) :
    ((∀ left right, CutsTitle events after.toList left right → Seamless left right) →
      (parse (before ++ inserted ++ after)).mapError Failure.unplaced =
        (parse (before ++ after)).mapError Failure.unplaced) ∧
    ((parse (before ++ inserted ++ after)).map untitled).mapError Failure.unplaced =
      ((parse (before ++ after)).map untitled).mapError Failure.unplaced ∧
    ∀ document manifest, parse document = .ok manifest →
      ∃ all, Markup.events document.toList = .ok all ∧
        (SeamlessAll (Reading.titlePieces Reading.start.heading all) → manifest.title =
          String.ofList (trim (Reading.titlePieces Reading.start.heading all).flatten)) := by
  refine ⟨fun seamless => parse_congr ?_, parse_untitled read uncut aside,
    fun document manifest parsed => ?_⟩
  · rw [around_toList, String.toList_append]
    exact Declaration.read_seamless read uncut aside seamless
  · obtain ⟨all, scanned, titled⟩ := title_of_parse parsed
    exact ⟨all, scanned, fun seamless => by rw [titled, flatMap_trim seamless]⟩

end Documents

section Sample

def titleBegun : String := "<MPD><ProgramInformation><Title>a"

def titleEnding (blanks : String) : String :=
  blanks ++ "b</Title></ProgramInformation><Period>" ++ alone "1" "" ++ "</Period></MPD>"

theorem events_titleBegun : Markup.events titleBegun.toList = .ok [
    .start { name := "MPD".toList, attributes := [] },
    .start { name := "ProgramInformation".toList, attributes := [] },
    .start { name := "Title".toList, attributes := [] }, .text ['a']] := by
  unfold titleBegun
  rw [String.toList_ofList]
  decide +kernel

theorem isAside_remark : IsAside "<!--c-->".toList :=
  Markup.isAside_comment (by decide : ¬['-', '-', '>'] <:+: ['c'])

theorem isAside_order : IsAside "<?c?>".toList :=
  Markup.isAside_instruction (by decide : ¬['?', '>'] <:+: ['c']) (by decide)

theorem solid_title_whole :
    (parse (titleBegun ++ "<!--c-->" ++ titleEnding "")).mapError Failure.unplaced =
      (parse (titleBegun ++ titleEnding "")).mapError Failure.unplaced ∧
    outline (titleBegun ++ titleEnding "") = some ("ab", [[1]]) := by
  have readLeft : unescape ['a'] = .ok ['a'] := by decide +kernel
  have readRight : unescape ((titleEnding "").toList.takeWhile (· != '<')) = .ok ['b'] := by
    unfold titleEnding alone setText
    simp only [String.toList_append, List.append_assoc]
    repeat rw [String.toList_ofList]
    decide +kernel
  have uncut : Uncut [
      .start { name := "MPD".toList, attributes := [] },
      .start { name := "ProgramInformation".toList, attributes := [] },
      .start { name := "Title".toList, attributes := [] }, .text ['a']] := by
    rintro source same
    obtain rfl := Event.text.inj (Option.some.inj same)
    decide
  obtain ⟨passes, _⟩ :=
    @asides_pass _ _ (titleEnding "") _ events_titleBegun uncut isAside_remark
  refine ⟨passes fun left right cuts => ?_,
    (outline_of_read ⟨some [], some "ab", [setOfText "0,0,1,1,1,1" "1"]⟩ ?_).trans
      (by decide +kernel)⟩
  · obtain ⟨⟨source, last, sourceRead⟩, moreRead⟩ := cuts.pieces
    obtain rfl := Event.text.inj (Option.some.inj last)
    obtain rfl := Except.ok.inj (readLeft.symm.trans sourceRead)
    obtain rfl := Except.ok.inj (readRight.symm.trans moreRead)
    refine .inr (.inr ⟨fun c last => ?_, fun c first => ?_⟩)
    · obtain rfl := Option.some.inj last
      decide
    · obtain rfl := Option.some.inj first
      decide
  · unfold titleBegun titleEnding alone setText
    simp only [String.toList_append, List.append_assoc]
    repeat rw [String.toList_ofList]
    decide +kernel

/-- A document up to the middle of its character data, which holds a reference that its declarations
alone explain. -/
def declaredBegun : String := "<!DOCTYPE MPD [<!ENTITY e 'x'>]><MPD>ab "

/-- A comment or an instruction in a title takes away the blank beside it, and in character data it
moves the place at which a reference is reported. -/
theorem title_cut_by_aside :
    IsAside "<!--c-->".toList ∧ IsAside "<?c?>".toList ∧
    outline (titleBegun ++ titleEnding " ") = some ("a b", [[1]]) ∧
    outline (titleBegun ++ "<!--c-->" ++ titleEnding " ") = some ("ab", [[1]]) ∧
    outline (titleBegun ++ "<?c?>" ++ titleEnding " ") = some ("ab", [[1]]) ∧
    parse (declaredBegun ++ "&e;</MPD>") =
      .error (.error (.manifest (.markup (.badReference (.unknown 4 5 "e"))))) ∧
    parse (declaredBegun ++ "<!--c-->" ++ "&e;</MPD>") =
      .error (.error (.manifest (.markup (.badReference (.unknown 1 2 "e"))))) := by
  let set := setOfText "0,0,1,1,1,1" "1"
  have together : Declaration.read (declaredBegun ++ "&e;</MPD>").toList =
      .error (.badReference (.unknown 4 5 "e")) := by
    unfold declaredBegun
    simp only [String.toList_append]
    repeat rw [String.toList_ofList]
    decide +kernel
  have apart : Declaration.read (declaredBegun ++ "<!--c-->" ++ "&e;</MPD>").toList =
      .error (.badReference (.unknown 1 2 "e")) := by
    unfold declaredBegun
    simp only [String.toList_append, List.append_assoc]
    repeat rw [String.toList_ofList]
    decide +kernel
  refine ⟨isAside_remark, isAside_order,
    (outline_of_read ⟨some [], some "a b", [set]⟩ ?_).trans (by decide +kernel),
    (outline_of_read ⟨some [], some "ab", [set]⟩ ?_).trans (by decide +kernel),
    (outline_of_read ⟨some [], some "ab", [set]⟩ ?_).trans (by decide +kernel),
    parse_of_unread together, parse_of_unread apart⟩
  all_goals
    unfold titleBegun titleEnding alone setText
    simp only [String.toList_append, List.append_assoc]
    repeat rw [String.toList_ofList]
    decide +kernel

end Sample

end Manifest

end TiledStream
