import TiledStream.Proofs.Manifest.Asides

/-! Only the first period of a document counts: whatever sets, representations and templates later
ones hold, they are read over. -/

namespace TiledStream

open Markup (Event Feed Tag Uncut feed glue openAfter openElements openElements_closed
  openElements_cons unescape)

theorem exists_of_isOk {Error Value : Type} {result : Except Error Value}
    (read : result.isOk = true) : ∃ value, result = .ok value := by
  cases result with
  | error error => exact nomatch read
  | ok value => exact ⟨value, rfl⟩

namespace Reading

variable {reading : Reading} {tag : Tag} {event : Event} {events : List Event}

/-- Whether an event of a later period can be read: outside of all sets the attributes of templates
are read, but of no other part of a period. -/
def passes : Event → Bool
  | .start tag | .empty tag => ElementName.ofName tag.name != .template || tag.readAttributes.isOk
  | .text source => (unescape source).isOk
  | _ => true

section Quiet

variable (quiet : reading.Quiet) (later : 2 ≤ reading.periods)

include quiet in
theorem closed_quiet (name : List Char) : reading.closed name = reading := by
  obtain ⟨⟨information, title⟩, set, representation⟩ := quiet.eq
  cases reading
  subst information title set representation
  unfold closed
  split <;> rfl

include quiet in
theorem characters_quiet (content : List Char) : reading.characters content = reading :=
  characters_outside (quiet .title) content

include quiet later in
theorem opened_quiet (part : (ElementName.ofName tag.name).isGlobal = false)
    (read : passes (.start tag) = true) : reading.opened tag = .ok reading := by
  obtain ⟨⟨information, title⟩, set, representation⟩ := quiet.eq
  unfold opened
  cases named : ElementName.ofName tag.name with
  | title => simp only [information]; rfl
  | adaptationSet => exact if_neg (by omega)
  | property | representation => rw [set]
  | template =>
      have attributes : tag.readAttributes.isOk = true := by simpa [passes, named] using read
      obtain ⟨attributes, found⟩ := exists_of_isOk attributes
      rw [found]
      show Except.ok (reading.addTemplate attributes) = _
      rw [addTemplate, representation, set]
  | other => rfl
  | _ => simp [named, ElementName.isGlobal] at part

include quiet later in
theorem step_quiet (part : ∀ kind ∈ begun [event], kind.isGlobal = false)
    (read : passes event = true) : reading.step event = .ok reading := by
  cases event with
  | start tag => exact opened_quiet quiet later (part _ (.head _)) read
  | empty tag =>
      rw [step, opened_quiet quiet later (part _ (.head _)) read]
      exact congrArg Except.ok (closed_quiet quiet tag.name)
  | stop name => exact congrArg Except.ok (closed_quiet quiet name)
  | text source =>
      obtain ⟨content, found⟩ := exists_of_isOk read
      rw [step, found]
      exact congrArg Except.ok (characters_quiet quiet content)
  | cdata content => exact congrArg Except.ok (characters_quiet quiet content)
  | _ => rfl

include quiet later in
theorem run_quiet (part : ∀ kind ∈ begun events, kind.isGlobal = false)
    (read : ∀ event ∈ events, passes event = true) : events.foldlM step reading = .ok reading := by
  induction events with
  | nil => rfl
  | cons event events ih =>
      rw [begun_cons] at part
      rw [List.foldlM_cons, step_quiet quiet later
        (fun kind member => part kind (List.mem_append_left _ member)) (read event (.head _))]
      exact ih (fun kind member => part kind (List.mem_append_right _ member))
        fun event member => read event (.tail _ member)

end Quiet

section Later

def later (reading : Reading) : Reading := { reading with periods := reading.periods + 1 }

theorem Quiet.later (quiet : reading.Quiet) : reading.later.Quiet := by
  intro kind
  rw [← quiet kind]
  cases kind <;> rfl

theorem run_period (quiet : reading.Quiet) (after : 1 ≤ reading.periods)
    (element : IsElement .period events) (part : ∀ kind ∈ begun events.tail, kind.isGlobal = false)
    (read : ∀ event ∈ events, passes event = true) :
    events.foldlM step reading = .ok reading.later := by
  have opens {tag : Tag} (named : ElementName.ofName tag.name = .period) :
      reading.opened tag = .ok reading.later := by
    rw [opened, named]
    rfl
  cases element with
  | empty named =>
      rw [List.foldlM_cons, step, opens named]
      exact congrArg Except.ok (closed_quiet quiet.later _)
  | @whole tag inner named closed =>
      rw [List.foldlM_cons, step, opens named]
      change (inner ++ [Event.stop tag.name]).foldlM step reading.later = _
      exact run_quiet quiet.later (Nat.succ_le_succ after) part
        fun event member => read event (.tail _ member)

theorem opened_later (after : 1 ≤ reading.periods)
    (alone : reading.periods = 1 → ElementName.ofName tag.name ≠ .adaptationSet) :
    reading.later.opened tag = (reading.opened tag).map later := by
  apply opened_elsewhere (· + 1) id (fun _ _ => rfl) (fun _ _ => rfl) (fun _ => rfl)
  intro named
  have beyond : reading.periods ≠ 1 := fun first => alone first named
  omega

theorem closed_later (name : List Char) :
    reading.later.closed name = (reading.closed name).later :=
  closed_elsewhere (· + 1) id name fun _ => rfl

theorem characters_later (content : List Char) :
    reading.later.characters content = (reading.characters content).later :=
  characters_view rfl rfl (fun _ => rfl) content

theorem step_later (after : 1 ≤ reading.periods)
    (alone : reading.periods = 1 → .adaptationSet ∉ begun [event]) :
    reading.later.step event = (reading.step event).map later := by
  refine step_view (fun tag begins => opened_later after fun first named => alone first ?_)
    (fun _ name _ => closed_later name) characters_later
  rcases begins with rfl | rfl <;> simp [begun, begun?, named]

def beforePeriod (events : List Event) : List ElementName :=
  (begun events).takeWhile (· != .period)

theorem beforePeriod_cons (none : .period ∉ begun [event]) :
    beforePeriod (event :: events) = begun [event] ++ beforePeriod events := by
  rw [beforePeriod, begun_cons, List.takeWhile_append_of_pos]
  · rfl
  · exact fun kind member => bne_iff_ne.mpr fun same => none (same ▸ member)

theorem beforePeriod_of_period (begins : .period ∈ begun [event]) :
    beforePeriod (event :: events) = [] := by
  unfold beforePeriod
  rw [begun_cons]
  cases event <;> simp_all [begun, begun?]

theorem begun_single {one two : ElementName} (first : one ∈ begun [event])
    (second : two ∈ begun [event]) : one = two := by
  cases event <;> simp_all [begun, begun?]

/-- Once the first period has begun it makes no difference how many have, unless sets are still to
come before the next one. -/
theorem run_later (after : 1 ≤ reading.periods)
    (alone : reading.periods = 1 → .adaptationSet ∉ beforePeriod events) :
    events.foldlM step reading.later = (events.foldlM step reading).map later := by
  induction events generalizing reading with
  | nil => rfl
  | cons event events ih =>
      have here (first : reading.periods = 1) : .adaptationSet ∉ begun [event] := by
        intro member
        have none : .period ∉ begun [event] := fun period => nomatch begun_single member period
        have rest := alone first
        rw [beforePeriod_cons none] at rest
        exact rest (List.mem_append_left _ member)
      rw [List.foldlM_cons, List.foldlM_cons, step_later after here]
      cases stepped : reading.step event with
      | error error => rfl
      | ok next =>
          have periods := periods_step stepped
          refine ih (by omega) fun first => ?_
          have none : .period ∉ begun [event] := List.count_eq_zero.mp (by omega)
          have rest := alone (by omega)
          rw [beforePeriod_cons none] at rest
          exact fun member => rest (List.mem_append_right _ member)

theorem finish_later {rest : Feed} (after : 1 ≤ reading.periods)
    (alone : .adaptationSet ∉ beforePeriod rest.events) :
    reading.later.finish rest = reading.finish rest := by
  rw [finish, finish, run_later after fun _ => alone]
  cases rest.events.foldlM step reading <;> rfl

end Later

theorem run_glued_outside {first second : List Event} (uncut : Uncut first)
    (outside : ∀ next, first.foldlM step reading = .ok next → next.inTitle = false) :
    ((glue first second).foldlM step reading).mapError MarkupError.unplaced =
      ((first ++ second).foldlM step reading).mapError MarkupError.unplaced := by
  refine run_glued uncut ?_
  rintro front source more back between rfl - ran left right readLeft -
  have further : (front ++ [Event.text source]).foldlM step reading =
      .ok (between.characters left) := by
    rw [List.foldlM_append, ran]
    change [Event.text source].foldlM step between = _
    rw [List.foldlM_cons, step, readLeft]
    rfl
  have still : (between.characters left).isInside .title = between.isInside .title :=
    isInside_characters left
  exact joins_outside (still.symm.trans (outside _ further)) left right

theorem finish_glued_outside {rest : Feed} (uncut : Uncut events)
    (outside : ∀ next, events.foldlM step reading = .ok next → next.inTitle = false) :
    (reading.finish (rest.glued events)).mapError MarkupError.unplaced =
      (reading.finish (rest.behind events)).mapError MarkupError.unplaced :=
  finish_congr (run_glued_outside uncut outside)

end Reading

def IsPeriodText (text : List Char) : Prop :=
  ∃ events, Markup.scan text = .ok events ∧ IsElement .period events ∧
    (∀ kind ∈ begun events.tail, kind.isGlobal = false) ∧
    ∀ event ∈ events, Reading.passes event = true

instance (text : List Char) : Decidable (IsPeriodText text) :=
  match scanned : Markup.scan text with
  | .ok events =>
    decidable_of_iff (IsElement .period events ∧
        (∀ kind ∈ begun events.tail, kind.isGlobal = false) ∧
        ∀ event ∈ events, Reading.passes event = true)
      (by simp [IsPeriodText, scanned])
  | .error _ => isFalse (by simp [IsPeriodText, scanned])

section Enclosed

def nowOpen (opened : List (List Char)) : Event → List (List Char)
  | .start tag => tag.name :: opened
  | .stop _ => opened.tail
  | _ => opened

def Enclosed : (opened : List (List Char)) → List Event → Prop
  | _, [] => True
  | opened, event :: events =>
    (.adaptationSet ∈ begun [event] → .period ∈ opened.map ElementName.ofName) ∧
      Enclosed (nowOpen opened event) events

instance decidableEnclosed : (opened : List (List Char)) → (events : List Event) →
    Decidable (Enclosed opened events)
  | _, [] => .isTrue trivial
  | opened, event :: events =>
    let _ := decidableEnclosed (nowOpen opened event) events
    inferInstanceAs (Decidable (_ ∧ _))

def Housed (opened : List (List Char)) : Prop :=
  ∀ name outer, name :: outer <:+ opened → ElementName.ofName name = .adaptationSet →
    .period ∈ outer.map ElementName.ofName

variable {opened left : List (List Char)} {event : Event} {events others : List Event}

theorem nowOpen_of_step (ran : openAfter opened event = .ok left) :
    nowOpen opened event = left := by
  cases event with
  | stop name =>
      cases opened with
      | nil => simp [openAfter] at ran
      | cons innermost outer =>
          rw [openAfter] at ran
          split at ran
          · exact Except.ok.inj ran
          · simp at ran
  | _ => exact Except.ok.inj ran

theorem Housed.step (housed : Housed opened) (enclosed : Enclosed opened (event :: events)) :
    Housed (nowOpen opened event) := by
  cases event with
  | start tag =>
      intro name outer suffix named
      rcases List.suffix_cons_iff.mp suffix with same | inner
      · obtain ⟨rfl, rfl⟩ := List.cons.inj same
        exact enclosed.1 (by simp [begun, begun?, named])
      · exact housed name outer inner named
  | stop _ =>
      exact fun name outer suffix => housed name outer (suffix.trans (List.tail_suffix opened))
  | _ => exact housed

theorem enclosed_rest (ran : openElements events opened = .ok left) (housed : Housed opened)
    (enclosed : Enclosed opened (events ++ others)) : Housed left ∧ Enclosed left others := by
  induction events generalizing opened with
  | nil =>
      obtain rfl := Except.ok.inj ran
      exact ⟨housed, enclosed⟩
  | cons event events ih =>
      rw [openElements_cons] at ran
      obtain ⟨between, first, ran⟩ := bind_eq_ok ran
      have further := housed.step enclosed
      have rest := enclosed.2
      rw [nowOpen_of_step first] at further rest
      exact ih ran further rest

theorem Housed.outside (housed : Housed opened)
    (apart : ∀ kind ∈ opened.map ElementName.ofName, kind ∉ [.period, .information]) :
    IsOutside opened := by
  intro kind member listed
  rcases List.mem_cons.mp listed with rfl | information
  · obtain ⟨name, inside, named⟩ := List.mem_map.mp member
    obtain ⟨inner, outer, rfl⟩ := List.append_of_mem inside
    have period := housed name outer (List.suffix_append inner _) named
    have among : .period ∈ (inner ++ name :: outer).map ElementName.ofName := by
      rw [List.map_append, List.map_cons]
      exact List.mem_append_right _ (.tail _ period)
    exact apart _ among (.head _)
  · exact apart kind member (.tail _ information)

theorem not_mem_nowOpen {kind : ElementName} (outside : kind ∉ opened.map ElementName.ofName)
    (other : kind ∉ begun [event]) : kind ∉ (nowOpen opened event).map ElementName.ofName := by
  cases event with
  | start tag =>
      intro member
      rcases List.mem_cons.mp member with rfl | inner
      · exact other (.head _)
      · exact outside inner
  | stop _ =>
      exact fun member => outside (((List.tail_suffix opened).map _).subset member)
  | _ => exact outside

theorem Enclosed.alone (enclosed : Enclosed opened events)
    (outside : .period ∉ opened.map ElementName.ofName) :
    .adaptationSet ∉ Reading.beforePeriod events := by
  induction events generalizing opened with
  | nil => exact List.not_mem_nil
  | cons event events ih =>
      by_cases period : .period ∈ begun [event]
      · rw [Reading.beforePeriod_of_period period]
        exact List.not_mem_nil
      · rw [Reading.beforePeriod_cons period]
        intro member
        rcases List.mem_append.mp member with here | further
        · exact outside (enclosed.1 here)
        · exact ih enclosed.2 (not_mem_nowOpen outside period) further

end Enclosed

/-- Documents that differ only in periods after the first. No period stands inside of another or of
an information about the document, no set stands outside of all periods, and no reference is cut
where a period begins. -/
inductive SameFirstPeriod : List Char → List Char → Prop
  | refl (document : List Char) : SameFirstPeriod document document
  | removed {before period after : List Char} {events : List Event} {opened : List (List Char)}
      (read : Markup.events before = .ok events) (uncut : Uncut events)
      (around : openElements events [] = .ok opened)
      (apart : ∀ kind ∈ opened.map ElementName.ofName, kind ∉ [.period, .information])
      (later : .period ∈ begun events) (text : IsPeriodText period)
      (enclosed : Enclosed [] (events ++ (feed opened after).events)) :
      SameFirstPeriod (before ++ (period ++ after)) (before ++ after)
  | symm {document other : List Char} (same : SameFirstPeriod document other) :
      SameFirstPeriod other document
  | trans {document between other : List Char} (first : SameFirstPeriod document between)
      (second : SameFirstPeriod between other) : SameFirstPeriod document other

namespace Declaration

variable {before period : List Event} {opened : List (List Char)} {rest : Feed}

theorem finish_removed (uncut : Uncut before) (around : openElements before [] = .ok opened)
    (outside : IsOutside opened) (later : .period ∈ begun before)
    (element : IsElement .period period) (part : ∀ kind ∈ begun period.tail, kind.isGlobal = false)
    (read : ∀ event ∈ period, Reading.passes event = true)
    (alone : .adaptationSet ∉ Reading.beforePeriod rest.events) :
    (Reading.start.finish ((rest.behind period).behind before)).mapError MarkupError.unplaced =
      (Reading.start.finish (rest.glued before)).mapError MarkupError.unplaced := by
  have quiet (reading : Reading) (ran : before.foldlM Reading.step Reading.start = .ok reading) :
      reading.Quiet :=
    Reading.quiet_of_within (Reading.within_of_read around ran) outside
  rw [Reading.finish_glued_outside uncut fun reading ran => quiet reading ran .title,
    Reading.finish_behind, Reading.finish_behind]
  refine mapError_bind_congr rfl fun reading ran => ?_
  have counted : 1 ≤ reading.periods := by
    have some := List.count_pos_iff.mpr later
    have periods := Reading.periods_of_read ran
    omega
  rw [Reading.finish_behind, Reading.run_period (quiet reading ran) counted element part read]
  exact congrArg (·.mapError MarkupError.unplaced) (Reading.finish_later counted alone)

theorem read_same {document other : List Char} (same : SameFirstPeriod document other) :
    (Declaration.read document).mapError MarkupError.unplaced =
      (Declaration.read other).mapError MarkupError.unplaced := by
  induction same with
  | refl document => rfl
  | @removed before period after events opened read uncut around apart later text enclosed =>
      obtain ⟨found, scanned, element, part, passes⟩ := text
      have some : before ≠ [] := Markup.ne_nil_of_events read fun none => by
        rw [none] at later
        exact List.not_mem_nil later
      have begins : ∀ c ∈ (period ++ after).head?, c = '<' := element.head? scanned
      rw [Declaration.read, Declaration.read, Markup.unmarked_before begins,
        Markup.feed_joined read around (.inr begins),
        Markup.feed_joined scanned (openElements_closed element.closed) element.apart,
        Markup.feed_document read around fun none => absurd none some]
      have nothing : Housed [] := fun _ _ suffix => by simp at suffix
      obtain ⟨housed, beyond⟩ := enclosed_rest around nothing enclosed
      exact finish_removed uncut around (housed.outside apart) later element part passes
        (beyond.alone fun member => apart _ member (.head _))
  | symm _ same => exact same.symm
  | trans _ _ first second => exact first.trans second

end Declaration

namespace Manifest

/-- Only the first period counts: with later ones taken out, put in or exchanged a document declares
the same sets and is answered alike, up to the places at which errors stand. -/
theorem later_periods_immaterial {document other : String}
    (same : SameFirstPeriod document.toList other.toList) :
    (Declaration.read document.toList).mapError MarkupError.unplaced =
        (Declaration.read other.toList).mapError MarkupError.unplaced ∧
      (parse document).mapError Failure.unplaced = (parse other).mapError Failure.unplaced :=
  have read := Declaration.read_same same
  ⟨read, parse_congr read⟩

section Sample

def followed (later : String) : String :=
  joined "<MPD><Period>" (alone "1" "") "</Period>" later "</MPD>"

theorem followed_removed {period : String} (text : IsPeriodText period.toList) :
    SameFirstPeriod (followed period).toList (followed "").toList := by
  let opening : List Char := ("<MPD><Period>" ++ alone "1" "" ++ "</Period>").toList
  let ending : List Event := [.stop "MPD".toList]
  have checked : (Markup.events opening).map (fun events =>
      (events.getLast?, openElements events [], decide (.period ∈ begun events),
        decide (Enclosed [] (events ++ ending)))) =
      .ok (some (.stop "Period".toList), .ok ["MPD".toList], true, true) := by
    unfold opening alone setText
    simp only [String.toList_append, List.append_assoc]
    repeat rw [String.toList_ofList]
    decide +kernel
  obtain ⟨events, read, found⟩ := map_eq_ok checked
  simp only [Prod.mk.injEq, decide_eq_true_eq] at found
  obtain ⟨last, around, later, enclosed⟩ := found
  have uncut : Uncut events := fun source same => nomatch last.symm.trans same
  have scanned : Markup.scan "</MPD>".toList = .ok ending := by
    rw [String.toList_ofList]
    decide +kernel
  have removed : SameFirstPeriod (opening ++ (period.toList ++ "</MPD>".toList))
      (opening ++ "</MPD>".toList) := by
    have fed : Markup.feed ["MPD".toList] "</MPD>".toList = { events := ending, ending := .ok [] } :=
      Markup.feed_eq_of_scan scanned rfl
    refine .removed read uncut around (by decide +kernel) later text ?_
    rw [fed]
    exact enclosed
  simpa [followed, joined, opening, String.toList_append, List.append_assoc] using removed

def otherPeriod : String :=
  "<Period><AdaptationSet><AdaptationSet maxWidth=\"7\"/><SegmentTemplate/></AdaptationSet>" ++
    alone "2" "" ++ "<Title>x</Title></Period>"

theorem isPeriodText_otherPeriod : IsPeriodText otherPeriod.toList := by
  unfold otherPeriod alone setText
  simp only [String.toList_append, List.append_assoc]
  repeat rw [String.toList_ofList]
  decide +kernel

theorem isPeriodText_empty : IsPeriodText "<Period/>".toList := by
  rw [String.toList_ofList]
  decide +kernel

theorem later_period_exchanged :
    (Declaration.read (followed otherPeriod).toList).mapError MarkupError.unplaced =
      (Declaration.read (followed "<Period/>").toList).mapError MarkupError.unplaced ∧
    (parse (followed otherPeriod)).mapError Failure.unplaced =
      (parse (followed "<Period/>")).mapError Failure.unplaced ∧
    outline (followed "<Period/>") = some ("", [[1]]) := by
  obtain ⟨read, parsed⟩ := later_periods_immaterial
    ((followed_removed isPeriodText_otherPeriod).trans (followed_removed isPeriodText_empty).symm)
  refine ⟨read, parsed, (outline_of_read ⟨some [], none, [setOfText "0,0,1,1,1,1" "1"]⟩ ?_).trans
    (by decide +kernel)⟩
  unfold followed joined alone setText
  simp only [String.toList_append, List.append_assoc]
  repeat rw [String.toList_ofList]
  decide +kernel

/-- A later period matters inside of an information about the document, where its titles are taken
note of, and where it cuts a reference. Amid other character data it moves the place at which a
reference is reported. -/
theorem later_period_material :
    IsPeriodText "<Period><Title>x</Title></Period>".toList ∧ IsPeriodText "<Period/>".toList ∧
    outline (joined "<MPD><ProgramInformation><Period>" (alone "1" "") "</Period>"
      "<Period><Title>x</Title></Period>" "</ProgramInformation></MPD>") = some ("x", [[1]]) ∧
    outline (joined "<MPD><ProgramInformation><Period>" (alone "1" "") "</Period>" ""
      "</ProgramInformation></MPD>") = some ("", [[1]]) ∧
    outline (joined "<ProgramInformation><MPD/><Period>" (alone "1" "") "</Period>"
      "<Period><Title>x</Title></Period>" "</ProgramInformation>") = some ("x", [[1]]) ∧
    outline (joined "<ProgramInformation><MPD/><Period>" (alone "1" "") "</Period>" ""
      "</ProgramInformation>") = some ("", [[1]]) ∧
    outline (joined "<MPD><Period>" (alone "1" "") "</Period>&am" "<Period/>" "p;</MPD>") = none ∧
    outline (joined "<MPD><Period>" (alone "1" "") "</Period>&am" "" "p;</MPD>") =
      some ("", [[1]]) ∧
    parse (joined "<MPD><Period>" (alone "1" "") "</Period>ab" "<Period/>" "&e;</MPD>") =
      .error (.error (.manifest (.markup (.badReference (.unknown 1 2 "e"))))) ∧
    parse (joined "<MPD><Period>" (alone "1" "") "</Period>ab" "" "&e;</MPD>") =
      .error (.error (.manifest (.markup (.badReference (.unknown 3 4 "e"))))) := by
  let set := setOfText "0,0,1,1,1,1" "1"
  have titled : IsPeriodText "<Period><Title>x</Title></Period>".toList := by
    rw [String.toList_ofList]
    decide +kernel
  have unread (gap later ending : String) (error : MarkupError)
      (read : Declaration.read ("<MPD><Period>".toList ++ ((alone "1" "").toList ++
        (gap.toList ++ (later.toList ++ ending.toList)))) = .error error) :
      parse (joined "<MPD><Period>" (alone "1" "") gap later ending) =
        .error (.error (.manifest (.markup error))) :=
    parse_of_unread (by rw [joined_toList]; exact read)
  have cut : parse (joined "<MPD><Period>" (alone "1" "") "</Period>&am" "<Period/>" "p;</MPD>") =
      .error (.error (.manifest (.markup (.badReference (.unfinished 0 3))))) := by
    refine unread _ _ _ _ ?_
    unfold alone setText
    simp only [String.toList_append, List.append_assoc]
    repeat rw [String.toList_ofList]
    decide +kernel
  refine ⟨titled, isPeriodText_empty,
    (outline_of_read ⟨some [], some "x", [set]⟩ ?_).trans (by decide +kernel),
    (outline_of_read ⟨some [], none, [set]⟩ ?_).trans (by decide +kernel),
    (outline_of_read ⟨some [], some "x", [set]⟩ ?_).trans (by decide +kernel),
    (outline_of_read ⟨some [], none, [set]⟩ ?_).trans (by decide +kernel),
    by rw [outline, cut]; rfl,
    (outline_of_read ⟨some [], none, [set]⟩ ?_).trans (by decide +kernel),
    unread _ _ _ _ ?_, unread _ _ _ _ ?_⟩
  all_goals
    simp only [joined_toList, alone]
    unfold setText
    simp only [String.toList_append, List.append_assoc]
    repeat rw [String.toList_ofList]
    decide +kernel

end Sample

end Manifest

end TiledStream
