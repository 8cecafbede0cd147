import TiledStream.Proofs.Manifest.Effects

/-! The title that a document is read to have: pieces of character data, each trimmed by itself. Nothing
else depends on it. -/

namespace TiledStream

open Markup (Event Tag unescape)

namespace Reading

variable {reading next : Reading} {tag : Tag} {event : Event} {events first second : List Event}

structure Heading where
  inInformation : Bool
  inTitle : Bool
  deriving DecidableEq

def heading (reading : Reading) : Heading :=
  { inInformation := reading.inInformation, inTitle := reading.inTitle }

namespace Heading

def opened (heading : Heading) (name : List Char) : Heading :=
  match ElementName.ofName name with
  | .information => { heading with inInformation := true }
  | .title => { heading with inTitle := heading.inTitle || heading.inInformation }
  | _ => heading

def closed (heading : Heading) (name : List Char) : Heading :=
  match ElementName.ofName name with
  | .information => { heading with inInformation := false }
  | .title => { heading with inTitle := false }
  | _ => heading

def after (heading : Heading) : Event → Heading
  | .start tag => heading.opened tag.name
  | .empty tag => heading.closed tag.name
  | .stop name => heading.closed name
  | _ => heading

theorem closed_opened (heading : Heading) (name : List Char) :
    (heading.opened name).closed name = heading.closed name := by
  unfold opened closed
  cases ElementName.ofName name <;> rfl

end Heading

theorem heading_opened (read : reading.opened tag = .ok next) :
    next.heading = reading.heading.opened tag.name ∧
      next.declaration.title =
        if ElementName.ofName tag.name = .title ∧ reading.inInformation = true then
          some (reading.declaration.title.getD "")
        else reading.declaration.title := by
  unfold opened at read
  unfold Heading.opened
  cases named : ElementName.ofName tag.name <;> simp only [named] at read ⊢
  case title =>
    cases inside : reading.inInformation with
    | true =>
        rw [if_pos inside] at read
        obtain rfl := Except.ok.inj read
        simp [heading, inside]
    | false =>
        rw [if_neg (by rw [inside]; decide)] at read
        obtain rfl := Except.ok.inj read
        simp [heading, inside]
  case adaptationSet =>
    split at read
    · obtain ⟨attributes, _, same⟩ := bind_eq_ok read
      obtain rfl := Except.ok.inj same
      exact ⟨rfl, rfl⟩
    · obtain rfl := Except.ok.inj read
      exact ⟨rfl, rfl⟩
  case property | representation =>
    split at read
    · obtain ⟨attributes, _, same⟩ := bind_eq_ok read
      obtain rfl := Except.ok.inj same
      exact ⟨rfl, rfl⟩
    · obtain rfl := Except.ok.inj read
      exact ⟨rfl, rfl⟩
  case presentation =>
    obtain ⟨attributes, _, same⟩ := bind_eq_ok read
    obtain rfl := Except.ok.inj same
    exact ⟨rfl, rfl⟩
  case template =>
    obtain ⟨attributes, _, same⟩ := bind_eq_ok read
    obtain rfl := Except.ok.inj same
    unfold addTemplate
    split <;> exact ⟨rfl, rfl⟩
  all_goals
    obtain rfl := Except.ok.inj read
    exact ⟨rfl, rfl⟩

theorem heading_closed (name : List Char) :
    (reading.closed name).heading = reading.heading.closed name ∧
      (reading.closed name).declaration.title = reading.declaration.title := by
  unfold closed Heading.closed
  cases ElementName.ofName name <;> dsimp only
  case representation | adaptationSet => split <;> exact ⟨rfl, rfl⟩
  all_goals exact ⟨rfl, rfl⟩

def Titled (reading : Reading) : Prop :=
  reading.inTitle = true → reading.declaration.title.isSome = true

structure Heads (reading next : Reading) (heading : Heading) (pieces : List (List Char)) :
    Prop where
  heading : next.heading = heading
  titled : next.Titled
  title : next.declaration.title.getD "" =
    reading.declaration.title.getD "" ++ String.ofList (pieces.flatMap Text.trim)

theorem Heads.refl (titled : reading.Titled) : Heads reading reading reading.heading [] where
  heading := rfl
  titled := titled
  title := by simp

theorem heads_opened (titled : reading.Titled) (read : reading.opened tag = .ok next) :
    Heads reading next (reading.heading.opened tag.name) [] := by
  obtain ⟨heading, title⟩ := heading_opened read
  refine { heading, titled := fun inside => ?_, title := ?_ }
  · by_cases taken : ElementName.ofName tag.name = .title ∧ reading.inInformation = true
    · rw [title, if_pos taken]
      rfl
    · rw [title, if_neg taken]
      apply titled
      have entered : (reading.heading.opened tag.name).inTitle = true := by
        rw [← heading]
        exact inside
      unfold Heading.opened at entered
      cases named : ElementName.ofName tag.name <;> simp_all [Reading.heading]
  · rw [title]
    split <;> simp

theorem heads_closed (titled : reading.Titled) (name : List Char) :
    Heads reading (reading.closed name) (reading.heading.closed name) [] := by
  obtain ⟨heading, title⟩ : (reading.closed name).heading = reading.heading.closed name ∧ _ :=
    heading_closed name
  refine { heading, titled := fun inside => ?_, title := ?_ }
  · rw [title]
    apply titled
    have entered : (reading.heading.closed name).inTitle = true := by
      rw [← heading]
      exact inside
    unfold Heading.closed at entered
    cases named : ElementName.ofName name <;> simp_all [Reading.heading]
  · rw [title]
    simp

theorem heads_characters (titled : reading.Titled) (content : List Char) :
    Heads reading (reading.characters content) reading.heading
      (if reading.inTitle then [content] else []) := by
  cases inside : reading.inTitle with
  | false =>
      have same : reading.characters content = reading := by rw [characters, inside]
      rw [same]
      exact .refl titled
  | true =>
      obtain ⟨title, known⟩ := Option.isSome_iff_exists.mp (titled inside)
      have longer : reading.characters content = { reading with
          declaration := { reading.declaration with
            title := some (title ++ String.ofList (Text.trim content)) } } := by
        rw [characters, inside, known]
      rw [longer]
      exact { heading := rfl, titled := fun _ => rfl, title := by simp [known] }

def content? : Event → Option (List Char)
  | .text source => (unescape source).toOption
  | .cdata content => some content
  | _ => none

def titlePieces : Heading → List Event → List (List Char)
  | _, [] => []
  | heading, event :: events =>
    (if heading.inTitle then (content? event).toList else []) ++
      titlePieces (heading.after event) events

theorem heads_step (titled : reading.Titled) (read : reading.step event = .ok next) :
    Heads reading next (reading.heading.after event)
      (if reading.inTitle then (content? event).toList else []) := by
  have nothing : (if reading.inTitle then (none : Option (List Char)).toList else []) = [] :=
    ite_self _
  cases event with
  | start tag =>
      show Heads reading next (reading.heading.opened tag.name) (if _ then none.toList else [])
      rw [nothing]
      exact heads_opened titled read
  | empty tag =>
      obtain ⟨between, opened, rfl⟩ := map_eq_ok read
      have first := heads_opened titled opened
      have second := heads_closed first.titled tag.name
      refine { heading := ?_, titled := second.titled, title := ?_ }
      · rw [second.heading, first.heading, Heading.closed_opened]
        rfl
      · rw [second.title, first.title]
        show _ = _ ++ String.ofList (List.flatMap Text.trim (if _ then none.toList else []))
        rw [nothing]
        simp
  | stop name =>
      obtain rfl := Except.ok.inj read
      show Heads reading _ (reading.heading.closed name) (if _ then none.toList else [])
      rw [nothing]
      exact heads_closed titled name
  | text source =>
      obtain ⟨content, unescaped, rfl⟩ := map_eq_ok read
      rw [content?, unescaped]
      exact heads_characters titled content
  | cdata content =>
      obtain rfl := Except.ok.inj read
      exact heads_characters titled content
  | _ =>
      obtain rfl := Except.ok.inj read
      show Heads reading reading reading.heading (if _ then none.toList else [])
      rw [nothing]
      exact .refl titled

theorem heads_run (titled : reading.Titled) (read : events.foldlM step reading = .ok next) :
    Heads reading next (events.foldl Heading.after reading.heading)
      (titlePieces reading.heading events) := by
  induction events generalizing reading with
  | nil =>
      obtain rfl := Except.ok.inj read
      exact .refl titled
  | cons event events ih =>
      rw [List.foldlM_cons] at read
      obtain ⟨between, stepped, read⟩ := bind_eq_ok read
      have first := heads_step titled stepped
      have rest := ih first.titled read
      rw [first.heading] at rest
      refine { heading := rest.heading, titled := rest.titled, title := ?_ }
      rw [rest.title, first.title, titlePieces, List.flatMap_append, String.ofList_append,
        String.append_assoc]
      rfl

section Untitled

def untitled (reading : Reading) : Reading :=
  reading.elsewhere id fun declaration =>
    { declaration with title := declaration.title.map fun _ => "" }

theorem untitled_characters (content : List Char) :
    (reading.characters content).untitled = reading.untitled := by
  unfold characters
  split
  · rename_i known
    simp [untitled, elsewhere, known]
  · rfl

theorem opened_untitled : (reading.opened tag).map untitled = reading.untitled.opened tag :=
  (opened_elsewhere id _ (fun _ _ => rfl)
    (fun _ _ => by cases known : reading.declaration.title <;> simp) (fun _ => rfl)
    fun _ => Iff.rfl).symm

theorem closed_untitled (name : List Char) :
    (reading.closed name).untitled = reading.untitled.closed name :=
  (closed_elsewhere id _ name fun _ => rfl).symm

theorem text_untitled (source : List Char) : (reading.step (.text source)).map untitled =
    (unescape source).map fun _ => reading.untitled := by
  rw [step]
  cases unescape source with
  | error error => rfl
  | ok content => exact congrArg Except.ok (untitled_characters content)

variable {other : Reading}

theorem step_untitled (same : reading.untitled = other.untitled) :
    (reading.step event).map untitled = (other.step event).map untitled := by
  cases event with
  | start tag => rw [step, step, opened_untitled, opened_untitled, same]
  | empty tag =>
      have closes (reading : Reading) : ((reading.opened tag).map (·.closed tag.name)).map untitled =
          ((reading.opened tag).map untitled).map (·.closed tag.name) := by
        cases reading.opened tag with
        | error error => rfl
        | ok between => exact congrArg Except.ok (closed_untitled tag.name)
      rw [step, step, closes, closes, opened_untitled, opened_untitled, same]
  | stop name =>
      refine congrArg Except.ok ?_
      rw [closed_untitled, closed_untitled, same]
  | text source => rw [text_untitled, text_untitled, same]
  | cdata content =>
      refine congrArg Except.ok ?_
      rw [untitled_characters, untitled_characters, same]
  | _ => exact congrArg Except.ok same

theorem run_untitled (same : reading.untitled = other.untitled) :
    (events.foldlM step reading).map untitled = (events.foldlM step other).map untitled := by
  induction events generalizing reading other with
  | nil => exact congrArg Except.ok same
  | cons event events ih =>
      rw [List.foldlM_cons, List.foldlM_cons]
      exact map_bind_congr (step_untitled same) fun _ _ same => ih same

end Untitled

end Reading

end TiledStream
