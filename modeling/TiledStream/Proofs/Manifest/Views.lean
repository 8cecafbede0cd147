import TiledStream.Manifest.Declaration
import TiledStream.Proofs.Traverse

/-! Views of readings. A document is read on alike from a reading and from a view of it, if opening
and closing of elements and character data respect the view. -/

namespace TiledStream.Reading

open Markup (Event Tag unescape)

variable {reading next : Reading} {view : Reading → Reading} {tag : Tag} {event : Event}
  {events : List Event}

def ended? : Event → Option (List Char)
  | .empty tag => some tag.name
  | .stop name => some name
  | _ => none

/-- A view of readings that opening, closing and character data respect is respected by every
event. -/
theorem step_view
    (opens : ∀ tag, event = .start tag ∨ event = .empty tag →
      (view reading).opened tag = (reading.opened tag).map view)
    (closes : ∀ reading, ∀ name ∈ ended? event,
      (view reading).closed name = view (reading.closed name))
    (reads : ∀ content, (view reading).characters content = view (reading.characters content)) :
    (view reading).step event = (reading.step event).map view := by
  cases event with
  | start tag => exact opens tag (.inl rfl)
  | empty tag =>
      rw [step, step, opens tag (.inr rfl)]
      cases reading.opened tag with
      | error error => rfl
      | ok between => exact congrArg Except.ok (closes between tag.name rfl)
  | stop name => exact congrArg Except.ok (closes reading name rfl)
  | text source =>
      rw [step, step]
      cases unescape source with
      | error error => rfl
      | ok content => exact congrArg Except.ok (reads content)
  | cdata content => exact congrArg Except.ok (reads content)
  | _ => rfl

theorem characters_outside (outside : reading.inTitle = false) (content : List Char) :
    reading.characters content = reading := by
  rw [characters, outside]

theorem characters_of_title {title : String} (entered : reading.inTitle = true)
    (known : reading.declaration.title = some title) (content : List Char) :
    reading.characters content =
      { reading with
        declaration := { reading.declaration with
          title := some (title ++ String.ofList (Text.trim content)) } } := by
  unfold characters
  rw [entered, known]

theorem characters_view (inside : (view reading).inTitle = reading.inTitle)
    (same : (view reading).declaration.title = reading.declaration.title)
    (adds : ∀ title,
      { view reading with declaration := { (view reading).declaration with title := some title } } =
        view { reading with declaration := { reading.declaration with title := some title } })
    (content : List Char) :
    (view reading).characters content = view (reading.characters content) := by
  cases entered : reading.inTitle with
  | false => rw [characters_outside (inside.trans entered), characters_outside entered]
  | true =>
      cases known : reading.declaration.title with
      | none => rw [characters, characters, inside, same, entered, known]
      | some title =>
          rw [characters_of_title (inside.trans entered) (same.trans known),
            characters_of_title entered known]
          exact adds _

theorem step_keeps {Fits : Reading → Prop} (fits : Fits reading)
    (opens : ∀ tag between, event = .start tag ∨ event = .empty tag →
      reading.opened tag = .ok between → Fits between)
    (closes : ∀ between, Fits between → ∀ name ∈ ended? event, Fits (between.closed name))
    (reads : ∀ content, Fits (reading.characters content))
    (read : reading.step event = .ok next) : Fits next := by
  cases event with
  | start tag => exact opens tag next (.inl rfl) read
  | empty tag =>
      obtain ⟨between, opened, rfl⟩ := map_eq_ok read
      exact closes between (opens tag between (.inr rfl) opened) tag.name rfl
  | stop name =>
      obtain rfl := Except.ok.inj read
      exact closes reading fits name rfl
  | text source =>
      obtain ⟨content, _, rfl⟩ := map_eq_ok read
      exact reads content
  | cdata content =>
      obtain rfl := Except.ok.inj read
      exact reads content
  | _ =>
      obtain rfl := Except.ok.inj read
      exact fits

theorem run_view {Fits : Reading → Prop}
    (respects : ∀ reading, Fits reading → ∀ event ∈ events,
      (view reading).step event = (reading.step event).map view)
    (keeps : ∀ reading next, Fits reading → ∀ event ∈ events, reading.step event = .ok next →
      Fits next)
    (fits : Fits reading) :
    events.foldlM step (view reading) = (events.foldlM step reading).map view := by
  induction events generalizing reading with
  | nil => rfl
  | cons event events ih =>
      rw [List.foldlM_cons, List.foldlM_cons, respects reading fits event (.head _)]
      cases stepped : reading.step event with
      | error error => rfl
      | ok between =>
          exact ih (fun reading fits other member => respects reading fits other (.tail _ member))
            (fun reading next fits other member => keeps reading next fits other (.tail _ member))
            (keeps reading between fits event (.head _) stepped)

section Elsewhere

variable (count : Nat → Nat) (declare : Declaration → Declaration)

def elsewhere (reading : Reading) : Reading :=
  { reading with
    periods := count reading.periods
    declaration := declare reading.declaration }

/-- An element is opened alike at two places, if what it says about the whole document is noted alike
and the two agree on which period is the first. -/
theorem opened_elsewhere
    (root : ElementName.ofName tag.name = .presentation → ∀ attributes,
      declare { reading.declaration with root := some attributes } =
        { declare reading.declaration with root := some attributes })
    (title : ElementName.ofName tag.name = .title → reading.inInformation = true →
      declare { reading.declaration with title := some (reading.declaration.title.getD "") } =
        { declare reading.declaration with
          title := some ((declare reading.declaration).title.getD "") })
    (period : ElementName.ofName tag.name = .period →
      count (reading.periods + 1) = count reading.periods + 1)
    (first : ElementName.ofName tag.name = .adaptationSet →
      (count reading.periods = 1 ↔ reading.periods = 1)) :
    (reading.elsewhere count declare).opened tag =
      (reading.opened tag).map (elsewhere count declare) := by
  unfold opened
  cases named : ElementName.ofName tag.name with
  | presentation =>
      cases tag.readAttributes with
      | error error => rfl
      | ok attributes => simp [elsewhere, Except.map, bind, Except.bind, pure, Except.pure, root named]
  | information => rfl
  | title =>
      cases inside : reading.inInformation with
      | false => simp [elsewhere, Except.map, inside]
      | true => simp [elsewhere, Except.map, inside, title named inside]
  | period => simp [elsewhere, Except.map, period named]
  | adaptationSet =>
      by_cases here : reading.periods = 1
      · rw [if_pos here, if_pos (show (reading.elsewhere count declare).periods = 1 from
          (first named).mpr here)]
        cases tag.readAttributes <;> rfl
      · rw [if_neg here, if_neg (show (reading.elsewhere count declare).periods ≠ 1 from
          here ∘ (first named).mp)]
        rfl
  | property =>
      cases reading with
      | mk _ _ _ _ currentSet => cases currentSet <;> cases tag.readAttributes <;> rfl
  | representation =>
      cases reading with
      | mk _ _ _ _ currentSet => cases currentSet <;> cases tag.readAttributes <;> rfl
  | template =>
      cases reading with
      | mk _ _ _ _ currentSet currentRepresentation =>
          cases currentSet <;> cases currentRepresentation <;> cases tag.readAttributes <;> rfl
  | other => rfl

theorem closed_elsewhere (name : List Char)
    (adds : ∀ set, declare { reading.declaration with sets := reading.declaration.sets ++ [set] } =
      { declare reading.declaration with sets := (declare reading.declaration).sets ++ [set] }) :
    (reading.elsewhere count declare).closed name =
      (reading.closed name).elsewhere count declare := by
  unfold closed
  cases ElementName.ofName name with
  | representation =>
      cases reading with
      | mk _ _ _ _ currentSet currentRepresentation =>
          cases currentSet <;> cases currentRepresentation <;> rfl
  | adaptationSet =>
      cases inside : reading.currentSet with
      | none => simp [elsewhere, inside]
      | some set => simp [elsewhere, inside, adds]
  | _ => rfl

end Elsewhere

end TiledStream.Reading
