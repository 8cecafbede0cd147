import TiledStream.Proofs.Manifest.Headings
import TiledStream.Proofs.Manifest.Interchange
import TiledStream.Proofs.Manifest.LaterPeriods

/-! What a template makes of a reading, and which events read alike whatever templates and
representations the set around them has. -/

namespace TiledStream

open Markup (Attributes Event Tag openAfter openElements openElements_cons unescape)

namespace Reading

variable {reading next : Reading} {tag : Tag} {event : Event} {events : List Event}

section Inside

variable {kind : ElementName} {opened left : List (List Char)}

theorem inside_step (covered : reading.isInside kind = true → kind ∈ opened.map ElementName.ofName)
    (ran : openAfter opened event = .ok left) (read : reading.step event = .ok next)
    (inside : next.isInside kind = true) : kind ∈ left.map ElementName.ofName := by
  rcases inside_cases ran read inside with ⟨name, rfl, rfl, _⟩ | ⟨before, stays⟩
  · exact .head _
  · obtain ⟨name, member, named⟩ := List.mem_map.mp (covered before)
    obtain ⟨inner, outer, rfl⟩ := List.append_of_mem member
    have still := stays name outer named (List.suffix_append _ _)
    exact List.mem_map.mpr ⟨name, still.mem (.head _), named⟩

theorem inside_run (covered : reading.isInside kind = true → kind ∈ opened.map ElementName.ofName)
    (ran : openElements events opened = .ok left) (read : events.foldlM step reading = .ok next)
    (inside : next.isInside kind = true) : kind ∈ left.map ElementName.ofName := by
  induction events generalizing reading opened with
  | nil =>
      obtain rfl := Except.ok.inj ran
      obtain rfl := Except.ok.inj read
      exact covered inside
  | cons event events ih =>
      rw [openElements_cons] at ran
      obtain ⟨between, first, ran⟩ := bind_eq_ok ran
      rw [List.foldlM_cons] at read
      obtain ⟨after, stepped, read⟩ := bind_eq_ok read
      exact ih (inside_step covered first stepped) ran read

/-- Elements that are closed where they were opened lead inside of nothing. -/
theorem outside_run (closed : openElements events [] = .ok [])
    (outside : reading.isInside kind = false) (read : events.foldlM step reading = .ok next) :
    next.isInside kind = false := by
  have nothing : reading.isInside kind = true →
      kind ∈ ([] : List (List Char)).map ElementName.ofName := by
    intro inside
    rw [outside] at inside
    exact nomatch inside
  cases inside : next.isInside kind with
  | false => rfl
  | true => exact nomatch inside_run nothing closed read inside

end Inside

section Holding

def isPlain : Event → Bool
  | .start tag | .empty tag =>
    ElementName.ofName tag.name ∉ [.adaptationSet, .representation, .template]
  | .stop name => ElementName.ofName name ∉ [.adaptationSet, .representation, .template]
  | _ => true

theorem isPlain_stop {name : List Char} (plain : isPlain event = true) (ends : name ∈ ended? event) :
    isPlain (.stop name) = true := by
  cases event with
  | empty tag =>
      obtain rfl := Option.some.inj ends
      exact plain
  | stop other =>
      obtain rfl := Option.some.inj ends
      exact plain
  | _ => exact nomatch ends

def holding (reading : Reading) (template : Option Attributes)
    (representations : List DeclaredRepresentation) (current : Option DeclaredRepresentation) :
    Reading :=
  { reading with
    currentSet := reading.currentSet.map fun set => { set with template, representations }
    currentRepresentation := current }

variable (template : Option Attributes) (representations : List DeclaredRepresentation)
  (current : Option DeclaredRepresentation)

theorem opened_holding (plain : isPlain (.start tag) = true) :
    (reading.holding template representations current).opened tag =
      (reading.opened tag).map (·.holding template representations current) := by
  unfold isPlain at plain
  unfold opened
  cases named : ElementName.ofName tag.name with
  | presentation => cases tag.readAttributes <;> rfl
  | title => cases reading with | mk _ _ inInformation => cases inInformation <;> rfl
  | property =>
      cases reading with
      | mk _ _ _ _ currentSet =>
          cases currentSet with
          | none => rfl
          | some set =>
              cases tag.readAttributes with
              | error error => rfl
              | ok attributes =>
                  change Except.ok _ = Except.ok _
                  unfold holding addProperty
                  cases attributes.value? "value" <;> rfl
  | adaptationSet | representation | template => simp [named] at plain
  | _ => rfl

theorem closed_holding {name : List Char} (plain : isPlain (.stop name) = true) :
    (reading.holding template representations current).closed name =
      (reading.closed name).holding template representations current := by
  unfold isPlain at plain
  unfold closed
  cases named : ElementName.ofName name with
  | adaptationSet | representation => simp [named] at plain
  | _ => rfl

theorem characters_holding (content : List Char) :
    (reading.holding template representations current).characters content =
      (reading.characters content).holding template representations current := by
  let view (reading : Reading) : Reading := reading.holding template representations current
  change (view reading).characters content = view (reading.characters content)
  exact characters_view rfl rfl (fun _ => rfl) content

theorem step_holding (plain : isPlain event = true) :
    (reading.holding template representations current).step event =
      (reading.step event).map (·.holding template representations current) := by
  let view (reading : Reading) : Reading := reading.holding template representations current
  change (view reading).step event = (reading.step event).map view
  apply step_view
  · intro tag begins
    apply opened_holding
    rcases begins with rfl | rfl <;> exact plain
  · intro reading name ends
    exact closed_holding _ _ _ (isPlain_stop plain ends)
  · intro content
    apply characters_holding

theorem run_holding (plain : ∀ event ∈ events, isPlain event = true) :
    events.foldlM step (reading.holding template representations current) =
      (events.foldlM step reading).map (·.holding template representations current) := by
  let view (reading : Reading) : Reading := reading.holding template representations current
  change events.foldlM step (view reading) = (events.foldlM step reading).map view
  exact run_view (fun _ (_ : True) event member => step_holding _ _ _ (plain event member))
    (fun _ _ _ _ _ _ => trivial) trivial

theorem inSet_opened (plain : isPlain (.start tag) = true) (read : reading.opened tag = .ok next) :
    next.currentSet.isSome = reading.currentSet.isSome := by
  unfold isPlain at plain
  unfold opened at read
  cases named : ElementName.ofName tag.name <;> simp only [named] at read
  case presentation =>
    obtain ⟨attributes, _, same⟩ := bind_eq_ok read
    obtain rfl := Except.ok.inj same
    rfl
  case title =>
    split at read
    · obtain rfl := Except.ok.inj read
      rfl
    · obtain rfl := Except.ok.inj read
      rfl
  case property =>
    split at read
    · rename_i set current
      obtain ⟨attributes, _, same⟩ := bind_eq_ok read
      obtain rfl := Except.ok.inj same
      rw [current]
      rfl
    · obtain rfl := Except.ok.inj read
      rfl
  case adaptationSet | representation | template => simp [named] at plain
  all_goals
    obtain rfl := Except.ok.inj read
    rfl

theorem inSet_closed {name : List Char} (plain : isPlain (.stop name) = true) :
    (reading.closed name).currentSet.isSome = reading.currentSet.isSome := by
  unfold isPlain at plain
  unfold closed
  cases named : ElementName.ofName name with
  | adaptationSet | representation => simp [named] at plain
  | _ => rfl

theorem inSet_characters (content : List Char) :
    (reading.characters content).currentSet.isSome = reading.currentSet.isSome := by
  unfold characters
  split <;> rfl

theorem inSet_step (plain : isPlain event = true) (read : reading.step event = .ok next) :
    next.currentSet.isSome = reading.currentSet.isSome := by
  let Fits (other : Reading) : Prop := other.currentSet.isSome = reading.currentSet.isSome
  change Fits next
  refine step_keeps rfl ?_ ?_ inSet_characters read
  · intro tag between begins opened
    refine inSet_opened ?_ opened
    rcases begins with rfl | rfl <;> exact plain
  · intro between kept name ends
    exact (inSet_closed (isPlain_stop plain ends)).trans kept

theorem inSet_run (plain : ∀ event ∈ events, isPlain event = true)
    (read : events.foldlM step reading = .ok next) :
    next.currentSet.isSome = reading.currentSet.isSome := by
  induction events generalizing reading with
  | nil =>
      obtain rfl := Except.ok.inj read
      rfl
  | cons event events ih =>
      rw [List.foldlM_cons] at read
      obtain ⟨between, stepped, read⟩ := bind_eq_ok read
      rw [ih (fun other member => plain other (.tail _ member)) read,
        inSet_step (plain event (.head _)) stepped]

end Holding

def isUnnoted : Event → Bool
  | .start tag | .empty tag => ElementName.ofName tag.name = .other
  | .stop name => ElementName.ofName name = .other
  | .text source => (unescape source).isOk
  | _ => true

theorem step_unnoted (outside : reading.inTitle = false) (unnoted : isUnnoted event = true) :
    reading.step event = .ok reading := by
  cases event with
  | start tag =>
      have named : ElementName.ofName tag.name = .other := by simpa [isUnnoted] using unnoted
      rw [step, opened, named]
  | empty tag =>
      have named : ElementName.ofName tag.name = .other := by simpa [isUnnoted] using unnoted
      rw [step, opened, named]
      change Except.ok (reading.closed tag.name) = _
      rw [closed, named]
  | stop name =>
      have named : ElementName.ofName name = .other := by simpa [isUnnoted] using unnoted
      rw [step, closed, named]
  | text source =>
      obtain ⟨content, read⟩ := exists_of_isOk unnoted
      rw [step, read]
      exact congrArg Except.ok (characters_outside outside content)
  | cdata content => exact congrArg Except.ok (characters_outside outside content)
  | _ => rfl

theorem run_unnoted (outside : reading.inTitle = false)
    (unnoted : ∀ event ∈ events, isUnnoted event = true) :
    events.foldlM step reading = .ok reading := by
  induction events with
  | nil => rfl
  | cons event events ih =>
      rw [List.foldlM_cons, step_unnoted outside (unnoted event (.head _))]
      exact ih fun other member => unnoted other (.tail _ member)

end Reading

/-- The events of one template with attributes that agree with the given ones, and with nothing
inside that is taken note of. -/
inductive IsTemplate (attributes : Attributes) : List Event → Prop
  | empty {tag : Tag} {found : Attributes} (named : ElementName.ofName tag.name = .template)
      (read : tag.readAttributes = .ok found) (agree : Agree found attributes) :
      IsTemplate attributes [.empty tag]
  | whole {tag : Tag} {found : Attributes} {inner : List Event}
      (named : ElementName.ofName tag.name = .template) (read : tag.readAttributes = .ok found)
      (agree : Agree found attributes) (closed : openElements inner [] = .ok [])
      (unnoted : ∀ event ∈ inner, Reading.isUnnoted event = true) :
      IsTemplate attributes (.start tag :: (inner ++ [.stop tag.name]))

namespace IsTemplate

variable {attributes : Attributes} {events : List Event}

theorem element (template : IsTemplate attributes events) : IsElement .template events := by
  cases template with
  | empty named _ _ => exact .empty named
  | whole named _ _ closed _ => exact .whole named closed

theorem run (template : IsTemplate attributes events) :
    ∃ found, Agree found attributes ∧ ∀ reading : Reading, reading.inTitle = false →
      events.foldlM Reading.step reading = .ok (reading.addTemplate found) := by
  have kept {name : List Char} (named : ElementName.ofName name = .template) (reading : Reading) :
      reading.closed name = reading := by
    rw [Reading.closed, named]
  cases template with
  | @empty tag found named read agree =>
      refine ⟨found, agree, ?_⟩
      intro reading _
      rw [List.foldlM_cons, Reading.step, Reading.opened, named]
      simp only [read]
      exact congrArg Except.ok (kept named _)
  | @whole tag found inner named read agree closed unnoted =>
      refine ⟨found, agree, ?_⟩
      intro reading outside
      have still : (reading.addTemplate found).inTitle = false := by
        unfold Reading.addTemplate
        split <;> exact outside
      have begins : reading.step (.start tag) = .ok (reading.addTemplate found) := by
        rw [Reading.step, Reading.opened, named]
        simp only [read]
        rfl
      rw [List.foldlM_cons, begins]
      change (inner ++ [Event.stop tag.name]).foldlM Reading.step (reading.addTemplate found) = _
      rw [List.foldlM_append, Reading.run_unnoted still unnoted]
      exact congrArg Except.ok (kept named _)

end IsTemplate

end TiledStream
