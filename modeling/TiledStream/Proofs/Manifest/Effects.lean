import TiledStream.Proofs.Manifest.Views
import TiledStream.Proofs.Markup.Joined

/-! What the elements of a document make of a reading: which elements it is inside of, and what does
not depend on the place in the document. -/

namespace TiledStream

open Markup (Event Tag openAfter openElements openElements_cons)

def begun? : Event → Option ElementName
  | .start tag | .empty tag => some (ElementName.ofName tag.name)
  | _ => none

def begun (events : List Event) : List ElementName := events.filterMap begun?

theorem begun_cons (event : Event) (events : List Event) :
    begun (event :: events) = begun [event] ++ begun events := by
  rw [begun, ← List.singleton_append, List.filterMap_append]
  rfl

def ElementName.isGlobal : ElementName → Bool
  | .presentation | .information | .period => true
  | _ => false

/-- The kind of element within which alone an element of some kind is taken note of, if there is one. -/
def ElementName.container? : ElementName → Option ElementName
  | .title => some .information
  | .representation => some .adaptationSet
  | _ => none

namespace Reading

variable {reading next : Reading} {tag : Tag} {event : Event} {events : List Event}

section Nesting

def isInside (reading : Reading) : ElementName → Bool
  | .information => reading.inInformation
  | .title => reading.inTitle
  | .adaptationSet => reading.currentSet.isSome
  | .representation => reading.currentRepresentation.isSome
  | _ => false

structure Opens (reading : Reading) (kind : ElementName) (next : Reading) : Prop where
  inside : ∀ entered, next.isInside entered = true → reading.isInside entered = true ∨
    entered = kind ∧ ∀ container ∈ kind.container?, reading.isInside container = true
  periods : next.periods = reading.periods + [kind].count .period

theorem opens_same {kind : ElementName} (same : kind ≠ .period) : reading.Opens kind reading where
  inside _ inside := .inl inside
  periods := by simp [same]

theorem opens_of_opened (read : reading.opened tag = .ok next) :
    reading.Opens (ElementName.ofName tag.name) next := by
  unfold opened at read
  cases named : ElementName.ofName tag.name <;> simp only [named] at read
  case presentation =>
    obtain ⟨attributes, _, same⟩ := bind_eq_ok read
    obtain rfl := Except.ok.inj same
    exact { inside := fun _ inside => .inl inside, periods := rfl }
  case information =>
    obtain rfl := Except.ok.inj read
    refine { inside := fun entered inside => ?_, periods := rfl }
    cases entered <;> simp_all [isInside, ElementName.container?]
  case title =>
    by_cases titled : reading.inInformation = true
    · rw [if_pos titled] at read
      obtain rfl := Except.ok.inj read
      refine { inside := fun entered inside => ?_, periods := rfl }
      cases entered <;> simp_all [isInside, ElementName.container?]
    · rw [if_neg titled] at read
      obtain rfl := Except.ok.inj read
      exact opens_same (by decide)
  case period =>
    obtain rfl := Except.ok.inj read
    exact { inside := fun _ inside => .inl inside, periods := rfl }
  case adaptationSet =>
    by_cases first : reading.periods = 1
    · rw [if_pos first] at read
      obtain ⟨attributes, _, same⟩ := bind_eq_ok read
      obtain rfl := Except.ok.inj same
      refine { inside := fun entered inside => ?_, periods := rfl }
      cases entered <;> simp_all [isInside, ElementName.container?]
    · rw [if_neg first] at read
      obtain rfl := Except.ok.inj read
      exact opens_same (by decide)
  case property =>
    cases set : reading.currentSet with
    | none =>
        rw [set] at read
        obtain rfl := Except.ok.inj read
        exact opens_same (by decide)
    | some current =>
        rw [set] at read
        obtain ⟨attributes, _, same⟩ := bind_eq_ok read
        obtain rfl := Except.ok.inj same
        refine { inside := fun entered inside => ?_, periods := rfl }
        cases entered <;> simp_all [isInside, ElementName.container?]
  case representation =>
    cases set : reading.currentSet with
    | none =>
        rw [set] at read
        obtain rfl := Except.ok.inj read
        exact opens_same (by decide)
    | some current =>
        rw [set] at read
        obtain ⟨attributes, _, same⟩ := bind_eq_ok read
        obtain rfl := Except.ok.inj same
        refine { inside := fun entered inside => ?_, periods := rfl }
        cases entered <;> simp_all [isInside, ElementName.container?]
  case template =>
    obtain ⟨attributes, _, same⟩ := bind_eq_ok read
    obtain rfl := Except.ok.inj same
    unfold addTemplate
    split
    · refine { inside := fun entered inside => ?_, periods := rfl }
      cases entered <;> simp_all [isInside, ElementName.container?]
    · refine { inside := fun entered inside => ?_, periods := rfl }
      cases entered <;> simp_all [isInside, ElementName.container?]
    · exact opens_same (by decide)
  case other =>
    obtain rfl := Except.ok.inj read
    exact opens_same (by decide)

theorem isInside_closed {kind : ElementName} {name : List Char}
    (inside : (reading.closed name).isInside kind = true) :
    kind ≠ ElementName.ofName name ∧ reading.isInside kind = true := by
  unfold closed at inside
  split at inside
  · cases kind <;> simp_all [isInside]
  · cases kind <;> simp_all [isInside]
  · split at inside <;> cases kind <;> simp_all [isInside]
  · split at inside <;> cases kind <;> simp_all [isInside]
  · refine ⟨?_, inside⟩
    rintro rfl
    unfold isInside at inside
    split at inside <;> simp_all

theorem periods_closed (name : List Char) : (reading.closed name).periods = reading.periods := by
  unfold closed
  split
  · rfl
  · rfl
  · split <;> rfl
  · split <;> rfl
  · rfl

theorem isInside_characters {kind : ElementName} (content : List Char) :
    (reading.characters content).isInside kind = reading.isInside kind := by
  unfold characters
  split <;> cases kind <;> rfl

/-- A reading is inside such elements only as are open, and inside each within its container. -/
def Within (reading : Reading) (opened : List (List Char)) : Prop :=
  ∀ kind, reading.isInside kind = true → ∃ name outer, name :: outer <:+ opened ∧
    ElementName.ofName name = kind ∧
    ∀ container ∈ kind.container?, container ∈ outer.map ElementName.ofName

theorem Within.mem {opened : List (List Char)} (within : reading.Within opened) {kind : ElementName}
    (inside : reading.isInside kind = true) : kind ∈ opened.map ElementName.ofName := by
  obtain ⟨name, outer, suffix, rfl, _⟩ := within kind inside
  exact List.mem_map_of_mem (suffix.mem (.head _))

theorem inside_cases {opened left : List (List Char)} {kind : ElementName}
    (ran : openAfter opened event = .ok left) (read : reading.step event = .ok next)
    (inside : next.isInside kind = true) :
    (∃ name, left = name :: opened ∧ ElementName.ofName name = kind ∧
      ∀ container ∈ kind.container?, reading.isInside container = true) ∨
    reading.isInside kind = true ∧ ∀ name outer, ElementName.ofName name = kind →
      name :: outer <:+ opened → name :: outer <:+ left := by
  cases event with
  | start tag =>
      obtain rfl := Except.ok.inj ran
      rcases (opens_of_opened read).inside kind inside with before | ⟨rfl, contained⟩
      · exact .inr ⟨before, fun _ _ _ suffix => suffix.trans (List.suffix_cons _ _)⟩
      · exact .inl ⟨tag.name, rfl, rfl, contained⟩
  | empty tag =>
      obtain rfl := Except.ok.inj ran
      obtain ⟨between, begun, rfl⟩ := map_eq_ok read
      obtain ⟨different, before⟩ := isInside_closed inside
      refine .inr ⟨?_, fun _ _ _ suffix => suffix⟩
      exact ((opens_of_opened begun).inside kind before).resolve_right
        fun entered => different entered.1
  | stop name =>
      obtain rfl := Except.ok.inj read
      -- Closing forgets all elements of one kind, so that one still entered is not the innermost.
      obtain ⟨different, before⟩ := isInside_closed inside
      refine .inr ⟨before, fun entered outer named suffix => ?_⟩
      cases opened with
      | nil => simp at suffix
      | cons innermost outermost =>
          rw [openAfter] at ran
          by_cases same : name = innermost
          · subst same
            rw [if_pos rfl] at ran
            obtain rfl := Except.ok.inj ran
            refine (List.suffix_cons_iff.mp suffix).resolve_left fun whole => ?_
            obtain ⟨rfl, _⟩ := List.cons.inj whole
            exact different named.symm
          · rw [if_neg same] at ran
            simp at ran
  | text source =>
      obtain rfl := Except.ok.inj ran
      obtain ⟨content, _, rfl⟩ := map_eq_ok read
      rw [isInside_characters] at inside
      exact .inr ⟨inside, fun _ _ _ suffix => suffix⟩
  | cdata content =>
      obtain rfl := Except.ok.inj ran
      obtain rfl := Except.ok.inj read
      rw [isInside_characters] at inside
      exact .inr ⟨inside, fun _ _ _ suffix => suffix⟩
  | _ =>
      obtain rfl := Except.ok.inj ran
      obtain rfl := Except.ok.inj read
      exact .inr ⟨inside, fun _ _ _ suffix => suffix⟩

theorem within_step {opened left : List (List Char)} (within : reading.Within opened)
    (ran : openAfter opened event = .ok left) (read : reading.step event = .ok next) :
    next.Within left := by
  intro kind inside
  rcases inside_cases ran read inside with ⟨name, rfl, named, contained⟩ | ⟨before, stays⟩
  · exact ⟨name, opened, List.suffix_refl _, named,
      fun container member => within.mem (contained container member)⟩
  · obtain ⟨name, outer, suffix, named, contained⟩ := within kind before
    exact ⟨name, outer, stays name outer named suffix, named, contained⟩

theorem within_run {opened left : List (List Char)} (within : reading.Within opened)
    (ran : openElements events opened = .ok left) (read : events.foldlM step reading = .ok next) :
    next.Within left := by
  induction events generalizing reading opened with
  | nil =>
      obtain rfl := Except.ok.inj ran
      obtain rfl := Except.ok.inj read
      exact within
  | cons event events ih =>
      rw [openElements_cons] at ran
      obtain ⟨between, first, ran⟩ := bind_eq_ok ran
      rw [List.foldlM_cons] at read
      obtain ⟨after, stepped, read⟩ := bind_eq_ok read
      exact ih (within_step within first stepped) ran read

theorem within_start : start.Within [] := by
  intro kind inside
  cases kind <;> simp [start, isInside] at inside

theorem within_of_read {opened : List (List Char)} (ran : openElements events [] = .ok opened)
    (read : events.foldlM step start = .ok reading) : reading.Within opened :=
  within_run within_start ran read

def Quiet (reading : Reading) : Prop := ∀ kind, reading.isInside kind = false

theorem quiet_of_within {opened : List (List Char)} (within : reading.Within opened)
    (outside : ∀ kind ∈ opened.map ElementName.ofName, kind ∉ [.adaptationSet, .information]) :
    reading.Quiet := by
  intro kind
  cases inside : reading.isInside kind with
  | false => rfl
  | true =>
      obtain ⟨name, outer, suffix, named, contained⟩ := within kind inside
      have around {container : ElementName} (member : container ∈ kind.container?) :
          container ∈ opened.map ElementName.ofName :=
        (suffix.map _).mem (List.mem_cons_of_mem _ (contained container member))
      cases kind with
      | information => exact absurd (.tail _ (.head _)) (outside _ (within.mem inside))
      | adaptationSet => exact absurd (.head _) (outside _ (within.mem inside))
      | title => exact absurd (.tail _ (.head _)) (outside _ (around rfl))
      | representation => exact absurd (.head _) (outside _ (around rfl))
      | _ => simp [isInside] at inside

end Nesting

theorem periods_step (read : reading.step event = .ok next) :
    next.periods = reading.periods + (begun [event]).count .period := by
  cases event with
  | start tag => exact (opens_of_opened read).periods
  | empty tag =>
      obtain ⟨between, opened, same⟩ := map_eq_ok read
      rw [← same, periods_closed]
      exact (opens_of_opened opened).periods
  | stop name =>
      obtain rfl := Except.ok.inj read
      exact periods_closed name
  | text source =>
      obtain ⟨content, _, same⟩ := map_eq_ok read
      rw [← same, characters]
      split <;> rfl
  | cdata content =>
      obtain rfl := Except.ok.inj read
      rw [characters]
      split <;> rfl
  | _ =>
      obtain rfl := Except.ok.inj read
      rfl

theorem periods_run (read : events.foldlM step reading = .ok next) :
    next.periods = reading.periods + (begun events).count .period := by
  induction events generalizing reading with
  | nil =>
      obtain rfl := Except.ok.inj read
      rfl
  | cons event events ih =>
      rw [List.foldlM_cons] at read
      obtain ⟨between, stepped, read⟩ := bind_eq_ok read
      rw [ih read, periods_step stepped, begun_cons event events, List.count_append, Nat.add_assoc]

theorem periods_of_read (read : events.foldlM step start = .ok reading) :
    reading.periods = (begun events).count .period :=
  (periods_run read).trans (Nat.zero_add _)

section Behind

def behind (reading : Reading) (earlier : List DeclaredSet) : Reading :=
  { reading with
    declaration := { reading.declaration with sets := earlier ++ reading.declaration.sets } }

variable (earlier : List DeclaredSet)

theorem opened_behind :
    (reading.behind earlier).opened tag = (reading.opened tag).map (·.behind earlier) :=
  opened_elsewhere id (fun declaration => { declaration with sets := earlier ++ declaration.sets })
    (fun _ _ => rfl) (fun _ _ => rfl) (fun _ => rfl) fun _ => Iff.rfl

theorem closed_behind (name : List Char) :
    (reading.behind earlier).closed name = (reading.closed name).behind earlier := by
  apply closed_elsewhere id fun declaration =>
    { declaration with sets := earlier ++ declaration.sets }
  intro set
  simp

theorem characters_behind (content : List Char) :
    (reading.behind earlier).characters content = (reading.characters content).behind earlier := by
  let view (reading : Reading) : Reading := reading.behind earlier
  change (view reading).characters content = view (reading.characters content)
  exact characters_view rfl rfl (fun _ => rfl) content

theorem step_behind :
    (reading.behind earlier).step event = (reading.step event).map (·.behind earlier) := by
  let view (reading : Reading) : Reading := reading.behind earlier
  change (view reading).step event = (reading.step event).map view
  exact step_view (fun _ _ => opened_behind earlier) (fun _ name _ => closed_behind earlier name)
    (characters_behind earlier)

/-- What was declared earlier makes no difference to what is declared later. -/
theorem run_behind : events.foldlM step (reading.behind earlier) =
    (events.foldlM step reading).map (·.behind earlier) := by
  let view (reading : Reading) : Reading := reading.behind earlier
  change events.foldlM step (view reading) = (events.foldlM step reading).map view
  exact run_view (fun _ (_ : True) _ _ => step_behind earlier) (fun _ _ _ _ _ _ => trivial) trivial

end Behind

section Beside

def beside (reading place : Reading) : Reading :=
  { reading with
    periods := place.periods
    declaration :=
      { reading.declaration with
        root := place.declaration.root
        title := place.declaration.title } }

def Untitled (reading : Reading) : Prop := reading.inInformation = false ∧ reading.inTitle = false

theorem untitled_opened (untitled : reading.Untitled)
    (part : (ElementName.ofName tag.name).isGlobal = false) (read : reading.opened tag = .ok next) :
    next.Untitled := by
  have inside := (opens_of_opened read).inside
  constructor
  · cases entered : next.inInformation with
    | false => rfl
    | true =>
        rcases inside .information entered with before | ⟨same, _⟩
        · exact before.symm.trans untitled.1
        · simp [← same, ElementName.isGlobal] at part
  · cases entered : next.inTitle with
    | false => rfl
    | true =>
        rcases inside .title entered with before | ⟨same, contained⟩
        · exact before.symm.trans untitled.2
        · rw [← same] at contained
          exact (contained .information rfl).symm.trans untitled.1

variable {place : Reading} (same : place.periods = 1 ↔ reading.periods = 1)

include same in
theorem opened_beside (untitled : reading.Untitled)
    (part : (ElementName.ofName tag.name).isGlobal = false) :
    (reading.beside place).opened tag = (reading.opened tag).map (·.beside place) := by
  apply opened_elsewhere (fun _ => place.periods) fun declaration =>
    { declaration with root := place.declaration.root, title := place.declaration.title }
  · intro named
    simp [named, ElementName.isGlobal] at part
  · intro _ inside
    exact absurd (untitled.1.symm.trans inside) Bool.false_ne_true
  · intro named
    simp [named, ElementName.isGlobal] at part
  · exact fun _ => same

theorem closed_beside (name : List Char) :
    (reading.beside place).closed name = (reading.closed name).beside place :=
  closed_elsewhere (fun _ => place.periods)
    (fun declaration =>
      { declaration with root := place.declaration.root, title := place.declaration.title })
    name fun _ => rfl

theorem untitled_closed (untitled : reading.Untitled) (name : List Char) :
    (reading.closed name).Untitled := by
  unfold closed
  split
  · exact ⟨rfl, untitled.2⟩
  · exact ⟨untitled.1, rfl⟩
  · split <;> exact untitled
  · split <;> exact untitled
  · exact untitled

theorem untitled_step (untitled : reading.Untitled)
    (part : ∀ kind ∈ begun [event], kind.isGlobal = false) (read : reading.step event = .ok next) :
    next.Untitled := by
  refine step_keeps untitled ?_ ?_ ?_ read
  · intro tag between begins opened
    refine untitled_opened untitled ?_ opened
    rcases begins with rfl | rfl <;> exact part _ (.head _)
  · exact fun between untitled name _ => untitled_closed untitled name
  · intro content
    rwa [characters_outside untitled.2]

include same in
theorem step_beside (untitled : reading.Untitled)
    (part : ∀ kind ∈ begun [event], kind.isGlobal = false) :
    (reading.beside place).step event = (reading.step event).map (·.beside place) := by
  let view (reading : Reading) : Reading := reading.beside place
  have untitledView : (view reading).Untitled := untitled
  change (view reading).step event = (reading.step event).map view
  apply step_view
  · intro tag begins
    apply opened_beside same untitled
    rcases begins with rfl | rfl <;> exact part _ (.head _)
  · exact fun reading name _ => closed_beside name
  · intro content
    rw [characters_outside untitled.2, characters_outside untitledView.2]

include same in
/-- Elements that say nothing about the whole document are read alike at every place of it, as far as
the first period goes. -/
theorem run_beside (untitled : reading.Untitled)
    (part : ∀ kind ∈ begun events, kind.isGlobal = false) :
    events.foldlM step (reading.beside place) =
      (events.foldlM step reading).map (·.beside place) := by
  induction events generalizing reading with
  | nil => rfl
  | cons event events ih =>
      rw [begun_cons] at part
      have here : ∀ kind ∈ begun [event], kind.isGlobal = false :=
        fun kind member => part kind (List.mem_append_left _ member)
      rw [List.foldlM_cons, List.foldlM_cons, step_beside same untitled here]
      cases stepped : reading.step event with
      | error error => rfl
      | ok between =>
          have still : between.periods = reading.periods := by
            have none : ElementName.period ∉ begun [event] := fun member => nomatch here _ member
            rw [periods_step stepped, List.count_eq_zero.mpr none, Nat.add_zero]
          exact ih (by rw [still]; exact same) (untitled_step untitled here stepped)
            fun kind member => part kind (List.mem_append_right _ member)

end Beside

end Reading

end TiledStream
