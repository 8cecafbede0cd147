import TiledStream.StreamError

/-! Computations that may fail, one after the other and along a list. -/

namespace TiledStream

variable {Error Source Target : Type}

theorem bind_eq_ok {first : Except Error Source} {following : Source → Except Error Target}
    {result : Target} (ran : (first >>= following) = .ok result) :
    ∃ item, first = .ok item ∧ following item = .ok result := by
  cases first with
  | error error => simp [bind, Except.bind] at ran
  | ok item => exact ⟨item, rfl, ran⟩

theorem map_eq_ok {first : Except Error Source} {view : Source → Target} {result : Target}
    (ran : first.map view = .ok result) : ∃ item, first = .ok item ∧ view item = result := by
  cases first with
  | error error => simp [Except.map] at ran
  | ok item => exact ⟨item, rfl, Except.ok.inj ran⟩

theorem map_bind_congr {View Shown : Type} {first second : Except Error Source}
    {view : Source → View} {following : Source → Except Error Target} {shown : Target → Shown}
    (same : first.map view = second.map view)
    (alike : ∀ one two, view one = view two →
      (following one).map shown = (following two).map shown) :
    (first >>= following).map shown = (second >>= following).map shown := by
  cases first with
  | error error =>
      cases second with
      | error other =>
          obtain rfl := Except.error.inj same
          rfl
      | ok two => simp [Except.map] at same
  | ok one =>
      obtain ⟨two, rfl, seen⟩ := map_eq_ok same.symm
      exact alike one two seen.symm

section Errors

variable {Shown : Type} {view : Error → Shown}

@[simp] theorem mapError_ok (item : Target) :
    (.ok item : Except Error Target).mapError view = .ok item := rfl

@[simp] theorem mapError_error (error : Error) :
    (.error error : Except Error Target).mapError view = .error (view error) := rfl

theorem mapError_eq_ok {first : Except Error Target} {result : Target} :
    first.mapError view = .ok result ↔ first = .ok result := by
  cases first <;> simp

theorem mapError_map {first : Except Error Source} (convert : Source → Target) :
    (first.map convert).mapError view = (first.mapError view).map convert := by
  cases first <;> rfl

/-- What goes on alike from equal results fails alike, as far as a view of errors shows. -/
theorem mapError_bind_congr {first second : Except Error Source}
    {following other : Source → Except Error Target}
    (same : first.mapError view = second.mapError view)
    (alike : ∀ item, first = .ok item →
      (following item).mapError view = (other item).mapError view) :
    (first >>= following).mapError view = (second >>= other).mapError view := by
  cases first with
  | ok item =>
      obtain rfl := mapError_eq_ok.mp same.symm
      exact alike item rfl
  | error error =>
      cases second with
      | ok item => simp at same
      | error later => exact congrArg Except.error (Except.error.inj same)

theorem mapError_map_bind_congr {View Seen : Type} {first second : Except Error Source}
    {following : Source → Except Error Target} {look : Source → View} {shown : Target → Seen}
    (same : (first.map look).mapError view = (second.map look).mapError view)
    (alike : ∀ one two, look one = look two →
      ((following one).map shown).mapError view = ((following two).map shown).mapError view) :
    ((first >>= following).map shown).mapError view =
      ((second >>= following).map shown).mapError view := by
  cases first with
  | ok one =>
      obtain ⟨two, rfl, seen⟩ := map_eq_ok (mapError_eq_ok.mp same.symm)
      exact alike one two seen.symm
  | error error =>
      cases second with
      | ok two => simp [Except.map] at same
      | error later => exact congrArg Except.error (Except.error.inj same)

end Errors

theorem mapM_eq_ok {convert : Source → Except Error Target} {items : List Source}
    {results : List Target} (mapped : items.mapM convert = .ok results) :
    results.length = items.length ∧
      ∀ (index : Nat) (result : Target), results[index]? = some result →
        ∃ item, items[index]? = some item ∧ convert item = .ok result := by
  induction items generalizing results with
  | nil =>
      obtain rfl : [] = results := by simpa [pure, Except.pure] using mapped
      simp
  | cons item items ih =>
      rw [List.mapM_cons] at mapped
      obtain ⟨result, first, mapped⟩ := bind_eq_ok mapped
      obtain ⟨rest, others, mapped⟩ := bind_eq_ok mapped
      obtain rfl : result :: rest = results := Except.ok.inj mapped
      obtain ⟨same_length, found⟩ := ih others
      refine ⟨by simp [same_length], ?_⟩
      intro index value at_index
      cases index with
      | zero =>
          obtain rfl : result = value := Option.some.inj at_index
          exact ⟨item, rfl, first⟩
      | succ index => exact found index value at_index

theorem exists_mapM_eq_ok {convert : Source → Except Error Target} {items : List Source}
    (each : ∀ item ∈ items, ∃ result, convert item = .ok result) :
    ∃ results, items.mapM convert = .ok results := by
  induction items with
  | nil => exact ⟨[], rfl⟩
  | cons item items ih =>
      obtain ⟨result, first⟩ := each item List.mem_cons_self
      obtain ⟨rest, others⟩ := ih fun other member => each other (List.mem_cons_of_mem item member)
      refine ⟨result :: rest, ?_⟩
      rw [List.mapM_cons, first, others]
      rfl

theorem getElem?_of_mapM {convert : Source → Except Error Target} {items : List Source}
    {results : List Target} (mapped : items.mapM convert = .ok results) {index : Nat} {item : Source}
    (found : items[index]? = some item) :
    ∃ result, results[index]? = some result ∧ convert item = .ok result := by
  obtain ⟨length, each⟩ := mapM_eq_ok mapped
  have bound : index < results.length := by
    rw [length]
    exact (List.getElem?_eq_some_iff.mp found).1
  have here := List.getElem?_eq_getElem bound
  obtain ⟨same, there, read⟩ := each index _ here
  obtain rfl := Option.some.inj (found.symm.trans there)
  exact ⟨_, here, read⟩

theorem exists_of_mapM_eq_ok {convert : Source → Except Error Target} {items : List Source}
    {results : List Target} (mapped : items.mapM convert = .ok results) {item : Source}
    (member : item ∈ items) : ∃ result, convert item = .ok result := by
  obtain ⟨index, found⟩ := List.mem_iff_getElem?.mp member
  obtain ⟨result, _, read⟩ := getElem?_of_mapM mapped found
  exact ⟨result, read⟩

theorem mapM_eq_error_iff {convert : Source → Except Error Target} {items : List Source}
    {error : Error} : items.mapM convert = .error error ↔ ∃ before item after,
      items = before ++ item :: after ∧ (∀ earlier ∈ before, ∃ result, convert earlier = .ok result) ∧
        convert item = .error error := by
  induction items with
  | nil => simp [pure, Except.pure]
  | cons item items ih =>
      rw [List.mapM_cons]
      constructor
      · intro failed
        cases first : convert item with
        | error other =>
            rw [first] at failed
            exact ⟨[], item, items, rfl, by simp, first.trans (congrArg _ (Except.error.inj failed))⟩
        | ok result =>
            cases others : items.mapM convert with
            | error other =>
                rw [first, others] at failed
                rw [others, Except.error.inj failed] at ih
                obtain ⟨before, next, after, rfl, passed, wrong⟩ := ih.mp rfl
                refine ⟨item :: before, next, after, rfl, ?_, wrong⟩
                intro earlier member
                rcases List.mem_cons.mp member with rfl | later
                · exact ⟨result, first⟩
                · exact passed earlier later
            | ok results =>
                rw [first, others] at failed
                cases failed
      · rintro ⟨before, next, after, same, passed, wrong⟩
        cases before with
        | nil =>
            obtain ⟨rfl, rfl⟩ := List.cons.inj same
            rw [wrong]
            rfl
        | cons earlier before =>
            obtain ⟨rfl, rest⟩ := List.cons.inj same
            obtain ⟨result, first⟩ := passed item List.mem_cons_self
            have others : items.mapM convert = .error error := ih.mpr
              ⟨before, next, after, rest, fun other member =>
                passed other (List.mem_cons_of_mem item member), wrong⟩
            rw [first, others]
            rfl

theorem mapM_perm {convert : Source → Except Error Target} {items others : List Source}
    (same : items.Perm others) {results : List Target} (mapped : items.mapM convert = .ok results) :
    ∃ otherResults, others.mapM convert = .ok otherResults ∧ results.Perm otherResults := by
  induction same generalizing results with
  | nil => exact ⟨results, mapped, .refl results⟩
  | @cons item items others _ ih =>
      rw [List.mapM_cons] at mapped
      obtain ⟨result, first, mapped⟩ := bind_eq_ok mapped
      obtain ⟨rest, following, mapped⟩ := bind_eq_ok mapped
      obtain rfl : result :: rest = results := Except.ok.inj mapped
      obtain ⟨otherRest, read, perm⟩ := ih following
      refine ⟨result :: otherRest, ?_, perm.cons result⟩
      rw [List.mapM_cons, first, read]
      rfl
  | swap first second items =>
      simp only [List.mapM_cons] at mapped
      obtain ⟨secondResult, secondRead, mapped⟩ := bind_eq_ok mapped
      obtain ⟨between, mapped, done⟩ := bind_eq_ok mapped
      obtain ⟨firstResult, firstRead, mapped⟩ := bind_eq_ok mapped
      obtain ⟨rest, following, mapped⟩ := bind_eq_ok mapped
      obtain rfl : firstResult :: rest = between := Except.ok.inj mapped
      obtain rfl : secondResult :: firstResult :: rest = results := Except.ok.inj done
      refine ⟨firstResult :: secondResult :: rest, ?_, .swap firstResult secondResult rest⟩
      simp only [List.mapM_cons, firstRead, secondRead, following]
      rfl
  | trans _ _ first second =>
      obtain ⟨between, read, perm⟩ := first mapped
      obtain ⟨last, readLast, permLast⟩ := second read
      exact ⟨last, readLast, perm.trans permLast⟩

theorem mapM_of_forall {Result : Type → Type} [Monad Result] [LawfulMonad Result]
    {convert : Source → Result Target} {view : Source → Target} {items : List Source}
    (each : ∀ item ∈ items, convert item = pure (view item)) :
    items.mapM convert = pure (items.map view) := by
  induction items with
  | nil => rfl
  | cons item items ih =>
      have rest := ih fun other member => each other (List.mem_cons_of_mem item member)
      rw [List.mapM_cons, each item List.mem_cons_self, rest, pure_bind, pure_bind, List.map_cons]

theorem foldlM_keeps {State Item : Type} {step : State → Item → Except Error State}
    {holds : State → Prop}
    (keeps : ∀ state item next, holds state → step state item = .ok next → holds next)
    {items : List Item} {start finish : State} (first : holds start)
    (folded : items.foldlM step start = .ok finish) : holds finish := by
  induction items generalizing start with
  | nil =>
      obtain rfl : start = finish := Except.ok.inj folded
      exact first
  | cons item items ih =>
      rw [List.foldlM_cons] at folded
      obtain ⟨next, stepped, folded⟩ := bind_eq_ok folded
      exact ih (keeps start item next first stepped) folded

theorem orFault_eq_ok {value : Except Fault Target} {result : Target}
    (ran : orFault value = .ok result) : value = .ok result := by
  cases value with
  | error fault => simp [orFault] at ran
  | ok item =>
      obtain rfl : item = result := Except.ok.inj ran
      rfl

theorem elementAt_eq_ok_iff {items : List Target} {index : Nat} {item : Target} :
    elementAt items index = .ok item ↔ items[index]? = some item := by
  unfold elementAt
  split
  · rename_i other found
    rw [found, Except.ok.injEq, Option.some.injEq]
  · rename_i absent
    simp [absent]

end TiledStream
