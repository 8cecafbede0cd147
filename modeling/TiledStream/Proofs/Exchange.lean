import TiledStream.Prelude

/-! Lists in which one item was exchanged for another: what is found where, which items are still
there, and by how much a count of items changes. -/

namespace TiledStream

variable {Item : Type} {items : List Item} {index place : Nat} {old new item : Item}

theorem found_of_set (found : (items.set index new)[place]? = some item) :
    (index = place ∧ item = new) ∨ (index ≠ place ∧ items[place]? = some item) := by
  by_cases here : index = place
  · subst here
    have inside := (List.getElem?_eq_some_iff.mp found).1
    rw [List.length_set] at inside
    rw [List.getElem?_set_self inside] at found
    exact .inl ⟨rfl, (Option.some.inj found).symm⟩
  · rw [List.getElem?_set_ne here] at found
    exact .inr ⟨here, found⟩

theorem getElem?_set_of_found (found : items[place]? = some item) :
    (items.set index new)[place]? = some (if index = place then new else item) := by
  by_cases here : index = place
  · subst here
    rw [if_pos rfl]
    exact List.getElem?_set_self (List.getElem?_eq_some_iff.mp found).1
  · rw [if_neg here, List.getElem?_set_ne here, found]

theorem set_self_of_getElem? (found : items[index]? = some item) : items.set index item = items := by
  obtain ⟨bound, same⟩ := List.getElem?_eq_some_iff.mp found
  rw [← same, List.set_getElem_self]

theorem map_set_eq {Value : Type} (view : Item → Value) (new : Item)
    (found : items[index]? = some old) (same : view new = view old) :
    (items.set index new).map view = items.map view := by
  rw [List.map_set, same]
  apply set_self_of_getElem?
  rw [List.getElem?_map, found]
  rfl

theorem mem_set_of_ne (member : item ∈ items) (found : items[index]? = some old)
    (different : item ≠ old) : item ∈ items.set index new := by
  obtain ⟨place, at_place⟩ := List.mem_iff_getElem?.mp member
  have elsewhere : index ≠ place := by
    rintro rfl
    exact different (Option.some.inj (at_place.symm.trans found))
  apply List.mem_of_getElem? (i := place)
  rw [List.getElem?_set_ne elsewhere, at_place]

theorem forall_set {holds : Item → Prop} (all : ∀ item ∈ items.set index new, holds item)
    (found : items[index]? = some old) (back : holds new → holds old) :
    ∀ item ∈ items, holds item := by
  intro item member
  by_cases replaced : item = old
  · rw [replaced]
    exact back (all new (List.mem_set (List.getElem?_eq_some_iff.mp found).1 new))
  · exact all item (mem_set_of_ne member found replaced)

theorem countP_set_add (count : Item → Bool) (found : items[index]? = some old) (new : Item) :
    (items.set index new).countP count + (count old).toNat =
      items.countP count + (count new).toNat := by
  induction items generalizing index with
  | nil => simp at found
  | cons head rest ih =>
      cases index with
      | zero =>
          obtain rfl : head = old := Option.some.inj found
          rw [List.set_cons_zero, List.countP_cons, List.countP_cons]
          cases count new <;> cases count head <;> simp
      | succ index =>
          have counted := ih found
          rw [List.set_cons_succ, List.countP_cons, List.countP_cons]
          omega

theorem countP_set_eq (count : Item → Bool) (new : Item) (found : items[index]? = some old)
    (same : count new = count old) : (items.set index new).countP count = items.countP count := by
  have counted := countP_set_add count found new
  rw [same] at counted
  exact Nat.add_right_cancel counted

theorem countP_set_succ (count : Item → Bool) (new : Item) (found : items[index]? = some old)
    (before : count old = false) (now : count new = true) :
    (items.set index new).countP count = items.countP count + 1 := by
  have counted := countP_set_add count found new
  rwa [before, now] at counted

theorem countP_set_pred (count : Item → Bool) (new : Item) (found : items[index]? = some old)
    (before : count old = true) (now : count new = false) :
    (items.set index new).countP count + 1 = items.countP count := by
  have counted := countP_set_add count found new
  rwa [before, now] at counted

end TiledStream
