import Mathlib

namespace CuratedHistory

/-! Lists that are read item by item, as long as every item can be read. -/

variable {α β : Type} {read one another : α → Option β} {items : List α} {values : List β}

theorem mapM_congr (each : ∀ item ∈ items, one item = another item) :
    items.mapM one = items.mapM another := by
  induction items with
  | nil => rfl
  | cons head rest ih =>
      rw [List.forall_mem_cons] at each
      rw [List.mapM_cons, List.mapM_cons, each.1, ih each.2]

theorem mapM_eq_some_map {value : α → β} (each : ∀ item ∈ items, read item = some (value item)) :
    items.mapM read = some (items.map value) :=
  (mapM_congr each).trans List.mapM_pure

theorem forall₂_of_mapM (found : items.mapM read = some values) :
    List.Forall₂ (fun item value => read item = some value) items values := by
  induction items generalizing values with
  | nil =>
      rw [List.mapM_nil] at found
      rw [← Option.some.inj found]
      exact .nil
  | cons item rest ih =>
      rw [List.mapM_cons, Option.bind_eq_bind, Option.bind_eq_some_iff] at found
      obtain ⟨value, here, found⟩ := found
      rw [Option.bind_eq_bind, Option.bind_eq_some_iff] at found
      obtain ⟨others, later, whole⟩ := found
      rw [← Option.some.inj whole]
      exact .cons here (ih later)

theorem exists_mapM (each : ∀ item ∈ items, ∃ value, read item = some value) :
    ∃ values, items.mapM read = some values := by
  induction items with
  | nil => exact ⟨[], rfl⟩
  | cons item rest ih =>
      rw [List.forall_mem_cons] at each
      obtain ⟨value, here⟩ := each.1
      obtain ⟨others, later⟩ := ih each.2
      exact ⟨value :: others, by rw [List.mapM_cons, here, later]; rfl⟩

/-- Whatever is read is read from one of the items. -/
theorem exists_item_of_mapM (found : items.mapM read = some values) :
    ∀ value ∈ values, ∃ item ∈ items, read item = some value := by
  have pairs := forall₂_of_mapM found
  clear found
  induction pairs with
  | nil => exact List.forall_mem_nil _
  | @cons item value rest others here _ ih =>
      refine List.forall_mem_cons.mpr ⟨⟨item, List.mem_cons_self, here⟩, ?_⟩
      intro other member
      obtain ⟨source, inside, isRead⟩ := ih other member
      exact ⟨source, List.mem_cons_of_mem _ inside, isRead⟩

end CuratedHistory
