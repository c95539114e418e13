import Mathlib.Data.List.Nodup
import Mathlib.Data.List.Perm.Basic
import Mathlib.Data.List.FinRange

/-!
Lists of entries under distinct keys, and lists read at given places.  Neither
looking a key up nor reading all places depends on the order.
-/

namespace OperatorPrecedence

universe u v

variable {α : Type u} {β : Type v}

section Lookup

variable [DecidableEq α]

/-- Under distinct keys a look-up finds exactly the entry of its key. -/
theorem lookup_eq_some_iff_mem {entries : List (α × β)}
    (hnodup : (entries.map Prod.fst).Nodup) (key : α) (value : β) :
    entries.lookup key = some value ↔ (key, value) ∈ entries := by
  rw [List.lookup_eq_some_iff]
  constructor
  · rintro ⟨before, rest, rfl, -⟩
    exact List.mem_append_right before List.mem_cons_self
  · intro hentry
    obtain ⟨before, rest, rfl⟩ := List.append_of_mem hentry
    rw [List.map_append, List.map_cons, List.nodup_append] at hnodup
    refine ⟨before, rest, rfl, ?_⟩
    intro entry hmem
    have hne := hnodup.2.2 entry.1 (List.mem_map_of_mem hmem) key List.mem_cons_self
    simpa using hne.symm

theorem isSome_lookup_iff (entries : List (α × β)) (key : α) :
    (entries.lookup key).isSome = true ↔ key ∈ entries.map Prod.fst := by
  rw [List.lookup_isSome_iff, List.mem_map]
  constructor
  · rintro ⟨entry, hentry, hkey⟩
    exact ⟨entry, hentry, (beq_iff_eq.mp hkey).symm⟩
  · rintro ⟨entry, hentry, rfl⟩
    exact ⟨entry, hentry, beq_self_eq_true entry.1⟩

/-- Under distinct keys the order of the entries does not matter to a look-up. -/
theorem lookup_eq_of_perm {first second : List (α × β)} (hperm : first.Perm second)
    (hnodup : (first.map Prod.fst).Nodup) (key : α) :
    first.lookup key = second.lookup key := by
  have hother : (second.map Prod.fst).Nodup := (hperm.map Prod.fst).nodup_iff.mp hnodup
  ext value
  rw [lookup_eq_some_iff_mem hnodup, lookup_eq_some_iff_mem hother, hperm.mem_iff]

end Lookup

/-- The entries of a list at some places, in the order of the places. -/
def atPlaces (places : List Nat) (entries : List α) : List α :=
  places.filterMap fun place => entries[place]?

theorem atPlaces_range (entries : List α) :
    atPlaces (List.range entries.length) entries = entries := by
  induction entries with
  | nil => rfl
  | cons entry entries ih =>
      rw [List.length_cons, List.range_succ_eq_map]
      simpa [atPlaces, List.filterMap_map, Function.comp_def] using ih

theorem atPlaces_perm {places : List Nat} {entries : List α}
    (hplaces : places.Perm (List.range entries.length)) :
    (atPlaces places entries).Perm entries := by
  have hread := hplaces.filterMap fun place => entries[place]?
  exact hread.trans (.of_eq (atPlaces_range entries))

theorem zip_atPlaces {first : List α} {second : List β}
    (hlength : first.length = second.length) (places : List Nat) :
    (atPlaces places first).zip (atPlaces places second) =
      atPlaces places (first.zip second) := by
  induction places with
  | nil => rfl
  | cons place places ih =>
      by_cases hplace : place < first.length
      · have hother : place < second.length := hlength ▸ hplace
        have hpair : place < (first.zip second).length := by
          simpa [List.length_zip] using ⟨hplace, hother⟩
        simpa [atPlaces, hplace, hother, hpair] using ih
      · have hother : ¬ place < second.length := hlength ▸ hplace
        have hpair : ¬ place < (first.zip second).length := by
          simp [List.length_zip, hplace]
        simpa [atPlaces, List.getElem?_eq_none_iff.mpr (Nat.le_of_not_lt hplace),
          List.getElem?_eq_none_iff.mpr (Nat.le_of_not_lt hother),
          List.getElem?_eq_none_iff.mpr (Nat.le_of_not_lt hpair)] using ih

end OperatorPrecedence
