import Mathlib.Algebra.Group.Action.Defs
import Mathlib.Algebra.GroupWithZero.Nat
import Mathlib.Algebra.Order.BigOperators.Group.List
import Mathlib.Algebra.Order.Group.Nat

/-!
# Places in lists

Sessions, pools and queues keep what they consist of in lists and refer to it by place.
These are the cases for what is at a place once an entry was replaced or added, and the
laws for a change of one entry under a projection.
-/

namespace ServerRender

variable {α β : Type}

section Cases

variable {entries : List α} {entry found : α} {index other : Nat}

theorem getElem?_set_cases (hfound : (entries.set index entry)[other]? = some found) :
    (index = other ∧ entry = found) ∨ (index ≠ other ∧ entries[other]? = some found) := by
  by_cases hindex : index = other
  · subst hindex
    rw [List.getElem?_set] at hfound
    split at hfound
    · split at hfound
      · exact .inl ⟨rfl, Option.some.inj hfound⟩
      · contradiction
    · contradiction
  · rw [List.getElem?_set_ne hindex] at hfound
    exact .inr ⟨hindex, hfound⟩

theorem getElem?_append_cases (hfound : (entries ++ [entry])[other]? = some found) :
    entries[other]? = some found ∨ (entries.length = other ∧ entry = found) := by
  rw [List.getElem?_append] at hfound
  split at hfound
  · exact .inl hfound
  · next hge =>
      refine .inr ⟨?_, (List.mem_singleton.1 (List.mem_of_getElem? hfound)).symm⟩
      have hlt := (List.getElem?_eq_some_iff.1 hfound).1
      simp only [List.length_singleton] at hlt
      omega

end Cases

section Projections

variable {project : α → β} {change : α → α}

theorem map_modify {changed : β → β} (entries : List α) (index : Nat)
    (hcommutes : ∀ entry, project (change entry) = changed (project entry)) :
    (entries.modify index change).map project =
      (entries.map project).modify index changed := by
  refine List.ext_getElem? fun other => ?_
  rw [List.getElem?_map, List.getElem?_modify, List.getElem?_modify, List.getElem?_map]
  cases entries[other]? with
  | none => rfl
  | some entry => by_cases hindex : index = other <;> simp [hindex, hcommutes]

theorem map_modify_of_same (entries : List α) (index : Nat)
    (hsame : ∀ entry, project (change entry) = project entry) :
    (entries.modify index change).map project = entries.map project := by
  have hmapped := @map_modify α β project change id entries index hsame
  rw [hmapped, List.modify_id]

end Projections

/-- A change of the last of the entries. -/
theorem modify_concat_length (entries : List α) (entry : α) (change : α → α) :
    (entries ++ [entry]).modify entries.length change = entries ++ [change entry] := by
  induction entries with
  | nil => rfl
  | cons first rest ih => exact congrArg (List.cons first) ih

theorem modify_const (entries : List α) (index : Nat) (value : α) :
    entries.modify index (fun _ => value) = entries.set index value := by
  refine List.ext_getElem? fun other => ?_
  rw [List.getElem?_modify, List.getElem?_set]
  by_cases hindex : index = other
  · subst hindex
    by_cases hlt : index < entries.length <;> simp [hlt]
  · simp [hindex]

theorem modify_of_getElem? {entries : List α} {index : Nat} {entry : α}
    (hentry : entries[index]? = some entry) (change : α → α) :
    entries.modify index change = entries.set index (change entry) := by
  rw [List.modify_eq_set_getElem?, hentry]
  rfl

theorem sum_map_le {weight : α → Nat} {bound : Nat} (hle : ∀ entry, weight entry ≤ bound)
    (entries : List α) : (entries.map weight).sum ≤ bound * entries.length := by
  have hsum := List.sum_le_card_nsmul (entries.map weight) bound
  rw [List.length_map, smul_eq_mul, Nat.mul_comm] at hsum
  refine hsum fun total htotal => ?_
  obtain ⟨entry, -, rfl⟩ := List.mem_map.1 htotal
  exact hle entry

/-- A total changes with one entry as the weight of this entry does. -/
theorem sum_map_set {entries : List α} {index : Nat} {entry : α}
    (hentry : entries[index]? = some entry) (weight : α → Nat) (value : α) :
    ((entries.set index value).map weight).sum + weight entry =
      (entries.map weight).sum + weight value := by
  obtain ⟨hlt, rfl⟩ := List.getElem?_eq_some_iff.1 hentry
  obtain ⟨front, back, hentries, -, hset⟩ := @List.exists_of_set _ index value entries hlt
  have hbefore : (entries.map weight).sum =
      (front.map weight).sum + (weight entries[index] + (back.map weight).sum) := by
    conv_lhs => rw [hentries]
    rw [List.map_append, List.map_cons, List.sum_append_nat, List.sum_cons]
  rw [hset, hbefore, List.map_append, List.map_cons, List.sum_append_nat, List.sum_cons]
  omega

end ServerRender
