import Mathlib.Data.List.Nodup
import ServerRender.Table

/-!
# Tables in order

A table is a list that every insertion keeps in the order of its keys.  In a table that
has only been inserted into, no key stands twice, so that a lookup finds whatever entry
the list has.
-/

namespace ServerRender.Table

variable {β : Type} {table : Table β} {key name : String} {value : β}

def Ordered (table : Table β) : Prop :=
  table.keys.Pairwise (· < ·)

theorem ordered_empty : (empty : Table β).Ordered :=
  List.Pairwise.nil

theorem Ordered.nodup (hordered : table.Ordered) : table.keys.Nodup := by
  apply List.Pairwise.imp _ hordered
  intro earlier later hlt heq
  rw [heq] at hlt
  exact String.lt_irrefl later hlt

private theorem mem_keys_insertEntry {entries : List (String × β)}
    (hmem : name ∈ (insertEntry key value entries).map Prod.fst) :
    name = key ∨ name ∈ entries.map Prod.fst := by
  induction entries with
  | nil => simpa [insertEntry] using hmem
  | cons entry rest ih =>
      simp only [insertEntry] at hmem
      split at hmem
      · next hkey =>
          rw [List.map_cons, List.mem_cons] at hmem
          exact hmem.imp_right (List.mem_cons_of_mem _)
      · split at hmem
        · rw [List.map_cons, List.mem_cons] at hmem
          exact hmem
        · rw [List.map_cons, List.mem_cons] at hmem
          rcases hmem with rfl | hmem
          · exact .inr List.mem_cons_self
          · exact (ih hmem).imp_right (List.mem_cons_of_mem _)

theorem Ordered.insert (hordered : table.Ordered) (key : String) (value : β) :
    (table.insert key value).Ordered := by
  obtain ⟨entries⟩ := table
  simp only [Ordered, keys, Table.insert] at hordered ⊢
  induction entries with
  | nil => exact List.pairwise_singleton _ _
  | cons entry rest ih =>
      rw [List.map_cons, List.pairwise_cons] at hordered
      obtain ⟨hfirst, hrest⟩ := hordered
      simp only [insertEntry]
      split
      · next hkey =>
          rw [List.map_cons, List.pairwise_cons, hkey]
          exact ⟨hfirst, hrest⟩
      · next hkey =>
          split
          · next hlt =>
              rw [List.map_cons, List.pairwise_cons, List.map_cons]
              refine ⟨fun other hother => ?_, List.pairwise_cons.mpr ⟨hfirst, hrest⟩⟩
              rcases List.mem_cons.mp hother with rfl | hother
              · exact hlt
              · exact String.lt_trans hlt (hfirst other hother)
          · next hlt =>
              rw [List.map_cons, List.pairwise_cons]
              refine ⟨fun other hother => ?_, ih hrest⟩
              rcases mem_keys_insertEntry hother with rfl | hother
              · exact Std.lt_of_le_of_ne (String.not_lt.mp hlt) (Ne.symm hkey)
              · exact hfirst other hother

theorem get?_of_mem (hkeys : table.keys.Nodup)
    {entry : String × β} (hmem : entry ∈ table.entries) :
    table.get? entry.1 = some entry.2 := by
  obtain ⟨found, hfound⟩ : ∃ found, table.entries.find? (fun e => e.1 == entry.1) = some found := by
    rw [← Option.isSome_iff_exists, List.find?_isSome]
    exact ⟨entry, hmem, by simp⟩
  have hkey : found.1 = entry.1 := by simpa using List.find?_some hfound
  obtain rfl := List.inj_on_of_nodup_map hkeys (List.mem_of_find?_eq_some hfound) hmem hkey
  rw [get?, hfound, Option.map_some]

theorem mem_of_get? (hget : table.get? name = some value) : (name, value) ∈ table.entries := by
  obtain ⟨entry, hfind, rfl⟩ := Option.map_eq_some_iff.mp hget
  have hkey : entry.1 = name := by simpa using List.find?_some hfind
  rw [← hkey]
  exact List.mem_of_find?_eq_some hfind

theorem mem_entries_iff (hkeys : table.keys.Nodup) :
    (name, value) ∈ table.entries ↔ table.get? name = some value :=
  ⟨get?_of_mem hkeys, mem_of_get?⟩

end ServerRender.Table
