import ServerRender.Proofs.Script.Unfolding
import ServerRender.Script.Globals

/-!
# What a heap stores

The graph of a heap in which objects store their parts themselves.  To look at such an object
runs no accessor and asks no handler, so a run sees the graph, and what it makes of a value
is the tree of the value.
-/

namespace ServerRender.Script

namespace Run

variable {α β : Type} {realm : Realm} {id : Nat}

/-- Code has a result and changes nothing. -/
def Gives (code : Run α) (realm : Realm) (result : α) : Prop :=
  ((code.run machine).run).run realm = pure (.ok result, realm)

theorem gives_pure (result : α) : (pure result : Run α).Gives realm result := rfl

theorem gives_bind {code : Run α} {next : α → Run β} {result : α} {last : β}
    (hcode : code.Gives realm result) (hnext : (next result).Gives realm last) :
    (code >>= next).Gives realm last := by
  unfold Gives at hcode hnext ⊢
  simp only [ReaderT.run_bind, ExceptT.run_bind, StateT.run_bind, hcode, pure_bind]
  exact hnext

theorem gives_heap : heap.Gives realm realm.heap := rfl

theorem gives_chainRoom : chainRoom.Gives realm (2 * realm.heap.objects.size + 16) := rfl

theorem gives_answering {object : Object} (name : String)
    (hobject : realm.heap.get? id = some object)
    (hkind : ∀ target handler, object.kind ≠ .proxy target handler) :
    (answering name id).Gives realm (.plain id) := by
  refine gives_bind gives_chainRoom (gives_bind gives_heap ?_)
  rw [hobject, Option.map_some]
  split
  · next hproxy => exact absurd (Option.some.inj hproxy) (hkind _ _)
  · next hproxy => exact absurd (Option.some.inj hproxy) (hkind _ _)
  · rfl

theorem gives_ownKeys {object : Object} (hobject : realm.heap.get? id = some object)
    (hkind : ∀ target handler, object.kind ≠ .proxy target handler) :
    (ownKeys id).Gives realm (realm.heap.keysOf id) :=
  gives_bind (gives_answering "ownKeys" hobject hkind) (gives_bind gives_heap (gives_pure _))

theorem gives_read {object : Object} {key : Key} {property : Property} {value : Value}
    (hobject : realm.heap.get? id = some object)
    (hkind : ∀ target handler, object.kind ≠ .proxy target handler)
    (hproperty : realm.heap.ownProperty? id key = some property)
    (hvalue : property.stored? = some value) : (read id key).Gives realm value := by
  refine gives_bind gives_chainRoom (gives_bind gives_heap ?_)
  simp only [hobject, hproperty]
  rw [readProperty]
  unfold Property.stored? at hvalue
  split at hvalue
  · next hslot =>
    cases hvalue
    rw [hslot]
    exact gives_pure value
  · cases hvalue

end Run

namespace Heap

variable (heap : Heap)

def storedValue (id : Nat) (key : Key) : Value :=
  ((heap.ownProperty? id key).bind Property.stored?).getD .undefined

def graph : Graph := fun id =>
  if heap.isFunction (.object id) then .callable
  else match heap.get? id with
    | some object =>
      if object.isArray then
        .array ((List.range object.length).map fun index => heap.storedValue id (.ofNat index))
      else .members ((heap.keysOf id).map fun key => (key, heap.storedValue id key))
    | none => .members []

/-- An object is no proxy and stores its parts itself. -/
structure Stores (id : Nat) (object : Object) : Prop where
  present : heap.get? id = some object
  answers : ∀ target handler, object.kind ≠ .proxy target handler
  stored : ∀ part ∈ (heap.graph id).parts,
    ∃ property, heap.ownProperty? id part.key = some property ∧ property.stored? = some part.value

variable {heap}

theorem keysOf_eq_of_graph {id : Nat} {object : Object} {entries : List (Key × Value)}
    (hpresent : heap.get? id = some object) (hnode : heap.graph id = .members entries) :
    heap.keysOf id = entries.map (·.1) := by
  simp only [graph, hpresent] at hnode
  split at hnode
  · cases hnode
  · split at hnode
    · cases hnode
    · cases hnode
      rw [List.map_map]
      exact (List.map_id _).symm

end Heap

namespace Realm

variable {realm : Realm} {value : Value}

/-- A run sees what an object stores, and changes nothing by looking at it. -/
theorem shown_of_stores {id : Nat} {object : Object} (hstores : realm.heap.Stores id object) :
    realm.heap.graph.Shown view realm id := by
  refine ⟨?_, fun entries hentries => ?_, fun part hpart => ?_⟩
  · by_cases hfunction : realm.heap.isFunction (.object id)
    · simp [view, Heap.graph, hfunction, Node.shape]
    · by_cases harray : object.isArray <;>
        simp [view, Heap.graph, hfunction, hstores.present, harray, Node.shape]
  · rw [← Heap.keysOf_eq_of_graph hstores.present hentries]
    exact Run.gives_ownKeys hstores.present hstores.answers
  · obtain ⟨property, hproperty, hvalue⟩ := hstores.stored part hpart
    exact Run.gives_read hstores.present hstores.answers hproperty hvalue

/-- The objects in a value store what they hold, so a run converts it to its tree if no
chain of them is too long. -/
theorem gives_convert
    (hstores : ∀ id, Relation.ReflTransGen realm.heap.graph.Holds value (.object id) →
      ∃ object, realm.heap.Stores id object)
    (hshort : ∀ chain, realm.heap.graph.Chain value chain → chain.length ≤ maxDepth) :
    ∃ json, (convert value).Gives realm json ∧ realm.heap.graph.Unfolds value json := by
  have hplain : realm.heap.graph.Plain view realm value := by
    intro id hid
    obtain ⟨object, hobject⟩ := hstores id hid
    exact shown_of_stores hobject
  have hroom : ([] : List Nat).length + maxDepth = maxDepth := Nat.zero_add maxDepth
  obtain ⟨outcome, hrun, hjudged⟩ := Graph.run_convert hroom hplain
  cases hjudged with
  | @ok json _ hjson => exact ⟨json, Graph.run_toJson hrun, hjson⟩
  | @error error hfound =>
    rw [Graph.findSome?_fault_visits_eq_none_iff.2 hshort] at hfound
    cases hfound

end Realm

end ServerRender.Script
