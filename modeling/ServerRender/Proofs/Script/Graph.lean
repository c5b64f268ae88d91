import Mathlib.Logic.Relation
import Mathlib.Tactic.ByContra
import ServerRender.Script.Conversion

/-!
# Graphs of objects

Objects that store their values form a graph, in which they can be shared and can stand
inside themselves.  What counts for a traversal of a value are the chains of objects inside
each other that lead into it, not the objects: a shared one is come to again and again, and
one that stands inside itself makes chains of any length.  So a bound on the length of the
chains leaves out the cycles, and where it holds a traversal finds nothing wrong.
-/

namespace ServerRender.Script

inductive Node where
  | callable
  | array (items : List Value)
  /-- The keys in their order, each with its value. -/
  | members (entries : List (Key × Value))

/-- Something in an object that is converted with it. -/
structure Part where
  /-- Items of arrays have none. -/
  name : String
  key : Key
  value : Value

namespace Node

def shape : Node → Shape
  | callable => .function
  | array items => .array items.length
  | members _ => .members

theorem shape_eq_function_iff {node : Node} : node.shape = .function ↔ node = .callable := by
  cases node <;> simp [shape]

/-- The parts of an object in their order.  A member whose key is a symbol is not one. -/
def parts : Node → List Part
  | callable => []
  | array items => items.mapIdx fun index item => ⟨"", .ofNat index, item⟩
  | members entries =>
    entries.filterMap fun (key, value) => key.text?.map fun name => ⟨name, key, value⟩

end Node

abbrev Graph := Nat → Node

namespace Graph

variable (graph : Graph)

/-- One value is an object that has the other for a part. -/
def Holds (outer inner : Value) : Prop :=
  ∃ id, outer = .object id ∧ ∃ part ∈ (graph id).parts, part.value = inner

/-- A value is an object that cannot be called. -/
def Nests (value : Value) (id : Nat) : Prop :=
  value = .object id ∧ graph id ≠ .callable

def Encloses (outer inner : Nat) : Prop :=
  ∃ part ∈ (graph outer).parts, graph.Nests part.value inner

/-- The chains of objects inside each other that lead into a value, the innermost object
first. -/
inductive Chain (value : Value) : List Nat → Prop
  | outermost {id : Nat} : graph.Nests value id → Chain value [id]
  | inside {id inner : Nat} {above : List Nat} :
      Chain value (id :: above) → graph.Encloses id inner → Chain value (inner :: id :: above)

/-- The objects in the order of a traversal that goes so deep: each is there with those
that it stands in, itself first. -/
def visits : Nat → Value → List Nat → List (List Nat)
  | depth + 1, .object id, above =>
    match graph id with
    | .callable => []
    | node => (id :: above) :: node.parts.flatMap fun part => visits depth part.value (id :: above)
  | _, _, _ => []

end Graph

/-- What is wrong with an object that stands in others: it is one of them, or they are too
many. -/
def fault : List Nat → Option NativeError
  | [] => none
  | id :: above =>
    if id ∈ above then some cyclicOutput
    else if maxDepth ≤ above.length then some deepOutput
    else none

namespace Graph

variable {graph : Graph} {value : Value} {chain above : List Nat}

theorem nests_unique {id other : Nat} (hid : graph.Nests value id)
    (hother : graph.Nests value other) : id = other :=
  Value.object.inj (hid.1.symm.trans hother.1)

theorem chain_append_of_part {id : Nat} {part : Part} (hnests : graph.Nests value id)
    (hpart : part ∈ (graph id).parts) (hchain : graph.Chain part.value chain) :
    graph.Chain value (chain ++ [id]) := by
  induction hchain with
  | outermost hinner => exact .inside (.outermost hnests) ⟨part, hpart, hinner⟩
  | inside _ hinner ih => exact .inside ih hinner

/-- A chain into a value is the value alone or goes on into one of its parts. -/
theorem chain_cases (hchain : graph.Chain value chain) :
    ∃ id, graph.Nests value id ∧ (chain = [id] ∨ ∃ part ∈ (graph id).parts, ∃ front,
      graph.Chain part.value front ∧ chain = front ++ [id]) := by
  induction hchain with
  | outermost hnests => exact ⟨_, hnests, .inl rfl⟩
  | @inside outer inner above _ hinner ih =>
    obtain ⟨id, hnests, hend | ⟨first, hfirst, front, hfront, hend⟩⟩ := ih
    · obtain ⟨rfl, rfl⟩ : outer = id ∧ above = [] := by simpa using hend
      obtain ⟨part, hpart, hinner⟩ := hinner
      exact ⟨outer, hnests, .inr ⟨part, hpart, [inner], .outermost hinner, rfl⟩⟩
    · cases front with
      | nil => nomatch hfront
      | cons head rest =>
        obtain ⟨rfl, rfl⟩ : outer = head ∧ above = rest ++ [id] := by simpa using hend
        exact ⟨id, hnests, .inr ⟨first, hfirst, inner :: outer :: rest,
          .inside hfront hinner, rfl⟩⟩

theorem visits_of_not_nests {depth : Nat} (hnests : ∀ id, ¬ graph.Nests value id) :
    graph.visits depth value above = [] := by
  cases depth with
  | zero => rfl
  | succ depth =>
    cases value with
    | object id =>
      have hcallable : graph id = .callable := by_contra fun hnode => hnests id ⟨rfl, hnode⟩
      rw [visits, hcallable]
    | _ => rfl

theorem visits_of_nests {depth id : Nat} (hnests : graph.Nests value id) :
    graph.visits (depth + 1) value above =
      (id :: above) :: (graph id).parts.flatMap fun part =>
        graph.visits depth part.value (id :: above) := by
  obtain ⟨rfl, hnode⟩ := hnests
  rw [visits]
  split
  · next hcallable => exact absurd hcallable hnode
  · rfl

/-- The traversal comes to an object by each chain that leads to it. -/
theorem mem_visits_iff {depth : Nat} :
    chain ∈ graph.visits depth value above ↔
      ∃ front, chain = front ++ above ∧ graph.Chain value front ∧ front.length ≤ depth := by
  induction depth generalizing value above with
  | zero =>
    refine iff_of_false (by simp [visits]) ?_
    rintro ⟨front, -, hchain, hlength⟩
    cases hchain <;> simp at hlength
  | succ depth ih =>
    by_cases hnests : ∃ id, graph.Nests value id
    · obtain ⟨id, hnests⟩ := hnests
      rw [visits_of_nests hnests, List.mem_cons, List.mem_flatMap]
      constructor
      · rintro (rfl | ⟨part, hpart, hchain⟩)
        · exact ⟨[id], rfl, .outermost hnests, by simp⟩
        · obtain ⟨front, rfl, hfront, hlength⟩ := ih.1 hchain
          exact ⟨front ++ [id], by simp, chain_append_of_part hnests hpart hfront,
            by simpa using hlength⟩
      · rintro ⟨front, rfl, hchain, hlength⟩
        obtain ⟨outer, houter, rfl | ⟨part, hpart, rest, hrest, rfl⟩⟩ := chain_cases hchain
        · exact .inl (by rw [nests_unique houter hnests]; rfl)
        · obtain rfl := nests_unique houter hnests
          exact .inr ⟨part, hpart, ih.2 ⟨rest, by simp, hrest, by simpa using hlength⟩⟩
    · rw [visits_of_not_nests fun id hid => hnests ⟨id, hid⟩]
      refine iff_of_false List.not_mem_nil ?_
      rintro ⟨front, -, hchain, -⟩
      obtain ⟨id, hid, -⟩ := chain_cases hchain
      exact hnests ⟨id, hid⟩

/-- A chain that is too long has one inside that is just too long. -/
theorem exists_chain_of_length {length : Nat} (hchain : graph.Chain value chain)
    (hpos : 0 < length) (hlength : length ≤ chain.length) :
    ∃ outer, graph.Chain value outer ∧ outer.length = length := by
  induction hchain with
  | outermost hnests =>
    exact ⟨_, .outermost hnests, by simp only [List.length_singleton] at hlength ⊢; omega⟩
  | @inside _ _ above hchain hinner ih =>
    by_cases hshort : length ≤ above.length + 1
    · exact ih hshort
    · refine ⟨_, .inside hchain hinner, ?_⟩
      simp only [List.length_cons] at hlength ⊢
      omega

theorem exists_chain_of_mem {id : Nat} (hchain : graph.Chain value chain) (hmem : id ∈ chain) :
    ∃ above, graph.Chain value (id :: above) := by
  induction hchain with
  | outermost hnests => exact ⟨[], List.mem_singleton.1 hmem ▸ .outermost hnests⟩
  | inside hchain hinner ih =>
    obtain rfl | hmem := List.mem_cons.1 hmem
    · exact ⟨_, .inside hchain hinner⟩
    · exact ih hmem

/-! ## Cycles -/

/-- Each object of a chain stands in those that come after it. -/
theorem pairwise_of_chain (hchain : graph.Chain value chain) :
    chain.Pairwise fun inner outer => Relation.TransGen graph.Encloses outer inner := by
  induction hchain with
  | outermost _ => exact List.pairwise_singleton _ _
  | inside _ hinner ih =>
    refine List.pairwise_cons.2 ⟨fun outer houter => ?_, ih⟩
    obtain rfl | houter := List.mem_cons.1 houter
    · exact .single hinner
    · exact ((List.pairwise_cons.1 ih).1 outer houter).tail hinner

/-- Where an object comes twice in a chain, it stands in itself. -/
theorem exists_encloses_self (hchain : graph.Chain value chain) (hcyclic : ¬ chain.Nodup) :
    ∃ id ∈ chain, Relation.TransGen graph.Encloses id id := by
  by_contra hnone
  refine hcyclic ((pairwise_of_chain hchain).imp_of_mem ?_)
  rintro inner outer hmem - hencloses rfl
  exact hnone ⟨inner, hmem, hencloses⟩

/-- An object that stands in itself has another such object directly in it. -/
theorem exists_inner_of_encloses_self {id : Nat}
    (hcycle : Relation.TransGen graph.Encloses id id) :
    ∃ inner, graph.Encloses id inner ∧ Relation.TransGen graph.Encloses inner inner := by
  obtain ⟨inner, hinner, hback⟩ := Relation.TransGen.head'_iff.1 hcycle
  exact ⟨inner, hinner, .tail' hback hinner⟩

/-- Chains into a value that has an object inside itself get as long as one likes. -/
theorem exists_long_chain (hchain : graph.Chain value chain) (hcyclic : ¬ chain.Nodup)
    (length : Nat) : ∃ long, graph.Chain value long ∧ length < long.length := by
  have hlong : ∃ id above, graph.Chain value (id :: above) ∧
      Relation.TransGen graph.Encloses id id ∧ length ≤ above.length := by
    induction length with
    | zero =>
      obtain ⟨id, hmem, hcycle⟩ := exists_encloses_self hchain hcyclic
      obtain ⟨above, hchain⟩ := exists_chain_of_mem hchain hmem
      exact ⟨id, above, hchain, hcycle, Nat.zero_le _⟩
    | succ length ih =>
      obtain ⟨id, above, hchain, hcycle, hlength⟩ := ih
      obtain ⟨inner, hinner, hcycle⟩ := exists_inner_of_encloses_self hcycle
      exact ⟨inner, id :: above, .inside hchain hinner, hcycle, Nat.succ_le_succ hlength⟩
  obtain ⟨id, above, hchain, -, hlength⟩ := hlong
  exact ⟨id :: above, hchain, Nat.lt_succ_of_le hlength⟩

theorem fault_cons_eq_none_iff {id : Nat} :
    fault (id :: above) = none ↔ id ∉ above ∧ above.length < maxDepth := by
  by_cases hmem : id ∈ above <;> simp [fault, hmem]

/-- A traversal that goes deep enough finds nothing wrong just where every chain is short
enough.  Nothing is inside itself then, since chains go round in a cycle. -/
theorem findSome?_fault_visits_eq_none_iff :
    (graph.visits (maxDepth + 1) value []).findSome? fault = none ↔
      ∀ chain, graph.Chain value chain → chain.length ≤ maxDepth := by
  simp only [List.findSome?_eq_none_iff, mem_visits_iff, List.append_nil]
  constructor
  · intro hnone chain hchain
    by_contra hlong
    obtain ⟨outer, houter, hlength⟩ :=
      exists_chain_of_length hchain (Nat.succ_pos maxDepth) (Nat.lt_of_not_le hlong)
    have hfault := hnone outer ⟨outer, rfl, houter, Nat.le_of_eq hlength⟩
    cases outer with
    | nil => simp at hlength
    | cons id above =>
      have hshort := (fault_cons_eq_none_iff.1 hfault).2
      simp only [List.length_cons] at hlength
      omega
  · rintro hshort chain ⟨_, rfl, hchain, -⟩
    have hnodup : chain.Nodup := by
      by_contra hcyclic
      obtain ⟨long, hlong, hlength⟩ := exists_long_chain hchain hcyclic maxDepth
      exact absurd (hshort long hlong) (Nat.not_le_of_lt hlength)
    cases chain with
    | nil => rfl
    | cons id above =>
      exact fault_cons_eq_none_iff.2 ⟨(List.nodup_cons.1 hnodup).1, hshort _ hchain⟩

end Graph

end ServerRender.Script
