import Mathlib.Tactic.Choose
import ServerRender.Proofs.Script.Graph

/-!
# Graphs of values as JSON

The conversion of a value goes down the chains of objects inside each other.  It ends because
a chain can only get so long, not because the value does: where every chain is short enough
the result is the tree that the value unfolds to, and otherwise the first object on the way
tells which error there is, the one that stands inside itself or the one that stands too
deep.  Whatever happens, the stack of objects is afterwards what it was before.
-/

namespace ServerRender.Script

section Stack

variable {m : Type → Type} [Monad m] {α β : Type} {stack : List Nat}

/-- Code has some outcome, and beside it the stack that it was given. -/
def Restores (stack : List Nat) (code : m (Converted α)) : Prop :=
  ∃ outcome : m (Except Thrown α), code = (fun result => (result, stack)) <$> outcome

variable [LawfulMonad m]

theorem restores_pure (result : Except Thrown α) :
    Restores stack (pure (result, stack) : m (Converted α)) :=
  ⟨pure result, by simp⟩

theorem restores_bind {code : m β} {next : β → m (Converted α)}
    (hnext : ∀ result, Restores stack (next result)) : Restores stack (code >>= next) := by
  choose outcome houtcome using hnext
  exact ⟨code >>= outcome, by rw [map_bind, ← funext houtcome]⟩

theorem restores_bind_converted {inner : List Nat} {code : m (Converted β)}
    {next : Converted β → m (Converted α)} (hcode : Restores inner code)
    (hnext : ∀ result, Restores stack (next (result, inner))) :
    Restores stack (code >>= next) := by
  obtain ⟨outcome, rfl⟩ := hcode
  rw [bind_map_left]
  exact restores_bind hnext

theorem restores_convertMembers {view : View m} {convert : Value → List Nat → m (Converted Json)}
    (hconvert : ∀ value, Restores stack (convert value stack)) (id : Nat)
    (parts : List (String × Key)) :
    Restores stack (convertMembers view convert id stack parts) := by
  induction parts with
  | nil => exact restores_pure _
  | cons part parts ih =>
    refine restores_bind fun read => ?_
    cases read with
    | error thrown => exact restores_pure _
    | ok value =>
      refine restores_bind_converted (hconvert value) fun result => ?_
      cases result with
      | error thrown => exact restores_pure _
      | ok json =>
        refine restores_bind_converted ih fun rest => ?_
        cases rest <;> exact restores_pure _

theorem restores_convertContent {view : View m} {convert : Value → List Nat → m (Converted Json)}
    (hconvert : ∀ value, Restores stack (convert value stack)) (id : Nat) (shape : Shape) :
    Restores stack (convertContent view convert id shape stack) := by
  cases shape with
  | function => exact restores_pure _
  | array length =>
    exact restores_bind_converted (restores_convertMembers hconvert id _) fun _ => restores_pure _
  | members =>
    refine restores_bind fun keys => ?_
    cases keys with
    | error thrown => exact restores_pure _
    | ok keys =>
      exact restores_bind_converted (restores_convertMembers hconvert id _) fun _ =>
        restores_pure _

/-- Whatever objects do when they are looked at, and however a conversion ends, it leaves
the stack as it was. -/
theorem restores_convert (view : View m) (room : Nat) (value : Value) (stack : List Nat) :
    Restores stack (convert view room value stack) := by
  induction room generalizing value stack with
  | zero =>
    cases value with
    | object id =>
      rw [convert]
      refine restores_bind fun shape => ?_
      split
      · exact restores_pure _
      · split <;> exact restores_pure _
    | _ => exact restores_pure _
  | succ room ih =>
    cases value with
    | object id =>
      rw [convert]
      refine restores_bind fun shape => ?_
      split
      · exact restores_pure _
      · split
        · exact restores_pure _
        · exact restores_bind_converted (restores_convertContent (ih · _) id shape) restores_pure
    | _ => exact restores_pure _

end Stack

/-! ## Trees -/

namespace Graph

section Tree

variable (graph : Graph)

mutual

inductive Unfolds : Value → Json → Prop
  | undefined : Unfolds .undefined .null
  | null : Unfolds .null .null
  | bool (value : Bool) : Unfolds (.bool value) (.bool value)
  | whole {x : Double} {n : Int} :
      x.toInt? = some n → n.natAbs < Nat.pow 2 53 → Unfolds (.number x) (.ofInt n)
  | large {x : Double} {n : Int} :
      x.toInt? = some n → Nat.pow 2 53 ≤ n.natAbs → Unfolds (.number x) (.number (.double x))
  | fraction {x : Double} :
      x.toInt? = none → x.isFinite = true → Unfolds (.number x) (.number (.double x))
  | infinite {x : Double} : x.isFinite = false → Unfolds (.number x) .null
  | bigint (value : Int) : Unfolds (.bigint value) .null
  | text (units : List UInt16) : Unfolds (.text units) (.string (Text.ofUnits units))
  | symbol (symbol : Symbol) : Unfolds (.symbol symbol) .null
  | callable {id : Nat} : graph id = .callable → Unfolds (.object id) .null
  | array {id : Nat} {items : List Value} {jsons : List Json} :
      graph id = .array items → UnfoldsAll items jsons → Unfolds (.object id) (.array jsons)
  | members {id : Nat} {entries : List (Key × Value)} {jsons : List Json} :
      graph id = .members entries → UnfoldsAll ((graph id).parts.map Part.value) jsons →
      Unfolds (.object id) (.ofMembers (((graph id).parts.map Part.name).zip jsons))

inductive UnfoldsAll : List Value → List Json → Prop
  | nil : UnfoldsAll [] []
  | cons {value : Value} {values : List Value} {json : Json} {jsons : List Json} :
      Unfolds value json → UnfoldsAll values jsons → UnfoldsAll (value :: values) (json :: jsons)

end

end Tree

variable {graph : Graph}

theorem length_eq_of_unfoldsAll {values : List Value} {jsons : List Json}
    (hjsons : graph.UnfoldsAll values jsons) : values.length = jsons.length := by
  cases hjsons with
  | nil => rfl
  | cons _ hrest => rw [List.length_cons, List.length_cons, length_eq_of_unfoldsAll hrest]

theorem isFinite_of_toInt?_eq_some {x : Double} {n : Int} (hwhole : x.toInt? = some n) :
    x.isFinite = true := by
  by_contra hinfinite
  simp [Double.toInt?, hinfinite] at hwhole

mutual

/-- A value has no more than one tree. -/
theorem unfolds_unique {value : Value} {json other : Json} (hjson : graph.Unfolds value json)
    (hother : graph.Unfolds value other) : json = other := by
  match hjson with
  | .array hnode hitems =>
    cases hother with
    | array hnode' hitems' =>
      have hsame := Node.array.inj (hnode'.symm.trans hnode)
      rw [unfoldsAll_unique hitems (hsame ▸ hitems')]
    | callable hnode' => cases hnode.symm.trans hnode'
    | members hnode' => cases hnode.symm.trans hnode'
  | .members hnode hparts =>
    cases hother with
    | members _ hparts' => rw [unfoldsAll_unique hparts hparts']
    | callable hnode' => cases hnode.symm.trans hnode'
    | array hnode' => cases hnode.symm.trans hnode'
  | .callable hnode =>
    cases hother with
    | callable _ => rfl
    | array hnode' => cases hnode.symm.trans hnode'
    | members hnode' => cases hnode.symm.trans hnode'
  | .whole hwhole _ => cases hother <;> grind [isFinite_of_toInt?_eq_some]
  | .large hwhole _ => cases hother <;> grind [isFinite_of_toInt?_eq_some]
  | .fraction hpart hfinite => cases hother <;> grind
  | .infinite hinfinite => cases hother <;> grind [isFinite_of_toInt?_eq_some]
  | .undefined => cases hother; rfl
  | .null => cases hother; rfl
  | .bool _ => cases hother; rfl
  | .bigint _ => cases hother; rfl
  | .text _ => cases hother; rfl
  | .symbol _ => cases hother; rfl

theorem unfoldsAll_unique {values : List Value} {jsons others : List Json}
    (hjsons : graph.UnfoldsAll values jsons) (hothers : graph.UnfoldsAll values others) :
    jsons = others := by
  match hjsons with
  | .nil => cases hothers; rfl
  | .cons hjson hrest =>
    cases hothers with
    | cons hother hrest' => rw [unfolds_unique hjson hother, unfoldsAll_unique hrest hrest']

end

variable {σ : Type}

/-- A look at an object shows what it holds and changes nothing. -/
structure Shown (graph : Graph) (view : View (StateM σ)) (state : σ) (id : Nat) : Prop where
  shape : (view.shape id).run state = pure ((graph id).shape, state)
  keys : ∀ entries, graph id = .members entries →
    (view.keys id).run state = pure (.ok (entries.map (·.1)), state)
  read : ∀ part ∈ (graph id).parts,
    (view.read id part.key).run state = pure (.ok part.value, state)

/-- Each object in a value shows what it holds. -/
def Plain (graph : Graph) (view : View (StateM σ)) (state : σ) (value : Value) : Prop :=
  ∀ id, Relation.ReflTransGen graph.Holds value (.object id) → graph.Shown view state id

/-! ## The conversion -/

/-- How a conversion ends that comes by these objects: with the first fault that one of
them has, or with what it is for. -/
inductive Judged {α : Type} (way : List (List Nat)) (meets : α → Prop) : Except Thrown α → Prop
  | ok {result : α} : way.findSome? fault = none → meets result → Judged way meets (.ok result)
  | error {error : NativeError} :
      way.findSome? fault = some error → Judged way meets (.error (.native error))

namespace Judged

variable {α : Type} {meets : α → Prop} {outcome : Except Thrown α} {way : List (List Nat)}
  {objects : List Nat}

theorem cons (hfault : fault objects = none) (hjudged : Judged way meets outcome) :
    Judged (objects :: way) meets outcome := by
  cases hjudged with
  | ok hclean hmeets => exact .ok (by rw [List.findSome?_cons, hfault, hclean]) hmeets
  | error hfound => exact .error (by rw [List.findSome?_cons, hfault, hfound])

theorem cons_of_fault {error : NativeError} (hfault : fault objects = some error) :
    Judged (objects :: way) meets (.error (.native error)) :=
  .error (by rw [List.findSome?_cons, hfault])

end Judged

/-- The trees of parts, under their names. -/
def Branches (graph : Graph) (parts : List Part) (members : List (String × Json)) : Prop :=
  ∃ jsons, graph.UnfoldsAll (parts.map Part.value) jsons ∧
    members = (parts.map Part.name).zip jsons

theorem branches_cons {part : Part} {parts : List Part} {json : Json}
    {members : List (String × Json)} (hpart : graph.Unfolds part.value json)
    (hparts : graph.Branches parts members) :
    graph.Branches (part :: parts) ((part.name, json) :: members) := by
  obtain ⟨jsons, hjsons, rfl⟩ := hparts
  exact ⟨json :: jsons, .cons hpart hjsons, rfl⟩

variable {view : View (StateM σ)} {state : σ} {value : Value}
  {convertPart : Value → List Nat → StateM σ (Converted Json)} {way : Part → List (List Nat)}
  {id : Nat} {stack : List Nat}

/-- Parts are converted in their order up to the first that fails. -/
theorem run_convertMembers {parts : List Part}
    (hread : ∀ part ∈ parts, (view.read id part.key).run state = pure (.ok part.value, state))
    (hconvert : ∀ part ∈ parts, ∃ outcome,
      (convertPart part.value stack).run state = pure ((outcome, stack), state) ∧
      Judged (way part) (graph.Unfolds part.value) outcome) :
    ∃ outcome,
      (convertMembers view convertPart id stack
        (parts.map fun part => (part.name, part.key))).run state
        = pure ((outcome, stack), state) ∧
      Judged (parts.flatMap way) (graph.Branches parts) outcome := by
  induction parts with
  | nil => exact ⟨.ok [], rfl, .ok rfl ⟨[], .nil, rfl⟩⟩
  | cons part parts ih =>
    simp only [List.forall_mem_cons] at hread hconvert
    obtain ⟨outcome, hrun, hpart⟩ := hconvert.1
    obtain ⟨rest, hrest, hparts⟩ := ih hread.2 hconvert.2
    simp only [List.map_cons, convertMembers, StateT.run_bind, hread.1, List.flatMap_cons]
    cases hpart with
    | @error error hfault =>
      refine ⟨.error (.native error), by simp [hrun], .error ?_⟩
      rw [List.findSome?_append, hfault, Option.some_or]
    | @ok json hclean hjson =>
      cases hparts with
      | @error error hfault =>
        refine ⟨.error (.native error), by simp [hrun, hrest], .error ?_⟩
        rw [List.findSome?_append, hclean, Option.none_or, hfault]
      | @ok members hcleanRest hmembers =>
        refine ⟨.ok ((part.name, json) :: members), by simp [hrun, hrest],
          .ok ?_ (branches_cons hjson hmembers)⟩
        rw [List.findSome?_append, hclean, Option.none_or, hcleanRest]

theorem namedKeys_eq_map_parts (entries : List (Key × Value)) :
    namedKeys (entries.map (·.1)) =
      (Node.members entries).parts.map fun part => (part.name, part.key) := by
  simp only [namedKeys, Node.parts, List.filterMap_map, List.map_filterMap]
  congr 1
  funext entry
  simp [Option.map_map, Function.comp_def]

theorem range_map_eq_map_parts (items : List Value) :
    ((List.range items.length).map fun index => ("", Key.ofNat index)) =
      (Node.array items).parts.map fun part => (part.name, part.key) := by
  apply List.ext_getElem <;> simp [Node.parts]

theorem map_value_parts_array (items : List Value) :
    (Node.array items).parts.map Part.value = items := by
  apply List.ext_getElem <;> simp [Node.parts]

/-- What stands in an object makes up its tree. -/
theorem run_convertContent (hshown : graph.Shown view state id) (hnode : graph id ≠ .callable)
    (hconvert : ∀ part ∈ (graph id).parts, ∃ outcome,
      (convertPart part.value stack).run state = pure ((outcome, stack), state) ∧
      Judged (way part) (graph.Unfolds part.value) outcome) :
    ∃ outcome,
      (convertContent view convertPart id (graph id).shape stack).run state
        = pure ((outcome, stack), state) ∧
      Judged ((graph id).parts.flatMap way) (graph.Unfolds (.object id)) outcome := by
  obtain ⟨outcome, hrun, hparts⟩ := run_convertMembers hshown.read hconvert
  cases hcase : graph id with
  | callable => exact absurd hcase hnode
  | array items =>
    rw [hcase] at hrun hparts
    simp only [convertContent, Node.shape, range_map_eq_map_parts, StateT.run_bind, hrun]
    cases hparts with
    | @error error hfault => exact ⟨.error (.native error), rfl, .error hfault⟩
    | @ok members hclean hmembers =>
      obtain ⟨jsons, hjsons, rfl⟩ := hmembers
      rw [map_value_parts_array] at hjsons
      have hlength : jsons.length ≤ ((Node.array items).parts.map Part.name).length := by
        simp [Node.parts, length_eq_of_unfoldsAll hjsons]
      refine ⟨.ok (.array jsons), ?_, .ok hclean (.array hcase hjsons)⟩
      simp [Except.map, List.map_snd_zip hlength]
  | members entries =>
    rw [hcase] at hrun hparts
    simp only [convertContent, Node.shape, StateT.run_bind, hshown.keys entries hcase, pure_bind,
      namedKeys_eq_map_parts, hrun]
    cases hparts with
    | @error error hfault => exact ⟨.error (.native error), rfl, .error hfault⟩
    | @ok members hclean hmembers =>
      obtain ⟨jsons, hjsons, rfl⟩ := hmembers
      rw [← hcase] at hjsons
      refine ⟨_, rfl, .ok hclean ?_⟩
      rw [← hcase]
      exact .members hcase hjsons

theorem unfolds_number (x : Double) : graph.Unfolds (.number x) (jsonOfDouble x) := by
  unfold jsonOfDouble
  split
  · next n hwhole =>
    split
    · next hsmall => exact .whole hwhole hsmall
    · next hlarge => exact .large hwhole (Nat.le_of_not_lt hlarge)
  · next hpart =>
    split
    · next hfinite => exact .fraction hpart hfinite
    · next hinfinite => exact .infinite (Bool.eq_false_iff.2 hinfinite)

theorem plain_of_part {part : Part} (hplain : graph.Plain view state (.object id))
    (hpart : part ∈ (graph id).parts) : graph.Plain view state part.value :=
  fun inner hinner => hplain inner (.head ⟨id, rfl, part, hpart, rfl⟩ hinner)

theorem run_convert_of_isObject_eq_false {room depth : Nat} (hvalue : value.isObject = false) :
    ∃ outcome, (convert view room value stack).run state = pure ((outcome, stack), state) ∧
      Judged (graph.visits depth value stack) (graph.Unfolds value) outcome := by
  have hway : (graph.visits depth value stack).findSome? fault = none := by
    rw [visits_of_not_nests]
    · rfl
    · rintro id ⟨rfl, -⟩
      cases hvalue
  cases value with
  | undefined => exact ⟨.ok .null, by simp [convert], .ok hway .undefined⟩
  | null => exact ⟨.ok .null, by simp [convert], .ok hway .null⟩
  | bool value => exact ⟨.ok (.bool value), by simp [convert], .ok hway (.bool value)⟩
  | number x => exact ⟨.ok (jsonOfDouble x), by simp [convert], .ok hway (unfolds_number x)⟩
  | bigint value => exact ⟨.ok .null, by simp [convert], .ok hway (.bigint value)⟩
  | text units =>
    exact ⟨.ok (.string (Text.ofUnits units)), by simp [convert], .ok hway (.text units)⟩
  | symbol which => exact ⟨.ok .null, by simp [convert], .ok hway (.symbol which)⟩
  | object id => cases hvalue

/-- With the room that the stack leaves an object is refused where the stack has reached
its greatest height. -/
theorem convert_object {room : Nat} (hroom : stack.length + room = maxDepth) :
    convert view room (.object id) stack = do
      match ← view.shape id with
      | .function => return (.ok .null, stack)
      | shape =>
        if id ∈ stack then return (.error (.native cyclicOutput), stack)
        else if maxDepth ≤ stack.length then return (.error (.native deepOutput), stack)
        else
          let (result, after) ← convertContent view (convert view (room - 1)) id shape (id :: stack)
          return (result, after.tail) := by
  rw [convert]
  refine bind_congr fun shape => ?_
  cases room with
  | zero =>
    have hfull : maxDepth ≤ stack.length := by omega
    cases shape <;> simp [hfull]
  | succ room =>
    have hleft : ¬ maxDepth ≤ stack.length := by omega
    cases shape <;> simp [hleft]

/-- An object that can be converted is, with its parts; the others have the fault that is
found. -/
theorem run_convert_object {room : Nat} (hroom : stack.length + room = maxDepth)
    (hshown : graph.Shown view state id)
    (hparts : ∀ smaller, room = smaller + 1 → ∀ part ∈ (graph id).parts, ∃ outcome,
      (convert view smaller part.value (id :: stack)).run state
        = pure ((outcome, id :: stack), state) ∧
      Judged (graph.visits room part.value (id :: stack)) (graph.Unfolds part.value) outcome) :
    ∃ outcome,
      (convert view room (.object id) stack).run state = pure ((outcome, stack), state) ∧
      Judged (graph.visits (room + 1) (.object id) stack) (graph.Unfolds (.object id)) outcome := by
  rw [convert_object hroom, StateT.run_bind, hshown.shape, pure_bind]
  by_cases hnode : graph id = .callable
  · rw [visits_of_not_nests (by rintro inner ⟨⟨⟩, hinner⟩; exact hinner hnode), hnode]
    exact ⟨.ok .null, rfl, .ok rfl (.callable hnode)⟩
  rw [visits_of_nests ⟨rfl, hnode⟩]
  split
  · next hshape => exact absurd (Node.shape_eq_function_iff.1 hshape) hnode
  by_cases hmem : id ∈ stack
  · have hfault : fault (id :: stack) = some cyclicOutput := if_pos hmem
    exact ⟨.error (.native cyclicOutput), by rw [if_pos hmem]; rfl, .cons_of_fault hfault⟩
  rw [if_neg hmem]
  by_cases hfull : maxDepth ≤ stack.length
  · have hfault : fault (id :: stack) = some deepOutput := by simp [fault, hmem, hfull]
    exact ⟨.error (.native deepOutput), by rw [if_pos hfull]; rfl, .cons_of_fault hfault⟩
  have hfault : fault (id :: stack) = none :=
    fault_cons_eq_none_iff.2 ⟨hmem, Nat.lt_of_not_le hfull⟩
  obtain ⟨smaller, rfl⟩ : ∃ smaller, room = smaller + 1 := ⟨room - 1, by omega⟩
  obtain ⟨outcome, hrun, hjudged⟩ := run_convertContent hshown hnode (hparts smaller rfl)
  exact ⟨outcome, by simp [if_neg hfull, hrun], hjudged.cons hfault⟩

/-- With the room that the stack leaves, a conversion comes by the objects that a traversal
one deeper has, and leaves the stack as it was. -/
theorem run_convert {room : Nat} (hroom : stack.length + room = maxDepth)
    (hplain : graph.Plain view state value) :
    ∃ outcome, (convert view room value stack).run state = pure ((outcome, stack), state) ∧
      Judged (graph.visits (room + 1) value stack) (graph.Unfolds value) outcome := by
  induction room generalizing value stack with
  | zero =>
    cases value with
    | object id => exact run_convert_object hroom (hplain id .refl) (fun _ hzero => nomatch hzero)
    | _ => exact run_convert_of_isObject_eq_false rfl
  | succ room ih =>
    cases value with
    | object id =>
      refine run_convert_object hroom (hplain id .refl) ?_
      rintro _ ⟨⟩ part hpart
      exact ih (by simp only [List.length_cons]; omega) (plain_of_part hplain hpart)
    | _ => exact run_convert_of_isObject_eq_false rfl

theorem run_toJson {outcome : Except Thrown Json}
    (hrun : (convert view maxDepth value []).run state = pure ((outcome, []), state)) :
    (toJson view value).run state = pure (outcome, state) := by
  simp [toJson, hrun]

def leaf : Json :=
  .ofMembers [("v", .bool true)]

end Graph

end ServerRender.Script
