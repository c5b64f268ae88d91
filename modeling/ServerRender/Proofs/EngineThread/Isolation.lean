import ServerRender.Proofs.LoadRecord

/-!
# Components of one thread are isolated from each other

A thread keeps the environments of all its components in one table, and its engine has
one world.  The main statement compares two runs: what the operations on a component
come to is what they come to in the run that leaves out every operation on other
components.  A load of the component starts from nothing, so after it the comparison
even holds with a run on empty scopes, whatever was there before.  No operation has to
succeed for that: a load that fails has taken away the environment of its own component
and nothing else.
-/

namespace ServerRender

variable {World Environment : Type}

/-- Both calls ended in the same way; results need only be alike. -/
inductive Verdict.Like {α : Type} (alike : α → α → Prop) : Verdict α → Verdict α → Prop
  | value {left right : α} (halike : alike left right) : Like alike (.value left) (.value right)
  | failure (error : EngineError) : Like alike (.failure error) (.failure error)
  | panic : Like alike .panic .panic

def Reply.seen {State Outcome : Type} (reply : Reply State Outcome) : Reply Unit Outcome :=
  reply.map (fun _ => ()) id

/-- Nothing tells the replies apart, and the calls left states that are alike. -/
structure Reply.Like {State Outcome : Type} (alike : State → State → Prop)
    (left right : Reply State Outcome) : Prop where
  seen : left.seen = right.seen
  after : alike left.after right.after

namespace Reply.Like

variable {State Outcome Outcome' : Type} {alike : State → State → Prop}
variable {left right : Reply State Outcome}

theorem outcome (hlike : Like alike left right) : left.outcome = right.outcome :=
  congrArg (fun reply : Reply Unit Outcome => reply.outcome) hlike.seen

theorem wrap (hlike : Like alike left right) (f : Outcome → Outcome') :
    Like alike (left.map id f) (right.map id f) :=
  ⟨congrArg (Reply.map id f) hlike.seen, hlike.after⟩

end Reply.Like

/-- The engine makes independent environments.  Each may have a state, but what a call
comes to depends on the environment that it is made on and on nothing that was done with
the others.  Environments that are alike cannot be told apart by calls, which leaves an
engine free to number them. -/
structure Engine.Independent (engine : Engine World Environment)
    (alike : Environment → Environment → Prop) : Prop where
  create : ∀ world other,
    Verdict.Like alike (engine.create world).2 (engine.create other).2
  load : ∀ world other {left right} source, alike left right →
    Reply.Like alike (engine.load world left source).2 (engine.load other right source).2
  eval : ∀ world other {left right} script, alike left right →
    Reply.Like alike (engine.eval world left script).2 (engine.eval other right script).2

namespace EngineScopes

inductive Operation where
  | load (bundle : CodeBundle)
  | evaluate (component script : String)

def Operation.component : Operation → String
  | load bundle => bundle.component
  | evaluate component _ => component

def Operation.isOn (component : String) (operation : Operation) : Bool :=
  operation.component == component

abbrev Result := Verdict Unit ⊕ Verdict Json

def perform (engine : Engine World Environment) (world : World)
    (scopes : EngineScopes Environment) :
    Operation → World × Reply (EngineScopes Environment) Result
  | .load bundle =>
    let (world, reply) := scopes.load engine world bundle
    (world, reply.map id .inl)
  | .evaluate component script =>
    let (world, reply) := scopes.evaluate engine world component script
    (world, reply.map id .inr)

def performAll (engine : Engine World Environment) (world : World)
    (scopes : EngineScopes Environment) :
    List Operation → List (Operation × Reply Unit Result)
  | [] => []
  | operation :: rest =>
    let (next, reply) := scopes.perform engine world operation
    (operation, reply.seen) :: performAll engine next reply.after rest

def resultsOn (component : String) (results : List (Operation × Reply Unit Result)) :
    List (Operation × Reply Unit Result) :=
  results.filter fun result => result.1.isOn component

/-- The scopes have environments for the component that are alike, or both have none. -/
def AgreeOn (alike : Environment → Environment → Prop) (component : String)
    (left right : EngineScopes Environment) : Prop :=
  Option.Rel alike (left.environments.get? component) (right.environments.get? component)

variable {engine : Engine World Environment} {alike : Environment → Environment → Prop}
variable {scopes other : EngineScopes Environment} {component : String}

/-- An operation leaves the environments of other components alone, however it ends. -/
theorem get?_perform_of_ne (world : World) {operation : Operation}
    (hother : operation.component ≠ component) :
    (scopes.perform engine world operation).2.after.environments.get? component =
      scopes.environments.get? component := by
  cases operation with
  | load bundle =>
      change bundle.component ≠ component at hother
      rcases load_cases engine world scopes bundle with ⟨-, loaded, -, hafter⟩ | ⟨-, hafter⟩
      · simp [perform, Reply.map, hafter, Table.get?_insert, Table.get?_erase, hother]
      · simp [perform, Reply.map, hafter, Table.get?_erase, hother]
  | evaluate name script =>
      change name ≠ component at hother
      cases henvironment : scopes.environments.get? name with
      | none => simp [perform, Reply.map, evaluate_of_none engine world script henvironment]
      | some environment =>
          simp [perform, Reply.map, evaluate_of_environment engine world script henvironment,
            Table.get?_insert, hother]

/-- A load comes to the same on any two scopes: it looks at nothing that is there. -/
theorem like_load (hindependent : engine.Independent alike) (world elsewhere : World)
    (scopes other : EngineScopes Environment) (bundle : CodeBundle) :
    Reply.Like (AgreeOn alike bundle.component) (scopes.load engine world bundle).2
      (other.load engine elsewhere bundle).2 := by
  have hcreate := hindependent.create world elsewhere
  have hcleared : AgreeOn alike bundle.component
      ⟨scopes.environments.erase bundle.component⟩
      ⟨other.environments.erase bundle.component⟩ := by
    simp only [AgreeOn, Table.get?_erase, if_pos]
    exact .none
  rcases hleft : engine.create world with ⟨world', verdict⟩
  rcases hright : engine.create elsewhere with ⟨elsewhere', otherVerdict⟩
  rw [hleft, hright] at hcreate
  change Verdict.Like alike verdict otherVerdict at hcreate
  cases hcreate with
  | failure error =>
      simp only [load, hleft, hright]
      exact ⟨rfl, hcleared⟩
  | panic =>
      simp only [load, hleft, hright]
      exact ⟨rfl, hcleared⟩
  | @value fresh otherFresh halike =>
      have hlike := hindependent.load world' elsewhere' bundle.source halike
      have houtcome := hlike.outcome
      refine ⟨by simpa [load, hleft, hright, Reply.seen, Reply.map] using hlike.seen, ?_⟩
      cases hverdict : (engine.load elsewhere' otherFresh bundle.source).2.outcome with
      | value result =>
          simp only [load, hleft, hright, Reply.map, houtcome, hverdict, AgreeOn,
            Table.get?_insert, if_pos]
          exact .some hlike.after
      | failure error =>
          simpa only [load, hleft, hright, Reply.map, houtcome, hverdict] using hcleared
      | panic => simpa only [load, hleft, hright, Reply.map, houtcome, hverdict] using hcleared

theorem like_evaluate (hindependent : engine.Independent alike) (world elsewhere : World)
    (hagree : AgreeOn alike component scopes other) (script : String) :
    Reply.Like (AgreeOn alike component) (scopes.evaluate engine world component script).2
      (other.evaluate engine elsewhere component script).2 := by
  unfold AgreeOn at hagree
  cases hleft : scopes.environments.get? component with
  | none =>
      cases hright : other.environments.get? component with
      | some right => rw [hleft, hright] at hagree; contradiction
      | none =>
          rw [evaluate_of_none engine world script hleft,
            evaluate_of_none engine elsewhere script hright]
          exact ⟨rfl, hagree⟩
  | some left =>
      cases hright : other.environments.get? component with
      | none => rw [hleft, hright] at hagree; contradiction
      | some right =>
          rw [hleft, hright] at hagree
          obtain ⟨hseen, hafter⟩ :=
            hindependent.eval world elsewhere script (Option.rel_some_some.1 hagree)
          rw [evaluate_of_environment engine world script hleft,
            evaluate_of_environment engine elsewhere script hright]
          refine ⟨hseen, ?_⟩
          simp only [AgreeOn, Reply.map, Table.get?_insert, if_pos]
          exact .some hafter

/-- Scopes that agree on the component of an operation give the same result and agree on
it again. -/
theorem like_perform (hindependent : engine.Independent alike) (world elsewhere : World)
    {operation : Operation} (hagree : AgreeOn alike operation.component scopes other) :
    Reply.Like (AgreeOn alike operation.component) (scopes.perform engine world operation).2
      (other.perform engine elsewhere operation).2 := by
  cases operation with
  | load bundle => exact (like_load hindependent world elsewhere scopes other bundle).wrap Sum.inl
  | evaluate name script =>
      exact (like_evaluate hindependent world elsewhere hagree script).wrap Sum.inr

/-! ## Runs -/

/-- Two runs from scopes that agree on a component, of which the second performs only the
operations on it. -/
theorem resultsOn_performAll (hindependent : engine.Independent alike) (operations : List Operation)
    (world elsewhere : World) (hagree : AgreeOn alike component scopes other) :
    resultsOn component (scopes.performAll engine world operations) =
      other.performAll engine elsewhere (operations.filter (Operation.isOn component)) := by
  induction operations generalizing world elsewhere scopes other with
  | nil => rfl
  | cons operation rest ih =>
      -- An operation of its own keeps the scopes in agreement; one of another component, which
      -- only the first run performs, does not touch what they agree on.
      by_cases hown : operation.component = component
      · subst hown
        obtain ⟨hseen, hafter⟩ := like_perform hindependent world elsewhere hagree
        rw [List.filter_cons_of_pos (by simp [Operation.isOn])]
        simp only [performAll, resultsOn, Operation.isOn, List.filter_cons_of_pos, beq_self_eq_true]
        rw [hseen]
        exact congrArg _ (ih _ _ hafter)
      · rw [List.filter_cons_of_neg (by simpa [Operation.isOn] using hown)]
        simp only [performAll, resultsOn]
        rw [List.filter_cons_of_neg (by simpa [Operation.isOn] using hown)]
        refine ih _ _ ?_
        unfold AgreeOn
        rw [get?_perform_of_ne world hown]
        exact hagree

/-- What the operations on a component come to, with all others in between, is what they
come to when they are alone.  From a load of the component on, it is what they come to on
a thread that has loaded nothing, whichever environments there were before, its own
included. -/
theorem isolated_of_independent (hindependent : engine.Independent alike) (component : String)
    (operations : List Operation) (world elsewhere : World) :
    resultsOn component (empty.performAll engine world operations) =
      empty.performAll engine elsewhere (operations.filter (Operation.isOn component)) ∧
    ∀ (scopes : EngineScopes Environment) (bundle : CodeBundle), bundle.component = component →
      resultsOn component (scopes.performAll engine world (.load bundle :: operations)) =
        empty.performAll engine elsewhere
          (.load bundle :: operations.filter (Operation.isOn component)) := by
  refine ⟨resultsOn_performAll hindependent operations world elsewhere .none, ?_⟩
  rintro scopes bundle rfl
  have hlike := (like_load hindependent world elsewhere scopes empty bundle).wrap
    (Sum.inl : _ → Result)
  have hrest := resultsOn_performAll hindependent operations
    (scopes.perform engine world (.load bundle)).1
    (empty.perform engine elsewhere (.load bundle)).1 hlike.after
  calc resultsOn bundle.component (scopes.performAll engine world (.load bundle :: operations))
      = (.load bundle, (scopes.perform engine world (.load bundle)).2.seen) ::
          resultsOn bundle.component (performAll engine _
            (scopes.perform engine world (.load bundle)).2.after operations) := by
        simp [performAll, resultsOn, Operation.isOn, Operation.component]
    _ = (.load bundle, (empty.perform engine elsewhere (.load bundle)).2.seen) ::
          performAll engine _ (empty.perform engine elsewhere (.load bundle)).2.after
            (operations.filter (Operation.isOn bundle.component)) :=
        congr (congrArg _ (congrArg _ hlike.seen)) hrest

/-- Environments carry the number under which they were made and count evaluations. -/
def tallyEngine : Engine Nat (Nat × Nat) where
  create world := (world + 1, .value (world, 0))
  load world environment source :=
    (world, ⟨[], environment, [],
      if source = "broken" then .failure (.program "broken" []) else .value ()⟩)
  eval world environment _ :=
    (world, ⟨[], (environment.1, environment.2 + 1), [],
      .value (.number (.int (environment.2 + 1)))⟩)
  isOpen _ _ := true

theorem independent_tallyEngine :
    tallyEngine.Independent fun left right => left.2 = right.2 where
  create _ _ := .value rfl
  load _ _ _ _ _ halike := ⟨rfl, halike⟩
  eval _ _ left right _ halike := by
    have hcount : left.2 = right.2 := halike
    exact ⟨by simp [tallyEngine, Reply.seen, Reply.map, hcount], by simp [tallyEngine, hcount]⟩

/-- A component is evaluated twice, while the load of another one fails, and then loaded
again: its count starts from nothing. -/
theorem isolated_of_reload :
    ∃ operations : List Operation,
      operations = [.load ⟨"A", "a", 1⟩, .evaluate "A" "tick", .load ⟨"B", "broken", 1⟩,
        .evaluate "B" "tick", .evaluate "A" "tick", .load ⟨"A", "new", 2⟩,
        .evaluate "A" "tick"] ∧
      resultsOn "A" (empty.performAll tallyEngine 0 operations) =
        empty.performAll tallyEngine 9 (operations.filter (Operation.isOn "A")) ∧
      (resultsOn "A" (empty.performAll tallyEngine 0 operations)).map (·.2.outcome) =
        [.inl (.value ()), .inr (.value (.number (.int 1))), .inr (.value (.number (.int 2))),
          .inl (.value ()), .inr (.value (.number (.int 1)))] ∧
      resultsOn "A" ((⟨Table.empty.insert "A" (3, 7)⟩ : EngineScopes (Nat × Nat)).performAll
          tallyEngine 4 (.load ⟨"A", "a", 1⟩ :: operations)) =
        empty.performAll tallyEngine 9
          (.load ⟨"A", "a", 1⟩ :: operations.filter (Operation.isOn "A")) :=
  ⟨_, rfl, (isolated_of_independent independent_tallyEngine "A" _ 0 9).1, rfl,
    (isolated_of_independent independent_tallyEngine "A" _ 4 9).2 _ _ rfl⟩

end EngineScopes

end ServerRender
