import ServerRender.ExecutionContext

/-!
# The load record of a context

A context records which bundle it has loaded for each component, while the script
environments themselves live in its thread, out of its sight.  Both sides forget at
different occasions.  The main statement is that the record never claims more than
the thread holds: what is recorded for a component is the generation of a bundle whose
source was loaded, once and with success, into the environment that the thread has
for it.
-/

namespace ServerRender

variable {World Environment : Type}

/-- An environment that was made fresh, then loaded the source, once and with success,
and since then has only evaluated scripts. -/
inductive Engine.LoadedOnce (engine : Engine World Environment) (source : String) :
    Environment → Prop
  | loaded {world created : World} {fresh : Environment}
      (hcreate : engine.create world = (created, .value fresh))
      (hload : (engine.load created fresh source).2.outcome = .value ()) :
      LoadedOnce engine source (engine.load created fresh source).2.after
  | evaluated {environment : Environment} (world : World) (script : String)
      (hloaded : LoadedOnce engine source environment) :
      LoadedOnce engine source (engine.eval world environment script).2.after

inductive Deed where
  | load (source : String) (succeeded : Bool)
  | eval (script : String)

/-- The same engine, whose environments carry with them all that was done with them. -/
def Engine.recording (engine : Engine World Environment) :
    Engine World (Environment × List Deed) where
  create world :=
    match engine.create world with
    | (created, .value fresh) => (created, .value (fresh, []))
    | (created, .failure error) => (created, .failure error)
    | (created, .panic) => (created, .panic)
  load world entry source :=
    let (world, reply) := engine.load world entry.1 source
    let succeeded := match reply.outcome with
      | .value _ => true
      | _ => false
    (world, reply.map (fun after => (after, entry.2 ++ [.load source succeeded])) id)
  eval world entry script :=
    let (world, reply) := engine.eval world entry.1 script
    (world, reply.map (fun after => (after, entry.2 ++ [.eval script])) id)
  isOpen := engine.isOpen

/-- Nothing else than one successful load, then evaluations, was ever done with an
environment that was loaded once. -/
theorem Engine.LoadedOnce.deeds {engine : Engine World Environment} {source : String}
    {entry : Environment × List Deed} (hloaded : engine.recording.LoadedOnce source entry) :
    ∃ scripts : List String, entry.2 = .load source true :: scripts.map .eval := by
  induction hloaded with
  | @loaded world created fresh hcreate hload =>
      have hfresh : fresh.2 = [] := by
        simp only [recording] at hcreate
        split at hcreate <;> simp_all [Prod.ext_iff]
      refine ⟨[], ?_⟩
      simp only [recording, Reply.map, id_eq] at hload ⊢
      rw [hload, hfresh]
      rfl
  | evaluated world script hloaded ih =>
      obtain ⟨scripts, hscripts⟩ := ih
      refine ⟨scripts ++ [script], ?_⟩
      simp [recording, Reply.map, hscripts]

inductive Request where
  | create
  | load (source : String)
  | eval (script : String)

/-- The same engine, whose world carries with it all that was asked of it. -/
def Engine.listing (engine : Engine World Environment) :
    Engine (World × List Request) Environment where
  create entry :=
    let (world, verdict) := engine.create entry.1
    ((world, entry.2 ++ [.create]), verdict)
  load entry environment source :=
    let (world, reply) := engine.load entry.1 environment source
    ((world, entry.2 ++ [.load source]), reply)
  eval entry environment script :=
    let (world, reply) := engine.eval entry.1 environment script
    ((world, entry.2 ++ [.eval script]), reply)
  isOpen entry := engine.isOpen entry.1

namespace EngineScopes

/-- A successful load puts an environment with the source into the place of the
component; any other end leaves that place empty. -/
theorem load_cases (engine : Engine World Environment) (world : World)
    (scopes : EngineScopes Environment) (bundle : CodeBundle) :
    ((scopes.load engine world bundle).2.outcome = .value () ∧
      ∃ environment, engine.LoadedOnce bundle.source environment ∧
        (scopes.load engine world bundle).2.after =
          ⟨(scopes.environments.erase bundle.component).insert bundle.component
            environment⟩) ∨
    ((scopes.load engine world bundle).2.outcome ≠ .value () ∧
      (scopes.load engine world bundle).2.after =
        ⟨scopes.environments.erase bundle.component⟩) := by
  cases hcreate : engine.create world with
  | mk created verdict =>
      cases verdict with
      | failure error => exact .inr (by simp [load, hcreate])
      | panic => exact .inr (by simp [load, hcreate])
      | value fresh =>
          cases hload : (engine.load created fresh bundle.source).2.outcome with
          | value result =>
              refine .inl ⟨by simp [load, hcreate, Reply.map, hload], _,
                .loaded hcreate hload, ?_⟩
              simp [load, hcreate, Reply.map, hload]
          | failure error => exact .inr (by simp [load, hcreate, Reply.map, hload])
          | panic => exact .inr (by simp [load, hcreate, Reply.map, hload])

theorem evaluate_of_environment (engine : Engine World Environment) (world : World)
    {scopes : EngineScopes Environment} {component : String} (script : String)
    {environment : Environment}
    (henvironment : scopes.environments.get? component = some environment) :
    (scopes.evaluate engine world component script).2 =
      (engine.eval world environment script).2.map
        (fun after => ⟨scopes.environments.insert component after⟩) id := by
  simp [evaluate, henvironment]

theorem evaluate_of_none (engine : Engine World Environment) (world : World)
    {scopes : EngineScopes Environment} {component : String} (script : String)
    (hnone : scopes.environments.get? component = none) :
    (scopes.evaluate engine world component script).2 =
      ⟨[], scopes, [], .failure (.unavailable s!"component '{component}' is not loaded")⟩ := by
  simp [evaluate, hnone]

end EngineScopes

namespace EngineThread

variable {α : Type} {thread : EngineThread Environment}
variable {job : EngineScopes Environment → World × Reply (EngineScopes Environment) (Verdict α)}

theorem outcome_run : (thread.run job).2.outcome = answerOf (job thread.scopes).2.outcome := rfl

theorem value_of_answerOf {verdict : Verdict α} {result : α}
    (hanswer : answerOf verdict = .ok result) : verdict = .value result := by
  cases verdict with
  | value other => exact congrArg Verdict.value (Except.ok.inj hanswer)
  | failure error => contradiction
  | panic => contradiction

theorem scopes_run_of_value {result : α} (hvalue : (thread.run job).2.outcome = .ok result) :
    (thread.run job).2.after.scopes = (job thread.scopes).2.after := by
  have hverdict := value_of_answerOf hvalue
  simp [run, scopesAfter, hverdict]

/-- The thread drops its environments only where its answer says that the engine was
lost. -/
theorem scopes_run_of_available {error : EngineError}
    (herror : (thread.run job).2.outcome = .error error)
    (havailable : error.isUnavailable = false) :
    (thread.run job).2.after.scopes = (job thread.scopes).2.after := by
  rw [outcome_run] at herror
  cases hverdict : (job thread.scopes).2.outcome with
  | value result => simp [run, scopesAfter, hverdict]
  | failure other => simp [run, scopesAfter, hverdict]
  | panic =>
      rw [hverdict] at herror
      obtain rfl := Except.error.inj herror
      contradiction

end EngineThread

namespace ExecutionContext

def environment? (context : ExecutionContext Environment) (component : String) :
    Option Environment :=
  context.thread.scopes.environments.get? component

section Settle

variable {context : ExecutionContext Environment} {events : List Log.Event} {α : Type}

theorem settle_ok (value : α) : context.settle events (.ok value) = (context, events) := rfl

theorem settle_of_available {error : EngineError} (havailable : error.isUnavailable = false) :
    context.settle events (.error error : Except EngineError α) = (context, events) := by
  simp [settle, havailable]

theorem settle_of_unavailable {error : EngineError} (hlost : error.isUnavailable = true) :
    (context.settle events (.error error : Except EngineError α)).1 =
      { context with loaded := Table.empty } := by
  simp only [settle, hlost, Bool.true_and]
  split
  · rfl
  · next hempty =>
      have hloaded : context.loaded = Table.empty := by
        simp only [Bool.not_eq_true', Bool.not_eq_false, Table.isEmpty,
          List.isEmpty_iff] at hempty
        exact congrArg Table.mk hempty
      rw [← hloaded]

end Settle

theorem error_of_map {α β : Type} {f : α → β} {answer : Except EngineError α}
    {error : EngineError} (herror : answer.map f = .error error) : answer = .error error := by
  cases answer with
  | ok value => contradiction
  | error other => exact congrArg Except.error (Except.error.inj herror)

/-! ## Calls -/

inductive ContextCall where
  | ensureLoaded (bundle : CodeBundle)
  | evaluate (component script : String)

/-- A call in some state of the world, with its answer up to the value. -/
def perform (engine : Engine World Environment) (context : ExecutionContext Environment)
    (world : World) :
    ContextCall → Reply (ExecutionContext Environment) (Except EngineError Unit)
  | .ensureLoaded bundle =>
    (context.ensureLoaded engine world bundle).2.map (fun after => after) (·.map fun _ => ())
  | .evaluate component script =>
    (context.evaluate engine world component script).2.map (fun after => after)
      (·.map fun _ => ())

/-- The context after a sequence of calls.  The world may be any other one at each call,
so engines and their factory may behave in any way. -/
def afterCalls (engine : Engine World Environment) (context : ExecutionContext Environment)
    (calls : List (World × ContextCall)) : ExecutionContext Environment :=
  calls.foldl (fun context call => (context.perform engine call.1 call.2).after) context

/-- Whatever is recorded for a component is the generation of one of the bundles, and
the thread has an environment for it with the source of that bundle. -/
def RecordHeld (engine : Engine World Environment) (known : CodeBundle → Prop)
    (context : ExecutionContext Environment) : Prop :=
  ∀ component generation, context.generation? component = some generation →
    ∃ bundle, known bundle ∧ bundle.component = component ∧
      bundle.generation = generation ∧
      ∃ environment, context.environment? component = some environment ∧
        engine.LoadedOnce bundle.source environment

variable {engine : Engine World Environment} {known : CodeBundle → Prop}
variable {context : ExecutionContext Environment}

theorem recordHeld_of_empty (hempty : context.loaded = Table.empty) :
    context.RecordHeld engine known := by
  intro component generation hgeneration
  simp [generation?, hempty] at hgeneration

theorem recordHeld_create (id : Nat) :
    (ExecutionContext.create id : ExecutionContext Environment).RecordHeld engine known :=
  recordHeld_of_empty rfl

theorem RecordHeld.mono {larger : CodeBundle → Prop} (hheld : context.RecordHeld engine known)
    (hlarger : ∀ bundle, known bundle → larger bundle) :
    context.RecordHeld engine larger := by
  intro component generation hgeneration
  obtain ⟨bundle, hknown, hrest⟩ := hheld component generation hgeneration
  exact ⟨bundle, hlarger bundle hknown, hrest⟩

section Conclude

variable {α β : Type} {record : ExecutionContext Environment → ExecutionContext Environment}
variable {wrap : α → β} {reply : Reply (EngineThread Environment) (Except EngineError α)}

theorem conclude_of_ok {value : α} (hvalue : reply.outcome = .ok value) :
    context.conclude record wrap reply =
      ⟨reply.gates, record { context with thread := reply.after }, reply.events,
        .ok (wrap value)⟩ := by
  simp [conclude, hvalue, settle_ok, Except.map]

theorem outcome_conclude :
    (context.conclude record wrap reply).outcome = reply.outcome.map wrap := rfl

theorem after_conclude_of_available {error : EngineError}
    (herror : reply.outcome = .error error) (havailable : error.isUnavailable = false) :
    (context.conclude record wrap reply).after = { context with thread := reply.after } := by
  simp [conclude, herror, settle_of_available havailable]

/-- Once the caller knows that the engine was lost, nothing is on record.  So it does
not matter when the thread gets to drop its environments. -/
theorem loaded_conclude_of_unavailable {error : EngineError}
    (herror : reply.outcome = .error error) (hlost : error.isUnavailable = true) :
    (context.conclude record wrap reply).after.loaded = Table.empty := by
  simp [conclude, herror, settle_of_unavailable hlost]

theorem recordHeld_conclude
    (hvalue : ∀ value, reply.outcome = .ok value →
      (record { context with thread := reply.after }).RecordHeld engine known)
    (hfailure : ∀ error, reply.outcome = .error error → error.isUnavailable = false →
      RecordHeld engine known { context with thread := reply.after }) :
    (context.conclude record wrap reply).after.RecordHeld engine known := by
  cases houtcome : reply.outcome with
  | ok value =>
      rw [conclude_of_ok houtcome]
      exact hvalue value houtcome
  | error error =>
      cases hlost : error.isUnavailable with
      | true => exact recordHeld_of_empty (loaded_conclude_of_unavailable houtcome hlost)
      | false =>
          rw [after_conclude_of_available houtcome hlost]
          exact hfailure error houtcome hlost

end Conclude

theorem ensureLoaded_of_current {bundle : CodeBundle} (world : World)
    (hcurrent : context.generation? bundle.component = some bundle.generation) :
    context.ensureLoaded engine world bundle = (world, ⟨[], context, [], .ok false⟩) := by
  simp [ensureLoaded, hcurrent]

theorem outcome_ensureLoaded {bundle : CodeBundle} (world : World)
    (hstale : context.generation? bundle.component ≠ some bundle.generation) :
    (context.ensureLoaded engine world bundle).2.outcome =
      (EngineThread.answerOf (context.thread.scopes.load engine world bundle).2.outcome).map
        fun _ => true := by
  simp [ensureLoaded, hstale, outcome_conclude, EngineThread.load, EngineThread.run]

theorem generation?_ensureLoaded {bundle : CodeBundle} {world : World} {now : Bool}
    (hloaded : (context.ensureLoaded engine world bundle).2.outcome = .ok now) :
    (context.ensureLoaded engine world bundle).2.after.generation? bundle.component =
      some bundle.generation := by
  by_cases hcurrent : context.generation? bundle.component = some bundle.generation
  · rw [ensureLoaded_of_current world hcurrent]
    exact hcurrent
  · simp only [ensureLoaded, hcurrent, if_false] at hloaded ⊢
    rw [outcome_conclude] at hloaded
    cases houtcome : (context.thread.load engine world bundle).2.outcome with
    | error error =>
        rw [houtcome] at hloaded
        contradiction
    | ok value =>
        rw [conclude_of_ok houtcome]
        simp [generation?, Table.get?_insert]

/-- What is recorded for the other components is not touched by a load. -/
theorem recordHeld_load_failed {bundle : CodeBundle} {thread : EngineThread Environment}
    (hheld : context.RecordHeld engine known)
    (hscopes : thread.scopes = ⟨context.thread.scopes.environments.erase bundle.component⟩) :
    RecordHeld engine known
      { context with thread, loaded := context.loaded.erase bundle.component } := by
  intro component generation hgeneration
  simp only [generation?, Table.get?_erase] at hgeneration
  split at hgeneration
  · contradiction
  · next hcomponent =>
      obtain ⟨other, hother, hname, hnumber, found, hfound, horigin⟩ :=
        hheld component generation hgeneration
      refine ⟨other, hother, hname, hnumber, found, ?_, horigin⟩
      simpa [environment?, hscopes, Table.get?_erase, hcomponent] using hfound

theorem recordHeld_load {bundle : CodeBundle} {thread : EngineThread Environment}
    {environment : Environment} (hheld : context.RecordHeld engine known)
    (hknown : known bundle) (hsource : engine.LoadedOnce bundle.source environment)
    (hscopes : thread.scopes =
      ⟨(context.thread.scopes.environments.erase bundle.component).insert bundle.component
        environment⟩) :
    RecordHeld engine known
      { context with
        thread
        loaded := (context.loaded.erase bundle.component).insert bundle.component
          bundle.generation } := by
  intro component generation hgeneration
  by_cases hcomponent : bundle.component = component
  · subst hcomponent
    have hrecorded : bundle.generation = generation := by
      simpa [generation?, Table.get?_insert] using hgeneration
    refine ⟨bundle, hknown, rfl, hrecorded, environment, ?_, hsource⟩
    simp [environment?, hscopes, Table.get?_insert]
  · simp only [generation?, Table.get?_insert, Table.get?_erase, if_neg hcomponent]
      at hgeneration
    obtain ⟨other, hother, hname, hnumber, found, hfound, horigin⟩ :=
      hheld component generation hgeneration
    refine ⟨other, hother, hname, hnumber, found, ?_, horigin⟩
    simpa [environment?, hscopes, Table.get?_insert, Table.get?_erase, hcomponent] using hfound

theorem recordHeld_ensureLoaded {bundle : CodeBundle} (world : World)
    (hheld : context.RecordHeld engine known) (hknown : known bundle) :
    (context.ensureLoaded engine world bundle).2.after.RecordHeld engine known := by
  by_cases hcurrent : context.generation? bundle.component = some bundle.generation
  · rw [ensureLoaded_of_current world hcurrent]
    exact hheld
  simp only [ensureLoaded, hcurrent, if_false]
  refine recordHeld_conclude (fun value hvalue => ?_) (fun error herror havailable => ?_)
  · have hscopes := EngineThread.scopes_run_of_value hvalue
    rcases EngineScopes.load_cases engine world context.thread.scopes bundle with
      ⟨-, environment, hsource, hafter⟩ | ⟨hfailed, -⟩
    · exact recordHeld_load hheld hknown hsource (hscopes.trans hafter)
    · exact absurd (EngineThread.value_of_answerOf hvalue) hfailed
  · have hscopes := EngineThread.scopes_run_of_available herror havailable
    rcases EngineScopes.load_cases engine world context.thread.scopes bundle with
      ⟨hloaded, -⟩ | ⟨-, hafter⟩
    · rw [EngineThread.load, EngineThread.outcome_run, hloaded] at herror
      contradiction
    · exact recordHeld_load_failed hheld (hscopes.trans hafter)

/-- In a component that has an environment, the engine decides how an evaluation ends. -/
theorem outcome_evaluate {component : String} {environment : Environment} (world : World)
    (script : String) (henvironment : context.environment? component = some environment) :
    (context.evaluate engine world component script).2.outcome =
      EngineThread.answerOf (engine.eval world environment script).2.outcome := by
  have hscopes :=
    EngineScopes.evaluate_of_environment engine world script henvironment
  simp only [evaluate, outcome_conclude, EngineThread.evaluate, EngineThread.run, Reply.map,
    hscopes, id_eq]
  cases EngineThread.answerOf (engine.eval world environment script).2.outcome <;> rfl

/-- An evaluation changes the environment of one component and no record. -/
theorem recordHeld_evaluated {thread : EngineThread Environment} {component : String}
    {environment : Environment} (world : World) (script : String) (renders : Nat)
    (hheld : context.RecordHeld engine known)
    (henvironment : context.environment? component = some environment)
    (hscopes : thread.scopes =
      ⟨context.thread.scopes.environments.insert component
        (engine.eval world environment script).2.after⟩) :
    RecordHeld engine known { context with thread, renders } := by
  intro other generation hgeneration
  obtain ⟨bundle, hknown, hname, hnumber, found, hfound, horigin⟩ :=
    hheld other generation hgeneration
  by_cases hcomponent : component = other
  · subst hcomponent
    obtain rfl := Option.some.inj (henvironment.symm.trans hfound)
    refine ⟨bundle, hknown, hname, hnumber, _, ?_, horigin.evaluated world script⟩
    simp [environment?, hscopes, Table.get?_insert]
  · refine ⟨bundle, hknown, hname, hnumber, found, ?_, horigin⟩
    simpa [environment?, hscopes, Table.get?_insert, hcomponent] using hfound

theorem recordHeld_evaluate (world : World) (component script : String)
    (hheld : context.RecordHeld engine known) :
    (context.evaluate engine world component script).2.after.RecordHeld engine known := by
  simp only [evaluate]
  cases henvironment : context.environment? component with
  | none =>
      have hlost : (context.thread.evaluate engine world component script).2.outcome =
          .error (.unavailable s!"component '{component}' is not loaded") := by
        rw [EngineThread.evaluate, EngineThread.outcome_run,
          EngineScopes.evaluate_of_none engine world script henvironment]
        rfl
      exact recordHeld_of_empty (loaded_conclude_of_unavailable hlost rfl)
  | some environment =>
      have hafter := congrArg Reply.after
        (EngineScopes.evaluate_of_environment engine world script henvironment)
      refine recordHeld_conclude (fun value hvalue => ?_) (fun error herror havailable => ?_)
      · have hscopes := EngineThread.scopes_run_of_value hvalue
        exact recordHeld_evaluated world script _ hheld henvironment (hscopes.trans hafter)
      · have hscopes := EngineThread.scopes_run_of_available herror havailable
        exact recordHeld_evaluated world script _ hheld henvironment (hscopes.trans hafter)

/-! ## Sequences of calls -/

theorem recordHeld_perform (world : World) (call : ContextCall)
    (hheld : context.RecordHeld engine known)
    (hknown : ∀ bundle, call = .ensureLoaded bundle → known bundle) :
    (context.perform engine world call).after.RecordHeld engine known := by
  cases call with
  | ensureLoaded bundle => exact recordHeld_ensureLoaded world hheld (hknown bundle rfl)
  | evaluate component script => exact recordHeld_evaluate world component script hheld

theorem loaded_perform_of_unavailable {world : World} {call : ContextCall}
    {error : EngineError} (herror : (context.perform engine world call).outcome = .error error)
    (hlost : error.isUnavailable = true) :
    (context.perform engine world call).after.loaded = Table.empty := by
  cases call with
  | ensureLoaded bundle =>
      by_cases hcurrent : context.generation? bundle.component = some bundle.generation
      · simp [perform, ensureLoaded_of_current world hcurrent, Reply.map, Except.map] at herror
      · simp only [perform, Reply.map, ensureLoaded, hcurrent, if_false] at herror ⊢
        exact loaded_conclude_of_unavailable (error_of_map (error_of_map herror)) hlost
  | evaluate component script =>
      simp only [perform, Reply.map, evaluate] at herror ⊢
      exact loaded_conclude_of_unavailable (error_of_map (error_of_map herror)) hlost

def Asked (calls : List (World × ContextCall)) (bundle : CodeBundle) : Prop :=
  ∃ world, (world, .ensureLoaded bundle) ∈ calls

theorem recordHeld_afterCalls (calls : List (World × ContextCall))
    (hheld : context.RecordHeld engine known)
    (hknown : ∀ bundle, Asked calls bundle → known bundle) :
    (context.afterCalls engine calls).RecordHeld engine known := by
  induction calls generalizing context with
  | nil => exact hheld
  | cons call rest ih =>
      refine ih (recordHeld_perform call.1 call.2 hheld ?_) ?_
      · intro bundle hcall
        exact hknown bundle ⟨call.1, by simp [← hcall]⟩
      · intro bundle ⟨world, hmem⟩
        exact hknown bundle ⟨world, List.mem_cons_of_mem call hmem⟩

/-- Component and generation tell the source, as they do for the bundles of one cache. -/
def SourceDetermined (known : CodeBundle → Prop) : Prop :=
  ∀ bundle other, known bundle → known other → bundle.component = other.component →
    bundle.generation = other.generation → bundle.source = other.source

/-- The record never claims more than the thread holds, whatever the calls were and
however they ended.  It is empty from the moment that a call finds the engine lost, so
this holds while the thread still drops its environments, too.  And where component and
generation tell the source, an evaluation right after a load runs in an environment
that has loaded the very source of the bundle. -/
theorem recordHeld_of_calls (engine : Engine World Environment) (number : Nat)
    (calls : List (World × ContextCall)) {context : ExecutionContext Environment}
    (hcontext : context = (ExecutionContext.create number).afterCalls engine calls) :
    context.RecordHeld engine (Asked calls) ∧
    (∀ world call error, (context.perform engine world call).outcome = .error error →
      error.isUnavailable = true →
      (context.perform engine world call).after.loaded = Table.empty) ∧
    ∀ bundle world now,
      SourceDetermined (fun other => other = bundle ∨ Asked calls other) →
      (context.ensureLoaded engine world bundle).2.outcome = .ok now →
      ∃ environment,
        (context.ensureLoaded engine world bundle).2.after.environment? bundle.component =
          some environment ∧
        engine.LoadedOnce bundle.source environment ∧
        ∀ later script,
          ((context.ensureLoaded engine world bundle).2.after.evaluate engine later
            bundle.component script).2.outcome =
            EngineThread.answerOf (engine.eval later environment script).2.outcome := by
  subst hcontext
  refine ⟨recordHeld_afterCalls calls (recordHeld_create number) fun bundle hasked => hasked,
    fun world call error => loaded_perform_of_unavailable,
    fun bundle world now hdetermined hloaded => ?_⟩
  have hknown : RecordHeld engine (fun other => other = bundle ∨ Asked calls other)
      ((ExecutionContext.create number).afterCalls engine calls) :=
    recordHeld_afterCalls calls (recordHeld_create number) fun other hasked => .inr hasked
  have hheld := recordHeld_ensureLoaded world hknown (.inl rfl)
  obtain ⟨other, hother, hname, hnumber, environment, henvironment, hsource⟩ :=
    hheld _ _ (generation?_ensureLoaded hloaded)
  rw [hdetermined other bundle hother (.inl rfl) hname hnumber] at hsource
  exact ⟨environment, henvironment, hsource,
    fun later script => outcome_evaluate later script henvironment⟩

/-- An engine whose environments hold the source that was loaded last.  Every script
yields it, but for one that makes the engine panic. -/
def sourceEngine : Engine Unit String where
  create world := (world, .value "")
  load world _ source := (world, ⟨[], source, [], .value ()⟩)
  eval world environment script :=
    (world, ⟨[], environment, [],
      if script = "panic" then .panic else .value (.string environment)⟩)
  isOpen _ _ := true

/-- Two components are loaded, a panic in one of them costs both their environments, and
the first one is then loaded again before it is used. -/
theorem recordHeld_after_panic :
    ∃ (context : ExecutionContext String) (environment : String),
      context = (ExecutionContext.create 0).afterCalls sourceEngine
        [((), .ensureLoaded ⟨"A", "a", 1⟩), ((), .ensureLoaded ⟨"B", "b", 2⟩),
          ((), .evaluate "B" "panic")] ∧
      context.environmentCount = 0 ∧
      (context.ensureLoaded sourceEngine () ⟨"A", "a", 1⟩).2.outcome = .ok true ∧
      sourceEngine.LoadedOnce "a" environment ∧
      ∀ later script,
        ((context.ensureLoaded sourceEngine () ⟨"A", "a", 1⟩).2.after.evaluate sourceEngine
          later "A" script).2.outcome =
          EngineThread.answerOf (sourceEngine.eval later environment script).2.outcome := by
  have hdetermined : SourceDetermined fun other => other = ⟨"A", "a", 1⟩ ∨
      Asked [((), .ensureLoaded ⟨"A", "a", 1⟩), ((), .ensureLoaded ⟨"B", "b", 2⟩),
        ((), .evaluate "B" "panic")] other := by
    have hcases : ∀ other : CodeBundle, (other = ⟨"A", "a", 1⟩ ∨
        Asked [((), .ensureLoaded ⟨"A", "a", 1⟩), ((), .ensureLoaded ⟨"B", "b", 2⟩),
          ((), .evaluate "B" "panic")] other) →
        other = ⟨"A", "a", 1⟩ ∨ other = ⟨"B", "b", 2⟩ := by
      simp [Asked]
    intro bundle other hbundle hother hcomponent _
    rcases hcases bundle hbundle with rfl | rfl <;>
      rcases hcases other hother with rfl | rfl <;> simp at hcomponent ⊢
  obtain ⟨-, -, hload⟩ := recordHeld_of_calls sourceEngine 0
    [((), .ensureLoaded ⟨"A", "a", 1⟩), ((), .ensureLoaded ⟨"B", "b", 2⟩),
      ((), .evaluate "B" "panic")] rfl
  obtain ⟨environment, -, hsource, heval⟩ := hload ⟨"A", "a", 1⟩ () true hdetermined rfl
  exact ⟨_, environment, rfl, rfl, rfl, hsource, heval⟩

end ExecutionContext

end ServerRender
