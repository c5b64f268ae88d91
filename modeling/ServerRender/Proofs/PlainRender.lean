import ServerRender.Proofs.LoadRecord
import ServerRender.Renderer

/-!
# Rendering the plain way

The plain way to render is to make a fresh environment for every call, to load the
bundle into it, to evaluate the wrapper script and to take the markup out of the value.
A context does less: it loads a bundle once and then goes on with what earlier calls
have left behind.  With an engine that keeps nothing in mind between evaluations this
makes no difference, as long as the record of the context is held.
-/

namespace ServerRender

variable {World Environment : Type}

/-- Goes on with a value.  A panic counts as an engine that is out of reach. -/
def Verdict.followedBy {α β : Type} (verdict : Verdict α)
    (next : α → Except EngineError β) : Except EngineError β :=
  match verdict with
  | .value result => next result
  | .failure error => .error error
  | .panic => .error (.unavailable "engine job aborted")

/-- The markup that a fresh environment makes of a bundle and a wrapper script. -/
def Engine.renderPlainly (engine : Engine World Environment) (world : World)
    (source script : String) : Except EngineError String :=
  let (created, verdict) := engine.create world
  verdict.followedBy fun fresh =>
    let (later, loaded) := engine.load created fresh source
    loaded.outcome.followedBy fun _ =>
      (engine.eval later loaded.after script).2.outcome.followedBy Installation.outputOf

/-- The answer to a render the plain way, in the words of the renderer. -/
def plainAnswer (engine : Engine World Environment) (world : World) (template : Template)
    (bundle : CodeBundle) (component urlPath props : String) : Except RenderError Answer :=
  match engine.renderPlainly world bundle.source
      (template.wrapperScript ⟨component, urlPath, props⟩) with
  | .ok markup => .ok (.markup markup)
  | .error (.unavailable message) => .error (.engineUnavailable message)
  | .error cause => .error (.prerender ⟨component, propsPreview props, cause⟩)

/-- Whether environments can be made is settled once and for all, how a load ends
depends on the source alone, and how an evaluation ends on the loaded source and the
script. -/
structure Engine.Stateless (engine : Engine World Environment)
    (loads : String → Verdict Unit) (evals : String → String → Verdict Json) : Prop where
  creates : ∀ {world created : World} {fresh : Environment},
    engine.create world = (created, .value fresh) →
    ∀ other, ∃ otherCreated otherFresh, engine.create other = (otherCreated, .value otherFresh)
  loads_eq : ∀ {world created : World} {fresh : Environment},
    engine.create world = (created, .value fresh) →
    ∀ source, (engine.load created fresh source).2.outcome = loads source
  evals_eq : ∀ {source : String} {environment : Environment},
    engine.LoadedOnce source environment →
    ∀ world script, (engine.eval world environment script).2.outcome = evals source script

namespace Verdict

variable {α β : Type}

theorem followedBy_eq_bind (verdict : Verdict α) (next : α → Except EngineError β) :
    verdict.followedBy next = (EngineThread.answerOf verdict).bind next := by
  cases verdict <;> rfl

/-- Without a value it does not matter how to go on. -/
theorem followedBy_of_error {verdict : Verdict α} {error : EngineError}
    (herror : EngineThread.answerOf verdict = .error error)
    (next : α → Except EngineError β) : verdict.followedBy next = .error error := by
  rw [followedBy_eq_bind, herror]
  rfl

end Verdict

namespace Engine

variable {engine : Engine World Environment}
variable {loads : String → Verdict Unit} {evals : String → String → Verdict Json}

theorem renderPlainly_of_created {world created : World} {fresh : Environment}
    (hcreate : engine.create world = (created, .value fresh)) (source script : String) :
    engine.renderPlainly world source script =
      (engine.load created fresh source).2.outcome.followedBy fun _ =>
        (engine.eval (engine.load created fresh source).1
          (engine.load created fresh source).2.after script).2.outcome.followedBy
            Installation.outputOf := by
  simp only [renderPlainly, hcreate]
  rfl

/-- Where an environment can be made, the plain way always comes to the same. -/
theorem Stateless.renderPlainly_eq (hstateless : engine.Stateless loads evals)
    {world created : World} {fresh : Environment}
    (hcreate : engine.create world = (created, .value fresh)) (source script : String) :
    engine.renderPlainly world source script =
      (loads source).followedBy fun _ =>
        (evals source script).followedBy Installation.outputOf := by
  rw [renderPlainly_of_created hcreate, hstateless.loads_eq hcreate]
  cases hloads : loads source with
  | failure error => rfl
  | panic => rfl
  | value result =>
      have hload := (hstateless.loads_eq hcreate source).trans hloads
      have heval := hstateless.evals_eq (.loaded hcreate hload)
        (engine.load created fresh source).1 script
      simp only [Verdict.followedBy, heval]

theorem Stateless.renderPlainly_congr (hstateless : engine.Stateless loads evals)
    {world created : World} {fresh : Environment}
    (hcreate : engine.create world = (created, .value fresh)) (start other : World)
    (source script : String) :
    engine.renderPlainly start source script = engine.renderPlainly other source script := by
  obtain ⟨startCreated, startFresh, hstart⟩ := hstateless.creates hcreate start
  obtain ⟨otherCreated, otherFresh, hother⟩ := hstateless.creates hcreate other
  rw [hstateless.renderPlainly_eq hstart, hstateless.renderPlainly_eq hother]

/-- An environment that was loaded once evaluates a script as a fresh one does. -/
theorem LoadedOnce.exists_renderPlainly (hstateless : engine.Stateless loads evals)
    {source : String} {environment : Environment}
    (hloaded : engine.LoadedOnce source environment) (script : String) :
    ∃ start, engine.renderPlainly start source script =
      (evals source script).followedBy Installation.outputOf := by
  induction hloaded with
  | @loaded world created fresh hcreate hload =>
      refine ⟨world, ?_⟩
      rw [hstateless.renderPlainly_eq hcreate, ← hstateless.loads_eq hcreate, hload]
      rfl
  | evaluated world earlier hloaded ih => exact ih

end Engine

namespace EngineScopes

/-- A load that fails in a context fails in the same way on the plain way. -/
theorem renderPlainly_of_load {engine : Engine World Environment} {world : World}
    {scopes : EngineScopes Environment} {bundle : CodeBundle} {cause : EngineError}
    (hfailed : EngineThread.answerOf (scopes.load engine world bundle).2.outcome = .error cause)
    (script : String) : engine.renderPlainly world bundle.source script = .error cause := by
  cases hcreate : engine.create world with
  | mk created verdict =>
      cases verdict with
      | value fresh =>
          rw [Engine.renderPlainly_of_created hcreate]
          simp only [load, hcreate, Reply.map, id_eq] at hfailed
          exact Verdict.followedBy_of_error hfailed _
      | failure error =>
          simp only [load, hcreate] at hfailed
          obtain rfl := Except.error.inj hfailed
          simp only [Engine.renderPlainly, hcreate, Verdict.followedBy]
      | panic =>
          simp only [load, hcreate] at hfailed
          obtain rfl := Except.error.inj hfailed
          simp only [Engine.renderPlainly, hcreate, Verdict.followedBy]

end EngineScopes

namespace ExecutionContext

variable {engine : Engine World Environment} {context : ExecutionContext Environment}
variable {loads : String → Verdict Unit} {evals : String → String → Verdict Json}

theorem renderPlainly_of_ensureLoaded {world : World} {bundle : CodeBundle}
    {cause : EngineError}
    (hfailed : (context.ensureLoaded engine world bundle).2.outcome = .error cause)
    (script : String) : engine.renderPlainly world bundle.source script = .error cause := by
  by_cases hcurrent : context.generation? bundle.component = some bundle.generation
  · rw [ensureLoaded_of_current world hcurrent] at hfailed
    contradiction
  · rw [outcome_ensureLoaded world hcurrent] at hfailed
    exact EngineScopes.renderPlainly_of_load (error_of_map hfailed) script

/-- In a context that has the bundle on record, an evaluation comes to what the plain
way comes to. -/
theorem exists_renderPlainly_of_evaluate (hstateless : engine.Stateless loads evals)
    {known : CodeBundle → Prop} {bundle : CodeBundle} (world : World) (script : String)
    (hheld : context.RecordHeld engine known) (hdetermined : SourceDetermined known)
    (hknown : known bundle)
    (hloaded : context.generation? bundle.component = some bundle.generation) :
    ∃ start, engine.renderPlainly start bundle.source script =
      (context.evaluate engine world bundle.component script).2.outcome.bind
        Installation.outputOf := by
  obtain ⟨other, hother, hname, hnumber, environment, henvironment, horigin⟩ :=
    hheld _ _ hloaded
  rw [hdetermined other bundle hother hknown hname hnumber] at horigin
  obtain ⟨start, hplain⟩ := horigin.exists_renderPlainly hstateless script
  refine ⟨start, ?_⟩
  calc
    engine.renderPlainly start bundle.source script =
        (evals bundle.source script).followedBy Installation.outputOf := hplain
    _ = (EngineThread.answerOf (evals bundle.source script)).bind Installation.outputOf :=
      Verdict.followedBy_eq_bind _ _
    _ = (context.evaluate engine world bundle.component script).2.outcome.bind
        Installation.outputOf := by
      rw [outcome_evaluate world script henvironment, hstateless.evals_eq horigin]

end ExecutionContext

end ServerRender
