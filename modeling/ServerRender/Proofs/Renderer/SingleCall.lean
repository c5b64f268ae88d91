import ServerRender.Proofs.Pool.SingleCaller
import ServerRender.Renderer.Schedule

/-!
# Calls that are made one at a time

A renderer whose calls are all finished takes one more call to load a component and runs
until it has the answer.  The steps that it takes for that are always the same six, and
what is left is a renderer that takes the next call in the same way, with the context
that this one has given back.
-/

namespace ServerRender

variable {World Environment : Type} {engine : Engine World Environment}

def Job.IsFinished (job : Job Environment) : Prop :=
  ∃ result, job.stage = .finished result

namespace Renderer

variable {world : World} {installation : Installation Environment}
variable {desk settled : Pool.Desk (ExecutionContext Environment)}
variable {jobs : List (Job Environment)} {call : Call} {stage : Stage Environment}
variable {renderer next : Renderer World Environment} {events : List Log.Event}
variable {attempt : Attempt} {bundle : CodeBundle} {wrapper : String}
variable {time count caller : Nat}

/-- A renderer with one installation, whose calls are all finished but for the last. -/
def serving (world : World) (installation : Installation Environment)
    (desk : Pool.Desk (ExecutionContext Environment)) (jobs : List (Job Environment))
    (call : Call) (stage : Stage Environment) : Renderer World Environment :=
  ⟨world, [{ installation with desk }], jobs ++ [⟨call, false, stage⟩]⟩

@[simp]
theorem job_serving :
    (serving world installation desk jobs call stage).jobs[jobs.length]? =
      some ⟨call, false, stage⟩ :=
  List.getElem?_concat_length

theorem setStage_serving (later : Stage Environment) :
    (serving world installation desk jobs call stage).setStage jobs.length later =
      serving world installation desk jobs call later := by
  simp only [setStage, serving]
  rw [modify_concat_length]

theorem setDesk_serving (later : Pool.Desk (ExecutionContext Environment)) :
    (serving world installation desk jobs call stage).setDesk 0 later =
      serving world installation later jobs call stage := rfl

theorem setDesk_setStage_serving (later : Pool.Desk (ExecutionContext Environment))
    (after : Stage Environment) :
    ((serving world installation desk jobs call stage).setDesk 0 later).setStage jobs.length
        after =
      serving world installation later jobs call after := by
  rw [setDesk_serving, setStage_serving]

theorem step_of_finished {job : Nat} {state : Job Environment}
    (hstate : renderer.jobs[job]? = some state) (hfinished : state.IsFinished) :
    renderer.step engine time job = none := by
  obtain ⟨result, hstage⟩ := hfinished
  rw [step, hstate, Option.bind_eq_bind, Option.bind_some, hstage]

/-- Where all other calls are finished, it is the last one's turn. -/
theorem stepFirst?_serving (hfinished : ∀ job ∈ jobs, job.IsFinished) :
    (serving world installation desk jobs call stage).stepFirst? engine time =
      (serving world installation desk jobs call stage).step engine time jobs.length := by
  have hlength : (serving world installation desk jobs call stage).jobs.length =
      jobs.length + 1 := by
    simp [serving]
  have hothers : (List.range jobs.length).findSome? (fun job =>
      (serving world installation desk jobs call stage).step engine time job) = none := by
    rw [List.findSome?_eq_none_iff]
    intro job hjob
    rw [List.mem_range] at hjob
    have hstate : (serving world installation desk jobs call stage : Renderer World
        Environment).jobs[job]? = some jobs[job] := by
      rw [serving, List.getElem?_append_left hjob, List.getElem?_eq_getElem hjob]
    exact step_of_finished hstate (hfinished _ (List.getElem_mem hjob))
  rw [stepFirst?, hlength, List.range_succ, List.findSome?_append, hothers]
  simp

theorem settleDesks_serving :
    (serving world installation desk jobs call stage).settleDesks.1 =
      serving world installation (desk.settle factory).1 jobs call stage := rfl

/-- The pool serves whom it can, and then the last call takes a step. -/
theorem runSteps_serving (hfinished : ∀ job ∈ jobs, job.IsFinished)
    (hsettled : (desk.settle factory).1 = settled)
    (hstep : (serving world installation settled jobs call stage).step engine time jobs.length =
      some (next, events)) :
    ((serving world installation desk jobs call stage).runSteps engine time (count + 1)).1 =
      (next.runSteps engine time count).1 := by
  have hdesks : (serving world installation desk jobs call stage).settleDesks.1 =
      serving world installation settled jobs call stage := by
    rw [settleDesks_serving, hsettled]
  simp only [runSteps]
  rw [hdesks, stepFirst?_serving hfinished, hstep]

theorem runSteps_finished (hfinished : ∀ job ∈ jobs, job.IsFinished)
    (hsettled : (desk.settle factory).1 = settled) (result : Except RenderError Answer) :
    ((serving world installation desk jobs call (.finished result)).runSteps engine time
        (count + 1)).1 =
      serving world installation settled jobs call (.finished result) := by
  have hdesks : (serving world installation desk jobs call (.finished result)).settleDesks.1 =
      serving world installation settled jobs call (.finished result) := by
    rw [settleDesks_serving, hsettled]
  simp only [runSteps]
  rw [hdesks, stepFirst?_serving hfinished, step_of_finished job_serving ⟨result, rfl⟩]

theorem step_entering :
    (serving world installation desk jobs call .entering).step engine time jobs.length =
      some (serving world installation desk jobs call (.entered 0), []) := by
  rw [step, job_serving, Option.bind_eq_bind, Option.bind_some]
  exact congrArg (fun later => some (later, [])) (setStage_serving _)

theorem step_entered {component : String}
    (hget : installation.cache.get component = .ok bundle) :
    (serving world installation desk jobs (.load component) (.entered 0)).step engine time
        jobs.length =
      some (serving world installation (desk.arrive time installation.millis) jobs
        (.load component) (.checkout ⟨0, desk.callers.length, bundle, ""⟩), []) := by
  have htake : (serving world installation desk jobs (.load component) (.entered 0)).takeBundle
      time jobs.length (.load component) 0 { installation with desk } =
      serving world installation (desk.arrive time installation.millis) jobs
        (.load component) (.checkout ⟨0, desk.callers.length, bundle, ""⟩) := by
    simp only [takeBundle, Call.component, hget, setDesk_serving, setStage_serving]
  rw [← htake, step, job_serving]
  rfl

theorem step_checkout {context : ExecutionContext Environment}
    (hphase : desk.phase? caller = some (.holding context)) :
    (serving world installation desk jobs call (.checkout ⟨0, caller, bundle, wrapper⟩)).step
        engine time jobs.length =
      some (serving (context.ensureLoaded engine world bundle).1 installation desk jobs call
        (.working ⟨0, caller, bundle, wrapper⟩ ((context.ensureLoaded engine world bundle).2.map
          id fun outcome => outcome.map .loaded)), []) := by
  rw [step, job_serving, Option.bind_eq_bind, Option.bind_some]
  simp only [serving, List.getElem?_cons_zero, Option.bind_eq_bind, Option.bind_some, hphase]
  exact congrArg (fun later => some (later, [])) (setStage_serving _)

theorem step_working
    {reply : Reply (ExecutionContext Environment) (Except EngineError Work)}
    (hgates : reply.gates.all (engine.isOpen world) = true) :
    (serving world installation desk jobs call
        (.working ⟨0, caller, bundle, wrapper⟩ reply)).step engine time jobs.length =
      some (serving world installation (desk.updateHeld caller reply.after) jobs call
        (stageAfterWork call ⟨0, caller, bundle, wrapper⟩ reply.outcome), reply.events) := by
  rw [step, job_serving, Option.bind_eq_bind, Option.bind_some]
  exact (if_pos hgates).trans (congrArg (fun later => some (later, reply.events))
    (setDesk_setStage_serving _ _))

theorem step_leaving {result : Except EngineError Answer}
    {left : Pool.Desk (ExecutionContext Environment)} {logged : List Log.Event}
    (hrelease : desk.step (.release caller) = some (left, logged)) :
    (serving world installation desk jobs call
        (.leaving ⟨0, caller, bundle, wrapper⟩ result)).step engine time jobs.length =
      some (serving world installation left jobs call
        (.finished (concludeCall installation call ⟨0, caller, bundle, wrapper⟩ result).1),
        (concludeCall installation call ⟨0, caller, bundle, wrapper⟩ result).2) := by
  rw [step, job_serving, Option.bind_eq_bind, Option.bind_some]
  simp only [serving, List.getElem?_cons_zero, Option.bind_eq_bind, Option.bind_some, hrelease]
  exact congrArg (fun later => some (later, _)) (setDesk_setStage_serving _ _)

theorem stageAfterWork_load {component : String} (outcome : Except EngineError Bool) :
    (stageAfterWork (.load component) attempt (outcome.map Work.loaded) : Stage Environment) =
      .leaving attempt (outcome.map Answer.loaded) := by
  cases outcome with
  | ok now => rfl
  | error error => rfl

/-- What a load comes to at a quiet renderer.  The context that is lent to it is the idle
one or a new one, and comes back as the engine has left it. -/
theorem runSteps_load (time count : Nat) {component : String}
    {work : World × Reply (ExecutionContext Environment) (Except EngineError Bool)}
    (hquiet : installation.desk.Quiet) (hfinished : ∀ job ∈ jobs, job.IsFinished)
    (hget : installation.cache.get component = .ok bundle)
    (hwork : (installation.desk.pool.lend ExecutionContext.create).1.ensureLoaded engine world
      bundle = work)
    (hgates : work.2.gates.all (engine.isOpen work.1) = true) :
    ∃ answer,
      answer = (concludeCall installation (.load component)
        ⟨0, installation.desk.callers.length, bundle, ""⟩ (work.2.outcome.map .loaded)).1 ∧
      ((serving world installation installation.desk jobs (.load component) .entering).runSteps
          engine time (count + 6)).1 =
        serving work.1 installation
          (installation.desk.visited .create time installation.millis work.2.after) jobs
          (.load component) (.finished answer) := by
  have hopen := (Pool.closed_lend ExecutionContext.create installation.desk.pool).trans
    hquiet.closed_eq
  have hheld : ∀ context : ExecutionContext Environment,
      Pool.Phase.IsSettled (.holding context) := fun _ => trivial
  have hreturned : Pool.Phase.IsSettled
      (.returned : Pool.Phase (ExecutionContext Environment)) := trivial
  refine ⟨_, rfl, ?_⟩
  -- Before each step the desk is served: it is quiet until the call steps up to it, then the
  -- caller gets its context, and in the end the notice of the release finds nobody.
  rw [runSteps_serving hfinished hquiet.settle_eq step_entering,
    runSteps_serving hfinished hquiet.settle_eq (step_entered hget),
    runSteps_serving hfinished (Pool.Desk.settle_arrive hquiet time installation.millis)
      (step_checkout Pool.Desk.phase?_joined),
    hwork,
    runSteps_serving hfinished (Pool.Desk.settle_joined hquiet.served (hheld _))
      (step_working hgates),
    Pool.Desk.updateHeld_joined, Reply.map, stageAfterWork_load,
    runSteps_serving hfinished (Pool.Desk.settle_joined hquiet.served (hheld _))
      (step_leaving (Pool.Desk.step_release_joined _ hopen)),
    runSteps_finished hfinished (Pool.Desk.settle_noticed hquiet.served hreturned)]
  rfl

/-- The answer is an error exactly when the engine could not load the bundle. -/
theorem isOk_concludeCall (result : Except EngineError Answer) :
    (concludeCall installation call attempt result).1.isOk = result.isOk := by
  cases result with
  | ok answer => rfl
  | error error => rfl

/-- A quiet renderer has the answer to a load in one run. -/
theorem run_load (time : Nat) {component : String}
    {work : World × Reply (ExecutionContext Environment) (Except EngineError Bool)}
    (hquiet : installation.desk.Quiet) (hfinished : ∀ job ∈ jobs, job.IsFinished)
    (hget : installation.cache.get component = .ok bundle)
    (hwork : (installation.desk.pool.lend ExecutionContext.create).1.ensureLoaded engine world
      bundle = work)
    (hgates : work.2.gates.all (engine.isOpen work.1) = true) :
    ∃ answer, answer.isOk = work.2.outcome.isOk ∧
      ((accept ⟨world, [installation], jobs⟩ (.load component)).run engine time).1 =
        serving work.1 installation
          (installation.desk.visited .create time installation.millis work.2.after) jobs
          (.load component) (.finished answer) := by
  obtain ⟨answer, hanswer, hruns⟩ := runSteps_load time (24 * jobs.length + 42) hquiet hfinished
    hget hwork hgates
  have hfuel : 24 * ((accept ⟨world, [installation], jobs⟩ (.load component)).jobs.length + 1) =
      24 * jobs.length + 42 + 6 := by
    simp only [accept, List.length_append, List.length_singleton]
    omega
  refine ⟨answer, ?_, ?_⟩
  · rw [hanswer, isOk_concludeCall]
    cases work.2.outcome with
    | ok now => rfl
    | error error => rfl
  · rw [run, hfuel]
    exact hruns

theorem await_of_answer {renderer later : Renderer World Environment} {job rounds : Nat}
    {answer : Except RenderError Answer} (hrun : (renderer.run engine time).1 = later)
    (hanswer : later.answer? job = some answer) :
    (renderer.await engine job (rounds + 1) time).1 = later := by
  simp only [await]
  rw [hrun, hanswer]
  rfl

end Renderer

end ServerRender
