import Mathlib.Logic.Relation
import ServerRender.Proofs.CodeCache.Archive
import ServerRender.Proofs.Renderer.Stride

/-!
# Sessions

A session is a renderer together with all that happens around it: renders and loads,
the pools at work, edits of the registry, calls that report a change and calls that set
the renderer up anew.  The latter two take several steps each, and between any two
steps others may act.  Besides its state a session keeps a record of what was done,
which nothing reads: every snapshot of the registry in the order in which they were
taken, the archive of each cache, and the trace of each call.
-/

namespace ServerRender

variable {World Environment : Type}

structure Trace where
  /-- Its attempts, the latest first. -/
  attempts : List Attempt
  log : List Log.Event

/-- The trace after a step of the call that has led to a stage. -/
def Trace.add (trace : Trace) (stage : Option (Stage Environment)) (events : List Log.Event) :
    Trace where
  attempts := match stage with
    | some (.checkout attempt) => attempt :: trace.attempts
    | _ => trace.attempts
  log := trace.log ++ events

theorem Trace.add_of_ne {trace : Trace} {stage : Option (Stage Environment)}
    {events : List Log.Event} (hstage : ∀ attempt, stage ≠ some (.checkout attempt)) :
    trace.add stage events = ⟨trace.attempts, trace.log ++ events⟩ := by
  cases stage with
  | none => rfl
  | some stage =>
      cases stage with
      | checkout attempt => exact absurd rfl (hstage attempt)
      | _ => rfl

inductive ChangeStage where
  /-- About to read which installation is current. -/
  | entering
  /-- About to become the only writer of the cache and to read the registry. -/
  | entered (installation : Nat)
  /-- About to publish what is due, or to let others write. -/
  | writing (installation snapshot : Nat) (core : String) (due : List (String × String))
  | done (installation snapshot : Nat)
  | failed (error : RenderError)

structure Change where
  component : String
  stage : ChangeStage

def Change.isWriting (change : Change) (installation : Nat) : Bool :=
  match change.stage with
  | .writing index _ _ _ => index == installation
  | _ => false

theorem isWriting_writing (component : String) (place snapshot : Nat) (core : String)
    (due : List (String × String)) :
    (Change.mk component (.writing place snapshot core due)).isWriting place = true := by
  simp [Change.isWriting]

inductive Renewal (Environment : Type) where
  | ordered (setup : Setup)
  /-- Built, and not in place yet. -/
  | built (fresh : Installation Environment) (archive : Archive)
  | rejected (error : RenderError)
  | installed (installation : Nat)

structure Session (World Environment : Type) where
  renderer : Renderer World Environment
  /-- The registry. -/
  sources : Sources
  /-- All snapshots of the registry; the position of a snapshot is its number. -/
  snapshots : List Sources
  /-- The archives of the caches, in the order of the installations. -/
  archives : List Archive
  /-- The traces of the calls, in the order of the jobs. -/
  traces : List Trace
  changes : List Change
  renewals : List (Renewal Environment)

namespace Session

def start (world : World) (setup : Setup) (sources : Sources) :
    Except RenderError (Session World Environment) := do
  return {
    renderer := ← Renderer.create world setup sources
    sources
    snapshots := [sources]
    archives := [CodeCache.firstArchive setup.coreLibrary 0 sources]
    traces := []
    changes := []
    renewals := [] }

theorem start_eq_ok {world : World} {setup : Setup} {sources : Sources}
    {session : Session World Environment}
    (hstart : start world setup sources = .ok session) :
    ∃ installation, Installation.build setup sources = .ok installation ∧
      session = ⟨⟨world, [installation], []⟩, sources, [sources],
        [CodeCache.firstArchive setup.coreLibrary 0 sources], [], [], []⟩ := by
  simp only [start, Renderer.create, bind, Except.bind, pure, Except.pure] at hstart
  cases hbuild : (Installation.build setup sources :
      Except RenderError (Installation Environment)) with
  | error error =>
      rw [hbuild] at hstart
      contradiction
  | ok installation =>
      rw [hbuild] at hstart
      exact ⟨installation, rfl, (Except.ok.inj hstart).symm⟩

inductive Action (World Environment : Type) where
  | accept (call : Call)
  | work (time job : Nat)
  | serve (installation : Nat) (action : Pool.Action (ExecutionContext Environment))
  | edit (sources : Sources)
  /-- Something else happens to the world of the engine. -/
  | disturb (world : World)
  | report (component : String)
  /-- The next step of a call that reports a change. -/
  | change (index : Nat)
  | order (setup : Setup)
  /-- The next step of a call that sets the renderer up anew. -/
  | renew (index : Nat)

/-- The actions at a desk that are not part of a call.  A new context is an empty one,
or its thread cannot be started. -/
def Serves (desk : Pool.Desk (ExecutionContext Environment)) :
    Pool.Action (ExecutionContext Environment) → Prop
  | .arrive _ _ => False
  | .release _ => False
  | .build caller (.ok context) =>
    ∃ id, desk.phase? caller = some (.building id) ∧ context = .create id
  | .build _ (.error error) => ∃ reason, error = .engineUnavailable reason
  | _ => True

inductive Turn (engine : Engine World Environment) (session : Session World Environment) :
    Action World Environment → Session World Environment → Prop
  | accept (call : Call) :
      Turn engine session (.accept call)
        { session with
          renderer := session.renderer.accept call
          traces := session.traces ++ [⟨[], []⟩] }
  | work {time job : Nat} {next : Renderer World Environment} {events : List Log.Event}
      (hstep : session.renderer.step engine time job = some (next, events)) :
      Turn engine session (.work time job)
        { session with
          renderer := next
          traces := session.traces.modify job fun trace =>
            trace.add ((next.jobs[job]?).map Job.stage) events }
  | serve {index : Nat} {installation : Installation Environment}
      {action : Pool.Action (ExecutionContext Environment)}
      {desk : Pool.Desk (ExecutionContext Environment)} {events : List Log.Event}
      (hinstallation : session.renderer.installations[index]? = some installation)
      (hserves : Serves installation.desk action)
      (hstep : installation.desk.step action = some (desk, events)) :
      Turn engine session (.serve index action)
        { session with renderer := session.renderer.setDesk index desk }
  | edit (sources : Sources) : Turn engine session (.edit sources) { session with sources }
  | disturb (world : World) :
      Turn engine session (.disturb world)
        { session with renderer := { session.renderer with world } }
  | report (component : String) :
      Turn engine session (.report component)
        { session with changes := session.changes ++ [⟨component, .entering⟩] }
  | enter {index : Nat} {component : String}
      (hchange : session.changes[index]? = some ⟨component, .entering⟩) :
      Turn engine session (.change index)
        { session with
          changes := session.changes.set index
            ⟨component, .entered (session.renderer.installations.length - 1)⟩ }
  /-- Reads the registry, as the only writer of the cache. -/
  | read {index place : Nat} {component : String} {installation : Installation Environment}
      {due : List (String × String)}
      (hchange : session.changes[index]? = some ⟨component, .entered place⟩)
      (hinstallation : session.renderer.installations[place]? = some installation)
      (hfree : session.changes.all (fun change => !change.isWriting place) = true)
      (hdue : installation.cache.due session.sources component = .ok due) :
      Turn engine session (.change index)
        { session with
          snapshots := session.snapshots ++ [session.sources]
          changes := session.changes.set index
            ⟨component, .writing place session.snapshots.length
              (installation.cache.coreSource session.sources) due⟩ }
  /-- The registry does not have the component. -/
  | fail {index place : Nat} {component : String} {installation : Installation Environment}
      {error : RenderError}
      (hchange : session.changes[index]? = some ⟨component, .entered place⟩)
      (hinstallation : session.renderer.installations[place]? = some installation)
      (hfree : session.changes.all (fun change => !change.isWriting place) = true)
      (hdue : installation.cache.due session.sources component = .error error) :
      Turn engine session (.change index)
        { session with
          snapshots := session.snapshots ++ [session.sources]
          changes := session.changes.set index ⟨component, .failed error⟩ }
  | publish {index place snapshot : Nat} {component core name source : String}
      {due : List (String × String)} {installation : Installation Environment}
      {archive : Archive}
      (hchange : session.changes[index]? =
        some ⟨component, .writing place snapshot core ((name, source) :: due)⟩)
      (hinstallation : session.renderer.installations[place]? = some installation)
      (harchive : session.archives[place]? = some archive) :
      Turn engine session (.change index)
        { session with
          renderer :=
            session.renderer.setCache place (installation.cache.publish core name source)
          archives := session.archives.set place
            (archive.add (installation.cache.publication snapshot core name source))
          changes := session.changes.set index
            ⟨component, .writing place snapshot core due⟩ }
  | finish {index place snapshot : Nat} {component core : String}
      (hchange : session.changes[index]? =
        some ⟨component, .writing place snapshot core []⟩) :
      Turn engine session (.change index)
        { session with
          changes := session.changes.set index ⟨component, .done place snapshot⟩ }
  | order (setup : Setup) :
      Turn engine session (.order setup)
        { session with renewals := session.renewals ++ [.ordered setup] }
  | build {index : Nat} {setup : Setup} {fresh : Installation Environment}
      (hrenewal : session.renewals[index]? = some (.ordered setup))
      (hbuild : Installation.build setup session.sources = .ok fresh) :
      Turn engine session (.renew index)
        { session with
          snapshots := session.snapshots ++ [session.sources]
          renewals := session.renewals.set index
            (.built fresh (CodeCache.firstArchive setup.coreLibrary session.snapshots.length
              session.sources)) }
  | reject {index : Nat} {setup : Setup} {error : RenderError}
      (hrenewal : session.renewals[index]? = some (.ordered setup))
      (hbuild : (Installation.build setup session.sources :
        Except RenderError (Installation Environment)) = .error error) :
      Turn engine session (.renew index)
        { session with renewals := session.renewals.set index (.rejected error) }
  | install {index : Nat} {fresh : Installation Environment} {archive : Archive}
      (hrenewal : session.renewals[index]? = some (.built fresh archive)) :
      Turn engine session (.renew index)
        { session with
          renderer := session.renderer.install fresh
          archives := session.archives ++ [archive]
          renewals := session.renewals.set index
            (.installed session.renderer.installations.length) }

def Reaches (engine : Engine World Environment) :
    Session World Environment → Session World Environment → Prop :=
  Relation.ReflTransGen fun session next => ∃ action, Turn engine session action next

/-- The sessions that any renderer can come to, whoever calls it and in whatever order
the steps of the calls follow each other. -/
def Reachable (engine : Engine World Environment) (session : Session World Environment) :
    Prop :=
  ∃ world setup sources first, start world setup sources = .ok first ∧
    Reaches engine first session

theorem Reachable.trans {engine : Engine World Environment}
    {session later : Session World Environment} (hreach : Reachable engine session)
    (hlater : Reaches engine session later) : Reachable engine later := by
  obtain ⟨world, setup, sources, first, hstart, hfirst⟩ := hreach
  exact ⟨world, setup, sources, first, hstart, Relation.ReflTransGen.trans hfirst hlater⟩

/-- What is true at first and kept by every turn is true of every session. -/
theorem Reachable.induction {engine : Engine World Environment}
    {motive : Session World Environment → Prop}
    (hfirst : ∀ {world setup sources first}, start world setup sources = .ok first →
      motive first)
    (hturns : ∀ {session action next}, Reachable engine session →
      Turn engine session action next → motive session → motive next)
    {session : Session World Environment} (hreach : Reachable engine session) :
    motive session := by
  obtain ⟨world, setup, sources, first, hstart, hreach⟩ := hreach
  induction hreach with
  | refl => exact hfirst hstart
  | tail hbefore hturn ih =>
      obtain ⟨action, hturn⟩ := hturn
      exact hturns ⟨world, setup, sources, first, hstart, hbefore⟩ hturn ih

/-- The pools of installations that are still to be put in place are new. -/
def Ready (session : Session World Environment) : Prop :=
  ∀ {index : Nat} {fresh : Installation Environment} {archive : Archive},
    session.renewals[index]? = some (.built fresh archive) →
    ∃ size, fresh.desk = .create size

theorem exists_size_of_build {setup : Setup} {sources : Sources}
    {fresh : Installation Environment}
    (hbuild : Installation.build setup sources = .ok fresh) :
    ∃ size, fresh.desk = .create size := by
  simp only [Installation.build, bind, Except.bind, pure, Except.pure] at hbuild
  split at hbuild
  · contradiction
  · split at hbuild
    · contradiction
    · obtain rfl := Except.ok.inj hbuild
      exact ⟨_, rfl⟩

theorem ready_of_start {world : World} {setup : Setup} {sources : Sources}
    {session : Session World Environment}
    (hstart : start world setup sources = .ok session) : session.Ready := by
  obtain ⟨installation, -, rfl⟩ := start_eq_ok hstart
  simp [Ready]

theorem ready_of_turn {engine : Engine World Environment}
    {session next : Session World Environment} {action : Action World Environment}
    (hready : session.Ready) (hturn : Turn engine session action next) : next.Ready := by
  intro index fresh archive hrenewal
  cases hturn with
  | order setup =>
      rcases getElem?_append_cases hrenewal with hold | ⟨-, hnew⟩
      · exact hready hold
      · contradiction
  | build hordered hbuild =>
      rcases getElem?_set_cases hrenewal with ⟨-, hnew⟩ | ⟨-, hold⟩
      · obtain ⟨rfl, rfl⟩ := Renewal.built.inj hnew
        exact exists_size_of_build hbuild
      · exact hready hold
  | reject hordered hbuild =>
      rcases getElem?_set_cases hrenewal with ⟨-, hnew⟩ | ⟨-, hold⟩
      · contradiction
      · exact hready hold
  | install hbuilt =>
      rcases getElem?_set_cases hrenewal with ⟨-, hnew⟩ | ⟨-, hold⟩
      · contradiction
      · exact hready hold
  | _ => exact hready hrenewal

/-! ## A small session -/

def plainSetup : Setup :=
  ⟨"", "", .defaults⟩

def plainInstallation (sources : Sources) : Installation Environment :=
  ⟨((CodeCache.empty "").buildAll sources).1, .create 10, ⟨[]⟩, .production, 20000⟩

theorem parse_empty : Template.parse "" = .ok ⟨[]⟩ := by
  have hempty : Template.parseFrom 0 [] = .ok [] := by
    rw [Template.parseFrom]
    split
    · rfl
    · contradiction
  exact congrArg (Except.map Template.mk) hempty

theorem build_plainSetup (sources : Sources) :
    Installation.build plainSetup sources =
      .ok (plainInstallation sources : Installation Environment) := by
  simp only [Installation.build, plainSetup, parse_empty]
  rfl

def plainSession (world : World) (sources : Sources) : Session World Environment where
  renderer := ⟨world, [plainInstallation sources], []⟩
  sources
  snapshots := [sources]
  archives := [CodeCache.firstArchive "" 0 sources]
  traces := []
  changes := []
  renewals := []

theorem start_plainSetup (world : World) (sources : Sources) :
    start world plainSetup sources =
      .ok (plainSession world sources : Session World Environment) := by
  simp only [start, Renderer.create, build_plainSetup]
  rfl

/-- An engine whose environments hold the source that was loaded into them.  Every script
puts this source out. -/
def echoEngine : Engine Unit String where
  create world := (world, .value "")
  load world _ source := (world, ⟨[], source, [], .value ()⟩)
  eval world environment _ :=
    (world, ⟨[], environment, [], .value (.object [("outputValue", .string environment)])⟩)
  isOpen _ _ := true

end Session

end ServerRender
