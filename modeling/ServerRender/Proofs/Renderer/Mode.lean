import ServerRender.Proofs.Renderer.Reporting

/-!
# What the mode changes

Two renderers that are set up alike, but for the mode of one being development and that
of the other production, are given the same calls, and all steps of these calls follow
each other in the same order.  What is compared are two runs, turn by turn: calls, pools,
caches and the world of the engine are the same after each turn, and with the world all
that the engine was asked to do.  The logs are the same, too, except that a turn in which
a call reports a cause with frames goes on with these frames in development mode.
-/

namespace ServerRender

variable {World Environment : Type}

def Setup.inMode (mode : RenderMode) (setup : Setup) : Setup :=
  { setup with config := { setup.config with mode } }

def Installation.inMode (mode : RenderMode) (installation : Installation Environment) :
    Installation Environment :=
  { installation with mode }

theorem Installation.build_inMode (mode : RenderMode) (setup : Setup) (sources : Sources) :
    (build (setup.inMode mode) sources : Except RenderError (Installation Environment)) =
      (build setup sources).map (inMode mode) := by
  simp only [build, Setup.inMode, bind, Except.bind, pure, Except.pure]
  cases (Template.parse setup.wrapper).mapError RenderError.invalidTemplate with
  | error error => rfl
  | ok template => cases setup.config.pool.validate <;> rfl

namespace Renderer

def inMode (mode : RenderMode) (renderer : Renderer World Environment) :
    Renderer World Environment :=
  { renderer with installations := renderer.installations.map (Installation.inMode mode) }

variable {mode : RenderMode} {renderer : Renderer World Environment}

theorem length_installations_inMode :
    (renderer.inMode mode).installations.length = renderer.installations.length :=
  List.length_map ..

theorem installation_inMode {index : Nat} {installation : Installation Environment}
    (hinstallation : renderer.installations[index]? = some installation) :
    (renderer.inMode mode).installations[index]? = some (installation.inMode mode) := by
  simp [inMode, hinstallation]

/-- The mode of an installation does not matter to what is done with the rest of it. -/
theorem updated_inMode {change : Installation Environment → Installation Environment}
    (index : Nat) (hcommutes : ∀ entry, (change entry).inMode mode = change (entry.inMode mode)) :
    { renderer.inMode mode with
      installations := (renderer.inMode mode).installations.modify index change } =
      inMode mode { renderer with installations := renderer.installations.modify index change } := by
  simp only [inMode]
  rw [← @map_modify _ _ (Installation.inMode mode) change change _ index hcommutes]

theorem setDesk_inMode (index : Nat) (desk : Pool.Desk (ExecutionContext Environment)) :
    (renderer.inMode mode).setDesk index desk = (renderer.setDesk index desk).inMode mode :=
  updated_inMode index fun _ => rfl

theorem setCache_inMode (index : Nat) (cache : CodeCache) :
    (renderer.inMode mode).setCache index cache = (renderer.setCache index cache).inMode mode :=
  updated_inMode index fun _ => rfl

theorem shutdown_inMode :
    (renderer.inMode mode).shutdown = renderer.shutdown.inMode mode := by
  simp only [shutdown, updateCurrent, length_installations_inMode]
  exact updated_inMode _ fun _ => rfl

theorem install_inMode (fresh : Installation Environment) :
    (renderer.inMode mode).install (fresh.inMode mode) = (renderer.install fresh).inMode mode := by
  simp only [install, shutdown_inMode]
  simp only [inMode, List.map_append, List.map_singleton]

theorem takeBundle_inMode (time job : Nat) (call : Call) (index : Nat)
    (installation : Installation Environment) :
    (renderer.inMode mode).takeBundle time job call index (installation.inMode mode) =
      (renderer.takeBundle time job call index installation).inMode mode := by
  simp only [takeBundle, Installation.inMode]
  cases installation.cache.get call.component with
  | error error => rfl
  | ok bundle =>
      simp only [setDesk_inMode]
      rfl

theorem refuse_inMode (job : Nat) (state : Job Environment) (error : RenderError) :
    (renderer.inMode mode).refuse job state error =
      (renderer.refuse job state error).inMode mode := by
  unfold refuse
  split <;> rfl

theorem contextOf?_inMode (attempt : Attempt) :
    (renderer.inMode mode).contextOf? attempt = renderer.contextOf? attempt := by
  simp only [contextOf?, inMode, List.getElem?_map]
  cases renderer.installations[attempt.installation]? <;> rfl

end Renderer

def Call.failure? (call : Call) (attempt : Attempt) :
    Except EngineError Answer → Option (FailedRender × EngineError)
  | .ok _ => none
  | .error cause => if cause.isUnavailable then none else some (call.failed attempt, cause)

namespace Renderer

variable {mode : RenderMode} {renderer : Renderer World Environment}

def failure? (renderer : Renderer World Environment) (job : Nat) :
    Option (FailedRender × EngineError) :=
  match (renderer.jobs[job]?) with
  | some ⟨call, _, .leaving attempt result⟩ => call.failure? attempt result
  | _ => none

/-- Events of a turn, in which a failure that is reported is reported in some mode. -/
def eventsIn (mode : RenderMode) (events : List Log.Event) :
    Option (FailedRender × EngineError) → List Log.Event
  | none => events
  | some (failed, cause) => failed.events mode cause

theorem concludeCall_inMode (installation : Installation Environment) (call : Call)
    (attempt : Attempt) (result : Except EngineError Answer) :
    concludeCall (installation.inMode mode) call attempt result =
      ((concludeCall installation call attempt result).1,
        eventsIn mode (concludeCall installation call attempt result).2
          (call.failure? attempt result)) := by
  cases result with
  | ok answer => rfl
  | error cause =>
      rw [concludeCall_eq_fail, concludeCall_eq_fail]
      cases cause <;> rfl

/-- The only step that looks at the mode is the last one of a call, and all that it takes
from there is what to log. -/
theorem step_inMode {engine : Engine World Environment} {time job : Nat}
    {next : Renderer World Environment} {events : List Log.Event}
    (hstep : renderer.step engine time job = some (next, events)) :
    (renderer.inMode mode).step engine time job =
      some (next.inMode mode, eventsIn mode events (renderer.failure? job)) := by
  simp only [step, Option.bind_eq_bind, Option.bind_eq_some_iff] at hstep
  obtain ⟨⟨call, retried, stage⟩, hjob, hstep⟩ := hstep
  have hsame : (renderer.inMode mode).jobs[job]? = some ⟨call, retried, stage⟩ := hjob
  simp only [step, failure?, hsame, hjob, Option.bind_eq_bind, Option.bind_some]
  cases stage with
  | entering =>
      obtain ⟨rfl, rfl⟩ := Prod.mk.inj (Option.some.inj hstep)
      rw [length_installations_inMode]
      rfl
  | entered index =>
      obtain ⟨installation, hinstallation, hstep⟩ := Option.bind_eq_some_iff.1 hstep
      obtain ⟨rfl, rfl⟩ := Prod.mk.inj (Option.some.inj hstep)
      simp only [installation_inMode hinstallation, Option.bind_some, takeBundle_inMode]
      rfl
  | checkout attempt =>
      obtain ⟨installation, hinstallation, hstep⟩ := Option.bind_eq_some_iff.1 hstep
      obtain ⟨phase, hphase, hstep⟩ := Option.bind_eq_some_iff.1 hstep
      have hsamePhase : (installation.inMode mode).desk.phase? attempt.caller = some phase := hphase
      simp only [installation_inMode hinstallation, Option.bind_some, hsamePhase]
      cases phase with
      | holding context =>
          obtain ⟨rfl, rfl⟩ := Prod.mk.inj (Option.some.inj hstep)
          rfl
      | refused error =>
          obtain ⟨rfl, rfl⟩ := Prod.mk.inj (Option.some.inj hstep)
          simp only [refuse_inMode]
          rfl
      | _ => contradiction
  | working attempt reply =>
      simp only at hstep
      split at hstep
      · next hgates =>
          obtain ⟨installation, hinstallation, hstep⟩ := Option.bind_eq_some_iff.1 hstep
          obtain ⟨rfl, rfl⟩ := Prod.mk.inj (Option.some.inj hstep)
          have hopen : reply.gates.all (engine.isOpen (renderer.inMode mode).world) = true := hgates
          simp only [hopen, if_pos, installation_inMode hinstallation, Option.bind_some,
            setDesk_inMode]
          rfl
      · contradiction
  | prepared attempt =>
      obtain ⟨context, hcontext, hstep⟩ := Option.bind_eq_some_iff.1 hstep
      obtain ⟨rfl, rfl⟩ := Prod.mk.inj (Option.some.inj hstep)
      simp only [contextOf?_inMode, hcontext, Option.bind_some]
      rfl
  | leaving attempt result =>
      obtain ⟨installation, hinstallation, hstep⟩ := Option.bind_eq_some_iff.1 hstep
      obtain ⟨⟨desk, released⟩, hrelease, hstep⟩ := Option.bind_eq_some_iff.1 hstep
      obtain ⟨rfl, rfl⟩ := Prod.mk.inj (Option.some.inj hstep)
      have hsameRelease : (installation.inMode mode).desk.step (.release attempt.caller) =
          some (desk, released) := hrelease
      simp only [installation_inMode hinstallation, Option.bind_some, hsameRelease,
        setDesk_inMode, concludeCall_inMode]
      rfl
  | finished result => contradiction

end Renderer

/-! ## Sessions in another mode -/

def Renewal.inMode (mode : RenderMode) : Renewal Environment → Renewal Environment
  | .ordered setup => .ordered (setup.inMode mode)
  | .built fresh archive => .built (fresh.inMode mode) archive
  | renewal => renewal

namespace Session

variable {engine : Engine World Environment}
variable {session next last : Session World Environment}
variable {action : Action World Environment} {actions : List (Action World Environment)}

def Action.inMode (mode : RenderMode) : Action World Environment → Action World Environment
  | .order setup => .order (setup.inMode mode)
  | action => action

theorem Action.inMode_inMode (mode other : RenderMode) (action : Action World Environment) :
    (action.inMode other).inMode mode = action.inMode mode := by
  cases action <;> rfl

def inMode (mode : RenderMode) (traces : List Trace) (session : Session World Environment) :
    Session World Environment :=
  { session with
    renderer := session.renderer.inMode mode
    traces
    renewals := session.renewals.map (Renewal.inMode mode) }

theorem inMode_inMode (mode other : RenderMode) (traces before : List Trace) :
    (session.inMode other before).inMode mode traces = session.inMode mode traces := by
  have hrenewal : ∀ renewal : Renewal Environment,
      (renewal.inMode other).inMode mode = renewal.inMode mode := by
    intro renewal
    cases renewal <;> rfl
  simp only [inMode, Renderer.inMode, List.map_map]
  congr 1
  exact List.map_congr_left fun renewal _ => hrenewal renewal

theorem start_inMode (mode : RenderMode) (world : World) (setup : Setup) (sources : Sources) :
    (start world (setup.inMode mode) sources : Except RenderError (Session World Environment)) =
      (start world setup sources).map (inMode mode []) := by
  simp only [start, Renderer.create, Installation.build_inMode, bind, Except.bind, pure,
    Except.pure]
  cases (Installation.build setup sources : Except RenderError (Installation Environment)) <;> rfl

/-- Nothing tells the sessions apart but what calls have logged and the modes. -/
structure Alike (left right : Session World Environment) : Prop where
  world_eq : left.renderer.world = right.renderer.world
  jobs_eq : left.renderer.jobs = right.renderer.jobs
  desks_eq : left.renderer.desks = right.renderer.desks
  caches_eq : left.renderer.caches = right.renderer.caches
  changes_eq : left.changes = right.changes

theorem alike_inMode (mode : RenderMode) (traces : List Trace)
    (session : Session World Environment) : (session.inMode mode traces).Alike session where
  world_eq := rfl
  jobs_eq := rfl
  desks_eq := by
    simp only [inMode, Renderer.inMode, Renderer.desks, List.map_map]
    rfl
  caches_eq := by
    simp only [inMode, Renderer.inMode, Renderer.caches, List.map_map]
    rfl
  changes_eq := rfl

theorem renewal_inMode (mode : RenderMode) (traces : List Trace) {index : Nat}
    {renewal : Renewal Environment} (hrenewal : session.renewals[index]? = some renewal) :
    (session.inMode mode traces).renewals[index]? = some (renewal.inMode mode) := by
  simp [inMode, hrenewal]

theorem installation_inMode (mode : RenderMode) (traces : List Trace) {index : Nat}
    {installation : Installation Environment}
    (hinstallation : session.renderer.installations[index]? = some installation) :
    (session.inMode mode traces).renderer.installations[index]? =
      some (installation.inMode mode) :=
  Renderer.installation_inMode hinstallation

/-- What may happen next may happen in another mode, with the same result. -/
theorem turn_inMode (hturn : Turn engine session action next) (mode : RenderMode)
    (traces : List Trace) :
    ∃ after, Turn engine (session.inMode mode traces) (action.inMode mode)
      (next.inMode mode after) := by
  cases hturn with
  | accept call => exact ⟨_, .accept call⟩
  | work hstep => exact ⟨_, .work (Renderer.step_inMode hstep)⟩
  | serve hinstallation hserves hstep =>
      refine ⟨traces, ?_⟩
      simp only [inMode]
      rw [← Renderer.setDesk_inMode]
      exact .serve (Renderer.installation_inMode hinstallation) hserves hstep
  | edit sources => exact ⟨traces, .edit sources⟩
  | disturb world => exact ⟨traces, .disturb world⟩
  | report component => exact ⟨traces, .report component⟩
  | enter hchange =>
      refine ⟨traces, ?_⟩
      have hturn : Turn engine (session.inMode mode traces) _ _ := .enter hchange
      rwa [show (session.inMode mode traces).renderer.installations.length = _ from
        Renderer.length_installations_inMode] at hturn
  | read hchange hinstallation hfree hdue =>
      have hturn : Turn engine (session.inMode mode traces) _ _ :=
        .read hchange (installation_inMode mode traces hinstallation) hfree hdue
      exact ⟨traces, hturn⟩
  | fail hchange hinstallation hfree hdue =>
      exact ⟨traces, .fail hchange (installation_inMode mode traces hinstallation) hfree hdue⟩
  | publish hchange hinstallation harchive =>
      have hturn : Turn engine (session.inMode mode traces) _ _ :=
        .publish hchange (installation_inMode mode traces hinstallation) harchive
      refine ⟨traces, ?_⟩
      simp only [inMode, Renderer.setCache_inMode] at hturn
      exact hturn
  | finish hchange => exact ⟨traces, .finish hchange⟩
  | order setup =>
      refine ⟨traces, ?_⟩
      simp only [inMode, List.map_append]
      exact .order (setup.inMode mode)
  | @build index setup fresh hrenewal hbuild =>
      have hagain : Installation.build (setup.inMode mode) session.sources =
          .ok (fresh.inMode mode) := by
        rw [Installation.build_inMode, hbuild]
        rfl
      have hturn : Turn engine (session.inMode mode traces) _ _ :=
        .build (renewal_inMode mode traces hrenewal) hagain
      refine ⟨traces, ?_⟩
      simp only [inMode, List.map_set]
      exact hturn
  | @reject index setup error hrenewal hbuild =>
      have hagain : (Installation.build (setup.inMode mode) session.sources :
          Except RenderError (Installation Environment)) = .error error := by
        rw [Installation.build_inMode, hbuild]
        rfl
      have hturn : Turn engine (session.inMode mode traces) _ _ :=
        .reject (renewal_inMode mode traces hrenewal) hagain
      refine ⟨traces, ?_⟩
      simp only [inMode, List.map_set]
      exact hturn
  | install hrenewal =>
      have hturn : Turn engine (session.inMode mode traces) _ _ :=
        .install (renewal_inMode mode traces hrenewal)
      refine ⟨traces, ?_⟩
      simp only [inMode, Renderer.install_inMode, Renderer.length_installations_inMode] at hturn
      simp only [inMode, List.map_set]
      exact hturn

/-- Nothing but the action decides how a session goes on. -/
theorem Turn.unique {other : Session World Environment} (hturn : Turn engine session action next)
    (hother : Turn engine session action other) : next = other := by
  -- Turns of one action that are not of one kind contradict each other about the stage of the
  -- call, or about what the registry has for it.
  cases hturn <;> cases hother <;> grind

structure Note where
  events : List Log.Event
  /-- The failure that a call has reported, if the turn was its last one. -/
  failure : Option (FailedRender × EngineError)

def note (engine : Engine World Environment) (session : Session World Environment) :
    Action World Environment → Note
  | .work time job =>
    ⟨((session.renderer.step engine time job).map Prod.snd).getD [], session.renderer.failure? job⟩
  | .serve index action =>
    ⟨(((session.renderer.desks[index]?).bind fun desk => desk.step action).map Prod.snd).getD [],
      none⟩
  | _ => ⟨[], none⟩

def Note.inMode (mode : RenderMode) (note : Note) : Note :=
  { note with events := Renderer.eventsIn mode note.events note.failure }

/-- The note of the same turn in development mode: a failure goes on with its frames. -/
def Note.traced (note : Note) : Note :=
  match note.failure with
  | none => note
  | some (failed, cause) => { note with events := note.events ++ failed.stackTrace cause }

theorem note_inMode (hturn : Turn engine session action next) (mode : RenderMode)
    (traces : List Trace) :
    (session.inMode mode traces).note engine (action.inMode mode) =
      (session.note engine action).inMode mode := by
  cases hturn with
  | work hstep =>
      simp only [note, Action.inMode, inMode, Renderer.step_inMode hstep, hstep, Option.map_some,
        Option.getD_some]
      rfl
  | serve hinstallation hserves hstep =>
      simp only [note, Action.inMode, (alike_inMode mode traces session).desks_eq]
      rfl
  | _ => rfl

/-- The turns of a run, in which these actions follow each other, and what is logged in
each. -/
inductive Run (engine : Engine World Environment) :
    Session World Environment → List (Action World Environment) → Session World Environment →
      List Note → Prop
  | nil {session : Session World Environment} : Run engine session [] session []
  | cons {session next last : Session World Environment} {action : Action World Environment}
      {actions : List (Action World Environment)} {notes : List Note}
      (hturn : Turn engine session action next) (hrun : Run engine next actions last notes) :
      Run engine session (action :: actions) last (session.note engine action :: notes)

theorem Run.unique {other : Session World Environment} {notes otherNotes : List Note}
    (hrun : Run engine session actions last notes)
    (hother : Run engine session actions other otherNotes) :
    last = other ∧ notes = otherNotes := by
  induction hrun generalizing otherNotes with
  | nil =>
      cases hother
      exact ⟨rfl, rfl⟩
  | cons hturn hrun ih =>
      cases hother with
      | cons hotherTurn hotherRun =>
          obtain rfl := hturn.unique hotherTurn
          obtain ⟨rfl, rfl⟩ := ih hotherRun
          exact ⟨rfl, rfl⟩

/-- A run may take place in another mode, with the same result. -/
theorem run_inMode {notes : List Note} (hrun : Run engine session actions last notes)
    (mode : RenderMode) (traces : List Trace) :
    ∃ after, Run engine (session.inMode mode traces) (actions.map (Action.inMode mode))
      (last.inMode mode after) (notes.map (Note.inMode mode)) := by
  induction hrun generalizing traces with
  | nil => exact ⟨traces, .nil⟩
  | cons hturn hrun ih =>
      obtain ⟨between, hnext⟩ := turn_inMode hturn mode traces
      obtain ⟨after, hrest⟩ := ih between
      refine ⟨after, ?_⟩
      rw [List.map_cons, List.map_cons, ← note_inMode hturn mode traces]
      exact .cons hnext hrest

/-- From one mode to another. -/
theorem run_of_mode {notes : List Note} {other : RenderMode} {before : List Trace}
    (hrun : Run engine (session.inMode other before) (actions.map (Action.inMode other)) last notes)
    (mode : RenderMode) (traces : List Trace) :
    ∃ after, Run engine (session.inMode mode traces) (actions.map (Action.inMode mode))
      (last.inMode mode after) (notes.map (Note.inMode mode)) := by
  obtain ⟨after, hmoved⟩ := run_inMode hrun mode traces
  have hactions : (actions.map (Action.inMode other)).map (Action.inMode mode) =
      actions.map (Action.inMode mode) := by
    rw [List.map_map]
    exact List.map_congr_left fun action _ => action.inMode_inMode mode other
  rw [inMode_inMode, hactions] at hmoved
  exact ⟨after, hmoved⟩

/-! ## Modes compared -/

/-- All that is logged about a failure in production mode is its report, and development
mode adds the frames. -/
theorem traced_of_production {engine : Engine World Environment}
    {session last : Session World Environment} {actions : List (Action World Environment)}
    {before : List Trace} {notes : List Note}
    (hrun : Run engine (session.inMode .production before)
      (actions.map (Action.inMode .production)) last notes) :
    ∀ note ∈ notes, note.inMode .development = note.traced ∧
      ∀ failed cause, note.failure = some (failed, cause) →
        note.events = [failed.report cause] ∧
          ∀ event ∈ failed.stackTrace cause, event.level = .warn := by
  have hagain : notes.map (Note.inMode .production) = notes := by
    obtain ⟨after, hsame⟩ := run_of_mode hrun .production before
    exact (hsame.unique hrun).2
  rintro ⟨events, failure⟩ hmem
  have hplain : Note.inMode .production ⟨events, failure⟩ = ⟨events, failure⟩ :=
    List.map_inj_left.1 (hagain.trans (List.map_id notes).symm) _ hmem
  cases failure with
  | none => exact ⟨rfl, by simp⟩
  | some failure =>
      obtain ⟨failed, cause⟩ := failure
      obtain rfl : [failed.report cause] = events := congrArg Note.events hplain
      refine ⟨?_, ?_⟩
      · simp [Note.inMode, Note.traced, Renderer.eventsIn, FailedRender.events_development]
      · rintro failed' cause' hfailure
        obtain ⟨rfl, rfl⟩ := Prod.mk.inj (Option.some.inj hfailure)
        exact ⟨rfl, fun event => failed.level_stackTrace cause⟩

/-- A renderer in production mode and one in development mode, which are set up alike for
the rest and get the same calls, whose steps follow each other in the same order.  After
every run the pools and the answers are the same, and so is all that the engine was asked
to do.  Turn by turn the logs are the same, except that in development mode the report of a
failure goes on with warnings about the frames of its cause, if it has any. -/
theorem alike_of_mode (engine : Engine World Environment) (world : World) (setup : Setup)
    (sources : Sources) (actions : List (Action (World × List Request) Environment))
    {plain : Session (World × List Request) Environment}
    (hplain : start (world, []) (setup.inMode .production) sources = .ok plain) :
    ∃ full : Session (World × List Request) Environment,
      start (world, []) (setup.inMode .development) sources = .ok full ∧
      ((∃ last notes,
          Run engine.listing plain (actions.map (Action.inMode .production)) last notes) ↔
        ∃ later written,
          Run engine.listing full (actions.map (Action.inMode .development)) later written) ∧
      ∀ {last later : Session (World × List Request) Environment} {notes written : List Note},
        Run engine.listing plain (actions.map (Action.inMode .production)) last notes →
        Run engine.listing full (actions.map (Action.inMode .development)) later written →
        later.Alike last ∧ written = notes.map Note.traced ∧
          ∀ note ∈ notes, ∀ failed cause, note.failure = some (failed, cause) →
            note.events = [failed.report cause] ∧
              ∀ event ∈ failed.stackTrace cause, event.level = .warn := by
  rw [start_inMode] at hplain
  cases hstart : (start (world, []) setup sources :
      Except RenderError (Session (World × List Request) Environment)) with
  | error error =>
      rw [hstart] at hplain
      contradiction
  | ok first =>
      rw [hstart] at hplain
      obtain rfl : first.inMode .production [] = plain := Except.ok.inj hplain
      refine ⟨first.inMode .development [], by rw [start_inMode, hstart]; rfl, ⟨?_, ?_⟩, ?_⟩
      · rintro ⟨last, notes, hlast⟩
        obtain ⟨after, hlater⟩ := run_of_mode hlast .development []
        exact ⟨_, _, hlater⟩
      · rintro ⟨later, written, hlater⟩
        obtain ⟨after, hlast⟩ := run_of_mode hlater .production []
        exact ⟨_, _, hlast⟩
      · intro last later notes written hlast hlater
        have htraced := traced_of_production hlast
        obtain ⟨after, hmoved⟩ := run_of_mode hlast .development []
        obtain ⟨rfl, rfl⟩ := hlater.unique hmoved
        exact ⟨alike_inMode .development after last,
          List.map_congr_left fun note hmem => (htraced note hmem).1,
          fun note hmem => (htraced note hmem).2⟩

def brittleEngine : Engine Unit Unit where
  create world := (world, .value ())
  load world _ _ := (world, ⟨[], (), [], .failure (.program "boom" [⟨"A", 1, none⟩])⟩)
  eval world _ _ := (world, ⟨[], (), [], .value .null⟩)
  isOpen _ _ := true

def brittleRender : List (Action (Unit × List Request) Unit) :=
  [.accept (.render "A" "/" ""), .work 0 0, .work 0 0, .serve 0 (.look 0),
    .serve 0 (.build 0 (.ok (.create 0))), .work 0 0, .work 0 0, .work 0 0]

/-- Both renderers ask for an environment and a load, and answer alike.  The one logs its
report, and the other one the frame as well. -/
theorem alike_of_brittleRender :
    ∃ (plain full last later : Session (Unit × List Request) Unit) (notes written : List Note),
      start ((), []) (plainSetup.inMode .production) ⟨[("A", "")]⟩ = .ok plain ∧
      start ((), []) (plainSetup.inMode .development) ⟨[("A", "")]⟩ = .ok full ∧
      Run brittleEngine.listing plain (brittleRender.map (Action.inMode .production)) last notes ∧
      Run brittleEngine.listing full (brittleRender.map (Action.inMode .development)) later
        written ∧
      later.Alike last ∧ written = notes.map Note.traced ∧
      last.renderer.world.2 =
        [.create, .load (CodeBundle.assemble "A" "" "" 1).source] ∧
      last.renderer.jobs.map Job.stage =
        [.finished (.error (.prerender ⟨"A", "", .program "boom" [⟨"A", 1, none⟩]⟩))] ∧
      notes.map Note.events =
        [[], [], [], [], [], [], [], [.renderFailed "A" "/" true "boom"]] ∧
      written.map (fun note => note.events.map Log.Event.level) =
        [[], [], [], [], [], [], [], [.error, .warn, .warn]] := by
  have hplain : start ((), []) (plainSetup.inMode .production) ⟨[("A", "")]⟩ =
      .ok (plainSession ((), []) ⟨[("A", "")]⟩ : Session (Unit × List Request) Unit) :=
    start_plainSetup ((), []) ⟨[("A", "")]⟩
  obtain ⟨last, notes, hlast, hworld, hjobs, hevents, hlevels⟩ : ∃ last notes,
      Run brittleEngine.listing (plainSession ((), []) ⟨[("A", "")]⟩)
        (brittleRender.map (Action.inMode .production)) last notes ∧
      last.renderer.world.2 = [.create, .load (CodeBundle.assemble "A" "" "" 1).source] ∧
      last.renderer.jobs.map Job.stage =
        [.finished (.error (.prerender ⟨"A", "", .program "boom" [⟨"A", 1, none⟩]⟩))] ∧
      notes.map Note.events =
        [[], [], [], [], [], [], [], [.renderFailed "A" "/" true "boom"]] ∧
      (notes.map Note.traced).map (fun note => note.events.map Log.Event.level) =
        [[], [], [], [], [], [], [], [.error, .warn, .warn]] :=
    ⟨_, _,
      .cons (.accept _) <| .cons (.work rfl) <| .cons (.work rfl) <|
        .cons (.serve rfl trivial rfl) <| .cons (.serve rfl ⟨0, rfl, rfl⟩ rfl) <|
        .cons (.work rfl) <| .cons (.work rfl) <| .cons (.work rfl) .nil,
      rfl, rfl, rfl, rfl⟩
  obtain ⟨full, hfull, hexists, halike⟩ :=
    alike_of_mode brittleEngine () plainSetup ⟨[("A", "")]⟩ brittleRender hplain
  obtain ⟨later, written, hlater⟩ := hexists.1 ⟨last, notes, hlast⟩
  obtain ⟨hsame, rfl, -⟩ := halike hlast hlater
  exact ⟨_, full, last, later, notes, _, hplain, hfull, hlast, hlater, hsame, rfl, hworld, hjobs,
    hevents, hlevels⟩

end Session

end ServerRender
