import ServerRender.Proofs.LoadRecord
import ServerRender.Proofs.Pool.Accounting
import ServerRender.Proofs.Renderer.Archives
import ServerRender.Proofs.Renderer.Attempts

/-!
# Generations in a context

A call takes its bundle before it steps up to the pool, and a context loads the bundle
of its call unless it has just this one on record.  So a call that others overtake at
the pool brings the context that it gets back to older code, and the next call has to
load the newer bundle once more.  The main statement is that a context gets older code in
no other way, and the last ones show a session in which it does.  What carries the proof
is that the bundles that calls take later are the newest ones of their cache, and that
the number of a context tells it from all others of its pool.
-/

namespace ServerRender

variable {World Environment : Type} {engine : Engine World Environment}

namespace ExecutionContext

variable {context : ExecutionContext Environment} {bundle : CodeBundle}

section Conclude

variable {α β : Type} {record : ExecutionContext Environment → ExecutionContext Environment}
variable {wrap : α → β} {reply : Reply (EngineThread Environment) (Except EngineError α)}

theorem id_settle (events : List Log.Event) (answer : Except EngineError α) :
    (context.settle events answer).1.id = context.id := by
  simp only [settle]
  split
  · split <;> rfl
  · rfl

theorem id_conclude (hrecord : ∀ other, (record other).id = other.id) :
    (context.conclude record wrap reply).after.id = context.id := by
  simp only [conclude]
  split
  · rw [hrecord, id_settle]
  · rw [id_settle]

/-- Nothing gets on record unless the answer is a success. -/
theorem generation?_conclude_cases {component : String} {generation : Nat}
    (hafter : (context.conclude record wrap reply).after.generation? component =
      some generation) :
    (record { context with thread := reply.after }).generation? component = some generation ∨
      context.generation? component = some generation := by
  cases houtcome : reply.outcome with
  | ok value =>
      rw [conclude_of_ok houtcome] at hafter
      exact .inl hafter
  | error error =>
      cases hlost : error.isUnavailable with
      | true =>
          simp [generation?, loaded_conclude_of_unavailable houtcome hlost] at hafter
      | false =>
          rw [after_conclude_of_available houtcome hlost] at hafter
          exact .inr hafter

end Conclude

/-- The reply comes from work for a bundle: the context keeps its number, nothing gets on
record but the generation of this bundle, and the bundle was not on record before if it
is said to be loaded now. -/
structure Continues (bundle : CodeBundle) (before : ExecutionContext Environment)
    (reply : Reply (ExecutionContext Environment) (Except EngineError Work)) : Prop where
  id_eq : reply.after.id = before.id
  recorded : ∀ {component : String} {generation : Nat},
    reply.after.generation? component = some generation →
    before.generation? component = some generation ∨
      bundle.component = component ∧ bundle.generation = generation
  fresh : reply.outcome = .ok (.loaded true) →
    before.generation? bundle.component ≠ some bundle.generation

theorem continues_ensureLoaded (world : World) :
    Continues bundle context
      ((context.ensureLoaded engine world bundle).2.map (fun after => after)
        fun outcome : Except EngineError Bool => outcome.map .loaded) := by
  by_cases hcurrent : context.generation? bundle.component = some bundle.generation
  · rw [ensureLoaded_of_current world hcurrent]
    exact ⟨rfl, .inl, by simp [Reply.map, Except.map]⟩
  · refine ⟨?_, ?_, fun _ => hcurrent⟩
    · simp only [ensureLoaded, hcurrent, if_false, Reply.map]
      exact id_conclude fun _ => rfl
    · intro component generation hafter
      simp only [ensureLoaded, hcurrent, if_false, Reply.map] at hafter
      have herased : ∀ {other : Nat},
          (context.loaded.erase bundle.component).get? component = some other →
          context.generation? component = some other := by
        intro other hother
        rw [Table.get?_erase] at hother
        split at hother
        · contradiction
        · exact hother
      rcases generation?_conclude_cases hafter with hrecorded | hkept
      · simp only [generation?, Table.get?_insert] at hrecorded
        split at hrecorded
        · next hcomponent => exact .inr ⟨hcomponent, Option.some.inj hrecorded⟩
        · exact .inl (herased hrecorded)
      · exact .inl (herased hkept)

theorem continues_evaluate (world : World) (component script : String) :
    Continues bundle context
      ((context.evaluate engine world component script).2.map (fun after => after)
        fun outcome : Except EngineError Json => outcome.map .value) := by
  refine ⟨?_, ?_, ?_⟩
  · simp only [evaluate, Reply.map]
    exact id_conclude fun _ => rfl
  · intro other generation hafter
    simp only [evaluate, Reply.map] at hafter
    rcases generation?_conclude_cases hafter with hrecorded | hkept
    · exact .inl hrecorded
    · exact .inl hkept
  · intro hloaded
    simp only [Reply.map] at hloaded
    cases houtcome : (context.evaluate engine world component script).2.outcome with
    | ok value => simp [houtcome, Except.map] at hloaded
    | error error => simp [houtcome, Except.map] at hloaded

end ExecutionContext

namespace Session

variable {session next later : Session World Environment} {action : Action World Environment}

def Attends (session : Session World Environment) (attempt : Attempt)
    (reply : Reply (ExecutionContext Environment) (Except EngineError Work)) : Prop :=
  ∃ context, session.renderer.phaseOf? attempt.installation attempt.caller =
    some (.holding context) ∧ context.Continues attempt.bundle reply

def Attended (session : Session World Environment) : Prop :=
  ∀ (job : Nat) (state : Job Environment) (attempt : Attempt)
    (reply : Reply (ExecutionContext Environment) (Except EngineError Work)),
    session.renderer.jobs[job]? = some state → state.stage = .working attempt reply →
    session.Attends attempt reply

theorem attends_of_stride {job : Nat} {before after : Job Environment}
    {events : List Log.Event} {attempt : Attempt}
    {reply : Reply (ExecutionContext Environment) (Except EngineError Work)}
    (hstride : Renderer.Stride engine session.renderer job before after next.renderer events)
    (hworking : after.stage = .working attempt reply) : next.Attends attempt reply := by
  -- The renderer after the stride has to stand alone for the strides to be told apart.
  generalize hrenderer : next.renderer = renderer at hstride
  cases hstride with
  | @startLoad call retried started context hphase =>
      obtain ⟨rfl, rfl⟩ := Stage.working.inj hworking
      refine ⟨context, ?_, ExecutionContext.continues_ensureLoaded session.renderer.world⟩
      rw [hrenderer]
      exact hphase
  | @startEval call retried started context hphase =>
      obtain ⟨rfl, rfl⟩ := Stage.working.inj hworking
      refine ⟨context, ?_, ExecutionContext.continues_evaluate session.renderer.world _ _⟩
      rw [hrenderer]
      exact hphase
  | endWork hgates hinstallation =>
      exact absurd hworking (Renderer.stageAfterWork_ne_working _ _)
  | _ => contradiction

theorem attended_of_turn (hseated : session.Seated) (hattended : session.Attended)
    (hturn : Turn engine session action next) : next.Attended := by
  intro job state attempt reply hjob hworking
  rcases job_cases_of_turn hturn hjob with
    ⟨hother, hold⟩ | ⟨-, hentering⟩ | ⟨time, before, events, -, -, hstride⟩
  · obtain ⟨context, hphase, hcontinues⟩ := hattended job state attempt reply hold hworking
    obtain ⟨rest, log, htrace⟩ := hseated.current hold (Stage.attempt?_of_working hworking)
    exact ⟨context, phaseOf?_of_seated hseated hturn htrace List.mem_cons_self hphase trivial
      hother, hcontinues⟩
  · rw [hentering] at hworking
    contradiction
  · exact attends_of_stride hstride hworking

theorem attended_of_start {world : World} {setup : Setup} {sources : Sources}
    (hstart : start world setup sources = .ok session) : session.Attended := by
  obtain ⟨installation, -, rfl⟩ := start_eq_ok hstart
  simp [Attended]

theorem attended_of_reachable (hreach : Reachable engine session) : session.Attended := by
  refine hreach.induction ?_ ?_
  · intro world setup sources first hstart
    exact attended_of_start hstart
  · intro session action next hreach hturn hattended
    exact attended_of_turn (seated_of_reachable hreach) hattended hturn

/-- The books of every pool are right, so the number of a context tells it from the
others. -/
def Numbered (session : Session World Environment) : Prop :=
  ∀ (place : Nat) (desk : Pool.Desk (ExecutionContext Environment)),
    session.renderer.desks[place]? = some desk →
    Pool.Balanced ExecutionContext.id desk.pool (desk.occupied ExecutionContext.id)

theorem numbers_of_serves {desk : Pool.Desk (ExecutionContext Environment)}
    {service : Pool.Action (ExecutionContext Environment)} (hserves : Serves desk service) :
    desk.Numbers ExecutionContext.id service := by
  cases service with
  | build caller made =>
      cases made with
      | ok context =>
          obtain ⟨number, hphase, rfl⟩ := hserves
          exact hphase
      | error error => trivial
  | _ => trivial

theorem Numbered.setDesk (hnumbered : session.Numbered) (place : Nat)
    {desk : Pool.Desk (ExecutionContext Environment)}
    (hbalanced : Pool.Balanced ExecutionContext.id desk.pool
      (desk.occupied ExecutionContext.id))
    (hdesks : next.renderer.desks = (session.renderer.setDesk place desk).desks) :
    next.Numbered := by
  intro other found hfound
  rw [hdesks, Renderer.desks_setDesk] at hfound
  rcases getElem?_set_cases hfound with ⟨-, rfl⟩ | ⟨-, hold⟩
  · exact hbalanced
  · exact hnumbered other found hold

theorem numbered_of_stride (hattended : session.Attended) (hnumbered : session.Numbered)
    {job : Nat} {before after : Job Environment} {events : List Log.Event}
    (hbefore : session.renderer.jobs[job]? = some before)
    (hstride : Renderer.Stride engine session.renderer job before after next.renderer events) :
    next.Numbered := by
  generalize hrenderer : next.renderer = renderer at hstride
  cases hstride with
  | @arrive call retried index installation bundle time hinstallation hget =>
      have hdesk := hnumbered _ _ (Renderer.desk_of_installation hinstallation)
      have harrived := Pool.Desk.balanced_of_move (.arrive time installation.millis) trivial hdesk
      refine hnumbered.setDesk index harrived ?_
      rw [hrenderer]
      rfl
  | @endWork call retried attempt reply installation hgates hinstallation =>
      obtain ⟨context, hphase, hcontinues⟩ := hattended job _ attempt reply hbefore rfl
      rw [Renderer.phaseOf?_of_installation hinstallation] at hphase
      have hdesk := hnumbered _ _ (Renderer.desk_of_installation hinstallation)
      have hworked := Pool.Desk.balanced_updateHeld hphase hcontinues.id_eq hdesk
      refine hnumbered.setDesk attempt.installation hworked ?_
      rw [hrenderer]
      rfl
  | @leave call retried attempt result installation desk hinstallation hmove =>
      have hdesk := hnumbered _ _ (Renderer.desk_of_installation hinstallation)
      have hreleased := Pool.Desk.balanced_of_move hmove trivial hdesk
      refine hnumbered.setDesk attempt.installation hreleased ?_
      rw [hrenderer]
      rfl
  | _ =>
      intro place desk hdesk
      rw [hrenderer] at hdesk
      exact hnumbered place desk hdesk

theorem balanced_of_create {desk : Pool.Desk (ExecutionContext Environment)}
    (hnew : ∃ size, desk = .create size) :
    Pool.Balanced ExecutionContext.id desk.pool (desk.occupied ExecutionContext.id) := by
  obtain ⟨size, rfl⟩ := hnew
  exact .empty ExecutionContext.id size

theorem numbered_of_turn (hready : session.Ready) (hattended : session.Attended)
    (hnumbered : session.Numbered) (hturn : Turn engine session action next) :
    next.Numbered := by
  cases hturn with
  | work hstep =>
      obtain ⟨before, after, hbefore, hstride⟩ := Renderer.exists_stride_of_step hstep
      exact numbered_of_stride hattended hnumbered hbefore hstride
  | serve hinstallation hserves hstep =>
      have hdesk := hnumbered _ _ (Renderer.desk_of_installation hinstallation)
      have hbalanced := Pool.Desk.balanced_of_move (Pool.Desk.move_of_step hstep)
        (numbers_of_serves hserves) hdesk
      exact hnumbered.setDesk _ hbalanced rfl
  | publish hchange hinstallation harchive =>
      intro place desk hdesk
      rw [Renderer.desks_setCache] at hdesk
      exact hnumbered place desk hdesk
  | install hrenewal =>
      intro place desk hdesk
      rw [Renderer.desks_install] at hdesk
      rcases getElem?_append_cases hdesk with hold | ⟨-, rfl⟩
      · rw [List.getElem?_modify] at hold
        obtain ⟨before, hbefore, rfl⟩ := Option.map_eq_some_iff.1 hold
        have hbalanced := hnumbered place before hbefore
        split
        · exact Pool.Desk.balanced_of_move .shutdown trivial hbalanced
        · exact hbalanced
      · exact balanced_of_create (hready hrenewal)
  | _ => exact hnumbered

theorem numbered_of_reachable (hreach : Reachable engine session) :
    session.Ready ∧ session.Numbered := by
  refine hreach.induction (motive := fun session => session.Ready ∧ session.Numbered) ?_ ?_
  · intro world setup sources first hstart
    refine ⟨ready_of_start hstart, ?_⟩
    obtain ⟨installation, hbuild, rfl⟩ := start_eq_ok hstart
    intro place desk hdesk
    obtain rfl := List.mem_singleton.1 (List.mem_of_getElem? hdesk)
    exact balanced_of_create (exists_size_of_build hbuild)
  · rintro session action next hreach hturn ⟨hready, hnumbered⟩
    exact ⟨ready_of_turn hready hturn,
      numbered_of_turn hready (attended_of_reachable hreach) hnumbered hturn⟩

/-- A pool has no two contexts of one number. -/
theorem context_eq_of_id (hnumbered : session.Numbered) {place : Nat}
    {context other : ExecutionContext Environment}
    (hcontext : session.renderer.HasContext place context)
    (hother : session.renderer.HasContext place other) (hid : context.id = other.id) :
    context = other := by
  obtain ⟨desk, hdesk, hmem⟩ := hcontext
  obtain ⟨otherDesk, hotherDesk, hotherMem⟩ := hother
  obtain rfl := Option.some.inj (hdesk.symm.trans hotherDesk)
  have hnodup := Pool.Desk.nodup_contexts (hnumbered place desk hdesk)
  exact List.inj_on_of_nodup_map hnodup hmem hotherMem hid

/-! ## What contexts may have on record -/

def Published (session : Session World Environment) (place : Nat) (component : String)
    (generation : Nat) : Prop :=
  ∃ archive bundle, session.archives[place]? = some archive ∧ archive.Has bundle ∧
    bundle.component = component ∧ bundle.generation = generation

/-- A call has taken this generation of the component from the cache of the installation
and is not done with it. -/
def Pending (session : Session World Environment) (place : Nat) (component : String)
    (generation : Nat) : Prop :=
  ∃ (job : Nat) (state : Job Environment) (attempt : Attempt),
    session.renderer.jobs[job]? = some state ∧ state.stage.attempt? = some attempt ∧
    attempt.installation = place ∧ attempt.bundle.component = component ∧
    attempt.bundle.generation = generation

/-- All that the contexts of a pool have on record and all that calls may still bring
them is allowed, by the number of the context. -/
structure Within (place : Nat) (allowed : Nat → String → Nat → Prop)
    (session : Session World Environment) : Prop where
  recorded : ∀ {context : ExecutionContext Environment} {component : String}
    {generation : Nat}, session.renderer.HasContext place context →
    context.generation? component = some generation → allowed context.id component generation
  pending : ∀ {component : String} {generation : Nat},
    session.Pending place component generation → ∀ number, allowed number component generation

theorem published_of_turn (hturn : Turn engine session action next) {place : Nat}
    {component : String} {generation : Nat}
    (hpublished : session.Published place component generation) :
    next.Published place component generation := by
  obtain ⟨archive, bundle, harchive, hhas, hbundle⟩ := hpublished
  obtain ⟨after, hafter, hextends⟩ := archive_of_turn hturn harchive
  exact ⟨after, bundle, hafter, hextends.has hhas, hbundle⟩

/-- What a cache shows is the newest that it has published of the component. -/
theorem Filed.newest (hfiled : session.Filed) {place : Nat}
    {installation : Installation Environment} {component : String} {bundle : CodeBundle}
    (hinstallation : session.renderer.installations[place]? = some installation)
    (hget : installation.cache.bundles.get? component = some bundle) :
    bundle.component = component ∧
      session.Published place component bundle.generation ∧
      ∀ {generation : Nat}, session.Published place component generation →
        generation ≤ bundle.generation := by
  obtain ⟨archive, harchive, hrecorded⟩ := hfiled.exists_archive hinstallation
  obtain ⟨hname, publication, hmem, hbundle, hnewest⟩ := hrecorded.exists_newest hget
  refine ⟨hname, ⟨archive, bundle, harchive, ⟨publication, hmem, hbundle⟩, hname, rfl⟩, ?_⟩
  rintro generation ⟨found, other, hfound, ⟨entry, hentry, rfl⟩, hcomponent, rfl⟩
  obtain rfl := Option.some.inj (hfound.symm.trans harchive)
  exact (hnewest entry hentry hcomponent).1

/-- A bundle that a call has was taken before, or the cache shows it now. -/
theorem pending_cases_of_turn (hturn : Turn engine session action next) {place : Nat}
    {component : String} {generation : Nat}
    (hpending : next.Pending place component generation) :
    session.Pending place component generation ∨
    ∃ (installation : Installation Environment) (name : String) (bundle : CodeBundle),
      session.renderer.installations[place]? = some installation ∧
      installation.cache.bundles.get? name = some bundle ∧
      bundle.component = component ∧ bundle.generation = generation := by
  obtain ⟨job, state, attempt, hjob, hattempt, rfl, rfl, rfl⟩ := hpending
  rcases job_cases_of_turn hturn hjob with
    ⟨-, hold⟩ | ⟨-, hentering⟩ | ⟨time, before, events, -, hbefore, hstride⟩
  · exact .inl ⟨job, state, attempt, hold, hattempt, rfl, rfl, rfl⟩
  · rw [hentering] at hattempt
    contradiction
  · by_cases hcheckout : ∃ begun, state.stage = .checkout begun
    · obtain ⟨begun, hbegun⟩ := hcheckout
      rw [hbegun] at hattempt
      obtain rfl := Option.some.inj hattempt
      obtain ⟨installation, -, hinstallation, hget, -⟩ :=
        hstride.exists_installation_of_checkout hbegun
      exact .inr ⟨installation, _, begun.bundle, hinstallation, hget, rfl, rfl⟩
    · have hnone : ∀ begun, state.stage ≠ .checkout begun :=
        fun begun hbegun => hcheckout ⟨begun, hbegun⟩
      exact .inl ⟨job, before, attempt, hbefore,
        hstride.attempt?_of_ne_checkout hnone hattempt, rfl, rfl, rfl⟩

namespace Within

variable {place : Nat} {allowed : Nat → String → Nat → Prop}

theorem mono {more : Nat → String → Nat → Prop} (hwithin : session.Within place allowed)
    (hmore : ∀ {number component generation}, allowed number component generation →
      more number component generation) : session.Within place more where
  recorded hcontext hloaded := hmore (hwithin.recorded hcontext hloaded)
  pending hpending number := hmore (hwithin.pending hpending number)

/-- As long as the cache shows only what is allowed, calls bring the contexts nothing
else. -/
theorem turn (hfiled : session.Filed) (hattended : session.Attended)
    (hwithin : session.Within place allowed)
    (hshown : ∀ {installation : Installation Environment} {name : String}
      {bundle : CodeBundle}, session.renderer.installations[place]? = some installation →
      installation.cache.bundles.get? name = some bundle →
      ∀ number, allowed number bundle.component bundle.generation)
    (hturn : Turn engine session action next) : next.Within place allowed where
  recorded := by
    intro context component generation hcontext hloaded
    rcases hasContext_cases_of_turn hfiled hturn hcontext with
      hold | ⟨number, rfl⟩ | ⟨job, state, attempt, reply, hjob, hworking, rfl, rfl⟩
    · exact hwithin.recorded hold hloaded
    · simp [ExecutionContext.generation?, ExecutionContext.create] at hloaded
    · obtain ⟨before, hphase, hcontinues⟩ := hattended job state attempt reply hjob hworking
      rcases hcontinues.recorded hloaded with hkept | ⟨rfl, rfl⟩
      · rw [hcontinues.id_eq]
        exact hwithin.recorded (Renderer.hasContext_of_phaseOf? hphase) hkept
      · exact hwithin.pending
          ⟨job, state, attempt, hjob, Stage.attempt?_of_working hworking, rfl, rfl, rfl⟩ _
  pending := by
    intro component generation hpending number
    rcases pending_cases_of_turn hturn hpending with
      hold | ⟨installation, name, bundle, hinstallation, hget, rfl, rfl⟩
    · exact hwithin.pending hold number
    · exact hshown hinstallation hget number

end Within

/-- Contexts have nothing on record, and calls have nothing in hand, that the cache of the
installation has not published. -/
theorem within_published (hreach : Reachable engine session) (place : Nat) :
    session.Within place fun _ => session.Published place := by
  refine hreach.induction
    (motive := fun session => session.Within place fun _ => session.Published place) ?_ ?_
  · intro world setup sources first hstart
    obtain ⟨installation, hbuild, rfl⟩ := start_eq_ok hstart
    refine ⟨?_, ?_⟩
    · rintro context component generation ⟨desk, hdesk, hmem⟩ -
      obtain rfl := List.mem_singleton.1 (List.mem_of_getElem? hdesk)
      obtain ⟨size, hsize⟩ := exists_size_of_build hbuild
      rw [hsize] at hmem
      contradiction
    · rintro component generation ⟨job, state, attempt, hjob, -⟩
      contradiction
  · intro session action next hreach hturn hwithin
    have hfiled := filed_of_reachable hreach
    have hmore : session.Within place fun _ => next.Published place :=
      hwithin.mono fun hpublished => published_of_turn hturn hpublished
    refine hmore.turn hfiled (attended_of_reachable hreach) ?_ hturn
    intro installation name bundle hinstallation hget number
    obtain ⟨rfl, hpublished, -⟩ := hfiled.newest hinstallation hget
    exact published_of_turn hturn hpublished

/-! ## Going back -/

def Records (session : Session World Environment) (place number : Nat) (component : String)
    (generation? : Option Nat) : Prop :=
  ∃ context, session.renderer.HasContext place context ∧ context.id = number ∧
    context.generation? component = generation?

/-- A call is about to learn that this generation of the component was loaded for it into
the context with this number. -/
def Loading (session : Session World Environment) (place number : Nat) (component : String)
    (generation : Nat) : Prop :=
  ∃ (job : Nat) (state : Job Environment) (attempt : Attempt)
    (reply : Reply (ExecutionContext Environment) (Except EngineError Work)),
    session.renderer.jobs[job]? = some state ∧ state.stage = .working attempt reply ∧
    attempt.installation = place ∧ reply.after.id = number ∧
    attempt.bundle.component = component ∧ attempt.bundle.generation = generation ∧
    reply.outcome = .ok (.loaded true)

/-- What a context may have on record from now on, if it has this generation now: of this
component nothing older, unless a call has it in hand already. -/
def Onward (session : Session World Environment) (place number : Nat) (component : String)
    (generation : Nat) (other : Nat) (name : String) (found : Nat) : Prop :=
  other = number → name = component →
    generation ≤ found ∨ session.Pending place component found

theorem within_onward (hreach : Reachable engine session) {place number generation : Nat}
    {component : String} (hrecords : session.Records place number component (some generation)) :
    session.Within place (session.Onward place number component generation) where
  recorded := by
    obtain ⟨context, hcontext, rfl, hloaded⟩ := hrecords
    rintro other name found hother hfound hid rfl
    have hnumbered := (numbered_of_reachable hreach).2
    obtain rfl := context_eq_of_id hnumbered hother hcontext hid
    exact .inl (Nat.le_of_eq (Option.some.inj (hloaded.symm.trans hfound)))
  pending := by
    rintro name found hpending other - rfl
    exact .inr hpending

theorem within_onward_of_reaches (hreach : Reachable engine session)
    {place number generation : Nat} {component : String}
    (hrecords : session.Records place number component (some generation))
    (hlater : Reaches engine session later) :
    later.Published place component generation ∧
      later.Within place (session.Onward place number component generation) := by
  induction hlater with
  | refl =>
      have hwithin := within_onward hreach hrecords
      obtain ⟨context, hcontext, -, hloaded⟩ := hrecords
      exact ⟨(within_published hreach place).recorded hcontext hloaded, hwithin⟩
  | @tail between last hbefore hturn ih =>
      obtain ⟨action, hturn⟩ := hturn
      obtain ⟨hpublished, hwithin⟩ := ih
      have hbetween := hreach.trans hbefore
      have hfiled := filed_of_reachable hbetween
      refine ⟨published_of_turn hturn hpublished,
        hwithin.turn hfiled (attended_of_reachable hbetween) ?_ hturn⟩
      -- The cache has published `generation`, so whatever it shows now is not older.
      intro installation name bundle hinstallation hget other _ hname
      obtain ⟨rfl, -, hnewest⟩ := hfiled.newest hinstallation hget
      rw [← hname] at hpublished
      exact .inl (hnewest hpublished)

/-- A context gets older code than it has only from a call that had taken it before the
context had the newer one.  So it loads a generation a second time only if it has
forgotten the component meanwhile, or has newer code by now and goes back, or has gone
back before. -/
theorem records_of_reaches (hreach : Reachable engine session)
    {place number generation : Nat} {component : String}
    (hrecords : session.Records place number component (some generation))
    (hlater : Reaches engine session later) :
    (∀ {found : Nat}, later.Records place number component (some found) →
      generation ≤ found ∨ session.Pending place component found) ∧
    (later.Loading place number component generation →
      later.Records place number component none ∨
      ∃ found, later.Records place number component (some found) ∧
        (generation < found ∨ found < generation ∧ session.Pending place component found)) := by
  obtain ⟨-, hwithin⟩ := within_onward_of_reaches hreach hrecords hlater
  have honward : ∀ {found : Nat}, later.Records place number component (some found) →
      generation ≤ found ∨ session.Pending place component found := by
    rintro found ⟨context, hcontext, hid, hfound⟩
    exact hwithin.recorded hcontext hfound hid rfl
  refine ⟨honward, ?_⟩
  rintro ⟨job, state, attempt, reply, hjob, hworking, rfl, rfl, rfl, rfl, hnow⟩
  obtain ⟨context, hphase, hcontinues⟩ :=
    attended_of_reachable (hreach.trans hlater) job state attempt reply hjob hworking
  have hcontext := Renderer.hasContext_of_phaseOf? hphase
  have hstale := hcontinues.fresh hnow
  cases hrecord : context.generation? attempt.bundle.component with
  | none => exact .inl ⟨context, hcontext, hcontinues.id_eq.symm, hrecord⟩
  | some found =>
      have hfound : later.Records attempt.installation reply.after.id
          attempt.bundle.component (some found) :=
        ⟨context, hcontext, hcontinues.id_eq.symm, hrecord⟩
      have hne : found ≠ attempt.bundle.generation := by
        rintro rfl
        exact hstale hrecord
      refine .inr ⟨found, hfound, ?_⟩
      rcases honward hfound with hle | hpending
      · exact .inl (Nat.lt_of_le_of_ne hle hne.symm)
      · rcases Nat.lt_or_gt_of_ne hne with hlt | hgt
        · exact .inr ⟨hlt, hpending⟩
        · exact .inl hgt

/-- Four calls load a component into one context.  The second one has taken the first
generation when the component changes, and is overtaken by the third at the pool. -/
theorem exists_overtaken : ∃ session later last : Session Unit String,
    Reachable echoEngine session ∧ session.Records 0 0 "A" (some 2) ∧
    Reaches echoEngine session later ∧ later.Records 0 0 "A" (some 1) ∧
    Reaches echoEngine later last ∧ last.Records 0 0 "A" (some 2) ∧
    (last.renderer.desks.map fun desk => desk.contexts.map ExecutionContext.id) = [[0]] ∧
    last.renderer.jobs =
      List.replicate 4 ⟨.load "A", false, .finished (.ok (.loaded true))⟩ ∧
    (last.traces.map fun trace =>
      trace.attempts.map fun attempt => attempt.bundle.generation) = [[1], [1], [2], [2]] := by
  have hloaded : Reaches echoEngine (plainSession () ⟨[("A", "old")]⟩) _ :=
    (((((((Relation.ReflTransGen.refl.tail
      ⟨.accept (.load "A"), .accept _⟩).tail
      ⟨.work 0 0, .work rfl⟩).tail
      ⟨.work 0 0, .work rfl⟩).tail
      ⟨.serve 0 (.look 0), .serve rfl trivial rfl⟩).tail
      ⟨.serve 0 (.build 0 (.ok (.create 0))), .serve rfl ⟨0, rfl, rfl⟩ rfl⟩).tail
      ⟨.work 0 0, .work rfl⟩).tail
      ⟨.work 0 0, .work rfl⟩).tail
      ⟨.work 0 0, .work rfl⟩
  have htaken :=
    ((hloaded.tail
      ⟨.accept (.load "A"), .accept _⟩).tail
      ⟨.work 0 1, .work rfl⟩).tail
      ⟨.work 0 1, .work rfl⟩
  have hchanged :=
    (((((htaken.tail
      ⟨.edit ⟨[("A", "new")]⟩, .edit _⟩).tail
      ⟨.report "A", .report _⟩).tail
      ⟨.change 0, .enter rfl⟩).tail
      ⟨.change 0, .read rfl rfl rfl rfl⟩).tail
      ⟨.change 0, .publish rfl rfl rfl⟩).tail
      ⟨.change 0, .finish rfl⟩
  have hsession :=
    ((((((hchanged.tail
      ⟨.accept (.load "A"), .accept _⟩).tail
      ⟨.work 0 2, .work rfl⟩).tail
      ⟨.work 0 2, .work rfl⟩).tail
      ⟨.serve 0 (.look 2), .serve rfl trivial rfl⟩).tail
      ⟨.work 0 2, .work rfl⟩).tail
      ⟨.work 0 2, .work rfl⟩).tail
      ⟨.work 0 2, .work rfl⟩
  exact ⟨_, _, _, ⟨(), plainSetup, _, _, start_plainSetup () _, hsession⟩,
    ⟨_, ⟨_, rfl, .head _⟩, rfl, rfl⟩,
    (((Relation.ReflTransGen.refl.tail
      ⟨.serve 0 (.look 1), .serve rfl trivial rfl⟩).tail
      ⟨.work 0 1, .work rfl⟩).tail
      ⟨.work 0 1, .work rfl⟩).tail
      ⟨.work 0 1, .work rfl⟩,
    ⟨_, ⟨_, rfl, .head _⟩, rfl, rfl⟩,
    ((((((Relation.ReflTransGen.refl.tail
      ⟨.accept (.load "A"), .accept _⟩).tail
      ⟨.work 0 3, .work rfl⟩).tail
      ⟨.work 0 3, .work rfl⟩).tail
      ⟨.serve 0 (.look 3), .serve rfl trivial rfl⟩).tail
      ⟨.work 0 3, .work rfl⟩).tail
      ⟨.work 0 3, .work rfl⟩).tail
      ⟨.work 0 3, .work rfl⟩,
    ⟨_, ⟨_, rfl, .head _⟩, rfl, rfl⟩, rfl, rfl, rfl⟩

/-- In that session the context goes back to the first generation, and so the second call
had this one in hand when the context had the newer one. -/
theorem pending_of_overtaken :
    ∃ session later : Session Unit String, Reachable echoEngine session ∧
      session.Records 0 0 "A" (some 2) ∧ Reaches echoEngine session later ∧
      later.Records 0 0 "A" (some 1) ∧ session.Pending 0 "A" 1 := by
  obtain ⟨session, later, last, hreach, hrecords, hlater, hback, -⟩ := exists_overtaken
  refine ⟨session, later, hreach, hrecords, hlater, hback, ?_⟩
  rcases (records_of_reaches hreach hrecords hlater).1 hback with hle | hpending
  · contradiction
  · exact hpending

/-- It is not so that a context never goes back to older code. -/
theorem not_forall_generation_le :
    ¬ ∀ (session later : Session Unit String) (place number generation found : Nat)
      (component : String), Reachable echoEngine session →
      session.Records place number component (some generation) →
      Reaches echoEngine session later →
      later.Records place number component (some found) → generation ≤ found := by
  intro honward
  obtain ⟨session, later, last, hreach, hrecords, hlater, hback, -⟩ := exists_overtaken
  have hle := honward session later 0 0 2 1 "A" hreach hrecords hlater hback
  contradiction

end Session

end ServerRender
