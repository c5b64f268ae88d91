import ServerRender.Proofs.Renderer.Handover
import ServerRender.Proofs.Renderer.Lending

/-!
# Refused loads

A load makes one attempt and does not start over as a render does, so one handover is
enough to make it fail: it has entered an installation, and the pool of this one closes
before the load has got a context.  There is no other way.  A load is not refused while no
pool closes, and once it has got a context it may be left to finish by any number of
handovers.
-/

namespace ServerRender

variable {World Environment : Type}

namespace Renderer

variable {renderer : Renderer World Environment} {fresh : Installation Environment}
variable {index caller : Nat} {phase : Pool.Phase (ExecutionContext Environment)}

theorem phaseOf?_put (hphase : renderer.phaseOf? index caller = some phase) :
    (renderer.put fresh).phaseOf? index caller = some phase := by
  obtain ⟨desk, hdesk, hcaller⟩ := Option.bind_eq_some_iff.1 hphase
  have hlt := (List.getElem?_eq_some_iff.1 hdesk).1
  have hdesks : (renderer.put fresh).desks = renderer.desks ++ [fresh.desk] := by
    simp [desks, put]
  rwa [phaseOf?, hdesks, List.getElem?_append_left hlt]

theorem phaseOf?_shutdown (hphase : renderer.phaseOf? index caller = some phase) :
    renderer.shutdown.phaseOf? index caller = some phase := by
  obtain ⟨desk, hdesk, hcaller⟩ := Option.bind_eq_some_iff.1 hphase
  have hdesks : renderer.shutdown.desks =
      renderer.desks.modify (renderer.installations.length - 1) Pool.Desk.shutdown :=
    map_modify _ _ fun _ => rfl
  rw [phaseOf?, hdesks, List.getElem?_modify, hdesk]
  split
  · simpa [Pool.Desk.phase?, Pool.Desk.shutdown] using hcaller
  · simpa using hcaller

end Renderer

/-- A call that is in an attempt does not read again which installation is current. -/
theorem Session.not_readsCurrent_work {session : Session World Environment} {time job : Nat}
    {state : Job Environment} {attempt : Attempt}
    (hjob : session.renderer.jobs[job]? = some state)
    (hattempt : state.stage.attempt? = some attempt) :
    ¬ session.ReadsCurrent (.work time job) := by
  rintro ⟨found, hfound, hentering⟩
  obtain rfl := Option.some.inj (hjob.symm.trans hfound)
  rw [hentering] at hattempt
  contradiction

namespace Handover

variable {engine : Engine World Environment} {handover next later : Handover World Environment}
variable {job base closed count : Nat}

theorem Runs.trans {more : Nat} {between : Handover World Environment}
    (hbefore : Runs engine handover count between) (hafter : Runs engine between more later) :
    Runs engine handover (count + more) later := by
  induction hafter with
  | refl => exact hbefore
  | tail _ hturn ih => exact Nat.add_assoc _ _ _ ▸ ih.tail hturn

theorem finished_of_answer? {renderer : Renderer World Environment}
    {answer : Except RenderError Answer} (hanswer : renderer.answer? job = some answer)
    {state : Job Environment} (hjob : renderer.jobs[job]? = some state) :
    state.stage = .finished answer := by
  simp only [Renderer.answer?, hjob, Option.map_some] at hanswer
  split at hanswer
  · next result hresult =>
      rw [Option.some.inj hresult, Option.some.inj hanswer]
  · contradiction

/-- How far a load has come that started when the first `base` pools were closed: its
attempts are in later installations than these, and it is refused only where a pool has
closed since. -/
structure Tries (base closed : Nat) (state : Job Environment) (trace : Trace) : Prop where
  load : ∃ component, state.call = .load component
  once : state.retried = false
  started : base ≤ closed
  entered : ∀ {index : Nat}, state.stage = .entered index → base ≤ index
  current : ∀ {attempt : Attempt}, state.stage.attempt? = some attempt →
    attempt ∈ trace.attempts
  begun : ∀ {attempt : Attempt}, attempt ∈ trace.attempts → base ≤ attempt.installation
  refused : state.stage = .finished (.error .poolShutdown) →
    ∃ attempt ∈ trace.attempts, attempt.installation < closed

theorem Tries.mono {more : Nat} {state : Job Environment} {trace : Trace}
    (htries : Tries base closed state trace) (hle : closed ≤ more) :
    Tries base more state trace :=
  { htries with
    started := Nat.le_trans htries.started hle
    refused := fun hrefused =>
      (htries.refused hrefused).imp fun _ hattempt =>
        ⟨hattempt.1, Nat.lt_of_lt_of_le hattempt.2 hle⟩ }

theorem Tries.stride {renderer after : Renderer World Environment}
    {before state : Job Environment} {trace : Trace} {events : List Log.Event}
    (htries : Tries base closed before trace)
    (hstride : Renderer.Stride engine renderer job before state after events)
    (hentering : before.stage = .entering → renderer.installations.length - 1 = closed)
    (hrefuses : ∀ {index : Nat}, renderer.Refuses index → index < closed) :
    Tries base closed state (trace.add (some state.stage) events) := by
  have hload : ∃ component, state.call = .load component := by
    rw [hstride.call_eq]
    exact htries.load
  have hstarted := htries.started
  have hcurrent := @htries.current
  have hbegun := @htries.begun
  cases hstride with
  | enter =>
      refine ⟨hload, htries.once, hstarted, ?_, by simp [Stage.attempt?], hbegun, by simp⟩
      intro index hindex
      obtain rfl := Stage.entered.inj hindex
      rw [hentering rfl]
      exact hstarted
  | missing hinstallation hget =>
      exact ⟨hload, htries.once, hstarted, by simp, by simp [Stage.attempt?], hbegun, by simp⟩
  | arrive time hinstallation hget =>
      refine ⟨hload, htries.once, hstarted, by simp, ?_, ?_, by simp⟩
      · intro attempt hattempt
        obtain rfl := Option.some.inj hattempt
        exact List.mem_cons_self
      · intro attempt hmem
        rcases List.mem_cons.mp hmem with rfl | hmem
        · exact htries.entered rfl
        · exact hbegun hmem
  | startLoad hphase =>
      exact ⟨hload, htries.once, hstarted, by simp, hcurrent, hbegun, by simp⟩
  | startOver hphase =>
      obtain ⟨component, hcall⟩ := hload
      contradiction
  | @refused call retried attempt error hphase hfinal =>
      refine ⟨hload, htries.once, hstarted, by simp, by simp [Stage.attempt?], hbegun, ?_⟩
      intro hshutdown
      obtain rfl := Except.error.inj (Stage.finished.inj hshutdown)
      exact ⟨attempt, hcurrent rfl, hrefuses (Renderer.refuses_of_phaseOf? hphase)⟩
  | startEval hphase =>
      exact ⟨hload, htries.once, hstarted, by simp, hcurrent, hbegun, by simp⟩
  | endWork hgates hinstallation =>
      rw [Trace.add_of_ne fun other hcheckout =>
        Renderer.stageAfterWork_ne_checkout other (Option.some.inj hcheckout)]
      refine ⟨hload, htries.once, hstarted, ?_, ?_, hbegun,
        fun hrefused => absurd hrefused (Renderer.stageAfterWork_ne_of_none rfl)⟩
      · intro index hindex
        exact absurd hindex (Renderer.stageAfterWork_ne_of_none rfl)
      · intro attempt hattempt
        exact hcurrent (Renderer.attempt?_stageAfterWork.symm.trans hattempt)
  | leave hinstallation hmove =>
      refine ⟨hload, htries.once, hstarted, by simp, by simp [Stage.attempt?], hbegun, ?_⟩
      intro hshutdown
      exact absurd (Stage.finished.inj hshutdown) (concludeCall_ne_poolShutdown _ _ _ _)

def Trying (base job : Nat) (handover : Handover World Environment) : Prop :=
  ∃ state trace, handover.session.renderer.jobs[job]? = some state ∧
    handover.session.traces[job]? = some trace ∧ Tries base handover.closed state trace

theorem trying_of_turn {closings : Nat} (horderly : handover.Orderly)
    (htrying : Trying base job handover) (hturn : Turn engine handover closings next) :
    Trying base job next := by
  have hclosed := closed_of_turn horderly hturn
  have hle : handover.closed ≤ next.closed := hclosed ▸ Nat.le_add_right _ _
  obtain ⟨state, trace, hjob, htrace, htries⟩ := htrying
  cases hturn with
  | @act action session hturn hkeeps hlock =>
      by_cases hwork : ∃ time, action = .work time job
      · obtain ⟨time, rfl⟩ := hwork
        cases hturn with
        | @work _ _ renderer events hstep =>
            obtain ⟨before, after, hbefore, hstride⟩ := Renderer.exists_stride_of_step hstep
            obtain rfl := Option.some.inj (hbefore.symm.trans hjob)
            have hafter := hstride.job_eq hbefore
            refine ⟨after, trace.add (some after.stage) events, hafter, ?_,
              (htries.stride hstride ?_ horderly.refuses_lt).mono hle⟩
            · rw [List.getElem?_modify_eq, htrace, hafter]
              rfl
            · intro hentering
              have hfree : handover.replacing = none := by
                by_contra hlocked
                exact hlock hlocked ⟨before, hbefore, hentering⟩
              simp [closed, hfree]
      · have hother : ∀ time, action ≠ .work time job := fun time haction => hwork ⟨time, haction⟩
        obtain ⟨after, hafter, rfl | ⟨time, events, haction, -⟩⟩ :=
          Session.exists_job_of_turn hturn hjob
        · exact ⟨after, trace, hafter, Session.trace_of_turn hturn htrace hother, htries.mono hle⟩
        · exact absurd haction (hother time)
  | close index hfree hrenewal => exact ⟨state, trace, hjob, htrace, htries.mono hle⟩
  | put index hreplacing hrenewal => exact ⟨state, trace, hjob, htrace, htries.mono hle⟩

theorem trying_of_runs (horderly : handover.Orderly) (htrying : Trying base job handover)
    (hruns : Runs engine handover count later) : Trying base job later := by
  induction hruns with
  | refl => exact htrying
  | tail hbefore hturn ih => exact trying_of_turn (orderly_of_runs horderly hbefore) ih hturn

theorem trying_accept (horderly : handover.Orderly) (component : String) :
    Trying handover.closed handover.session.renderer.jobs.length
      (handover.accept (.load component)) := by
  refine ⟨_, ⟨[], []⟩, List.getElem?_concat_length, ?_, ⟨_, rfl⟩, rfl, Nat.le_refl _, by simp,
    by simp [Stage.attempt?], by simp, by simp⟩
  rw [← horderly.counted.length_traces]
  exact List.getElem?_concat_length

/-- The call has got a context, or it is over and was not refused. -/
def Served (job : Nat) (handover : Handover World Environment) : Prop :=
  ∃ state, handover.session.renderer.jobs[job]? = some state ∧
    ((∃ attempt, state.stage.attempt? = some attempt ∧ handover.session.Lent attempt) ∨
      ∃ result, state.stage = .finished result ∧ result ≠ .error .poolShutdown)

/-- A call with a context goes on with it, and its answer is what the engine makes of
it. -/
theorem served_of_stride {renderer after : Renderer World Environment}
    {before state : Job Environment} {events : List Log.Event} {attempt : Attempt}
    (hstride : Renderer.Stride engine renderer job before state after events)
    (hattempt : before.stage.attempt? = some attempt)
    (hphase : ∀ error, renderer.phaseOf? attempt.installation attempt.caller ≠
      some (.refused error)) :
    state.stage.attempt? = some attempt ∨
      ∃ result, state.stage = .finished result ∧ result ≠ .error .poolShutdown := by
  cases hstride with
  | enter => contradiction
  | missing hinstallation hget => contradiction
  | arrive time hinstallation hget => contradiction
  | startLoad hholding => exact .inl hattempt
  | startEval hholding => exact .inl hattempt
  | startOver hrefused =>
      obtain rfl := Option.some.inj hattempt
      exact absurd hrefused (hphase _)
  | refused hrefused hfinal =>
      obtain rfl := Option.some.inj hattempt
      exact absurd hrefused (hphase _)
  | endWork hgates hinstallation =>
      exact .inl (Renderer.attempt?_stageAfterWork.trans hattempt)
  | leave hinstallation hmove =>
      exact .inr ⟨_, rfl, concludeCall_ne_poolShutdown _ _ _ _⟩

theorem lent_of_turn {closings : Nat} {attempt : Attempt}
    (hlent : handover.session.Lent attempt) (hturn : Turn engine handover closings next) :
    next.session.Lent attempt := by
  cases hturn with
  | act action hturn hkeeps hlock => exact Session.lent_of_turn hlent hturn
  | close index hfree hrenewal =>
      exact hlent.imp (fun hholding => hholding.imp fun _ => Renderer.phaseOf?_shutdown)
        Renderer.phaseOf?_shutdown
  | put index hreplacing hrenewal =>
      exact hlent.imp (fun hholding => hholding.imp fun _ => Renderer.phaseOf?_put)
        Renderer.phaseOf?_put

theorem served_of_turn {closings : Nat} (hserved : Served job handover)
    (hturn : Turn engine handover closings next) : Served job next := by
  obtain ⟨state, hjob, hserved⟩ := hserved
  have hkeeps : ∀ {attempt}, handover.session.Lent attempt → next.session.Lent attempt :=
    fun hlent => lent_of_turn hlent hturn
  have hstays : (∃ attempt, state.stage.attempt? = some attempt ∧ next.session.Lent attempt) ∨
      ∃ result, state.stage = .finished result ∧ result ≠ .error .poolShutdown :=
    hserved.imp_left fun hattempt => hattempt.imp fun _ h => ⟨h.1, hkeeps h.2⟩
  cases hturn with
  | act action hturn _ _ =>
      obtain ⟨after, hafter, rfl | ⟨time, events, rfl, hstride⟩⟩ :=
        Session.exists_job_of_turn hturn hjob
      · exact ⟨after, hafter, hstays⟩
      rcases hserved with ⟨attempt, hattempt, hlent⟩ | ⟨result, hfinished, -⟩
      · have hphase : ∀ error, handover.session.renderer.phaseOf? attempt.installation
            attempt.caller ≠ some (.refused error) := by
          rcases hlent with ⟨context, hholding⟩ | hreturned
          · simp [hholding]
          · simp [hreturned]
        refine ⟨after, hafter, (served_of_stride hstride hattempt hphase).imp_left ?_⟩
        exact fun hsame => ⟨attempt, hsame, hkeeps hlent⟩
      · obtain ⟨call, retried, stage⟩ := state
        obtain rfl : stage = .finished result := hfinished
        cases hstride
  | close index hfree hrenewal => exact ⟨state, hjob, hstays⟩
  | put index hreplacing hrenewal => exact ⟨state, hjob, hstays⟩

theorem served_of_runs (hserved : Served job handover) (hruns : Runs engine handover count later) :
    Served job later := by
  induction hruns with
  | refl => exact hserved
  | tail _ hturn ih => exact served_of_turn ih hturn

theorem answer_ne_of_served (hserved : Served job handover) :
    handover.session.renderer.answer? job ≠ some (.error .poolShutdown) := by
  intro hanswer
  obtain ⟨state, hjob, ⟨attempt, hattempt, -⟩ | ⟨result, hfinished, hresult⟩⟩ := hserved
  · rw [finished_of_answer? hanswer hjob] at hattempt
    contradiction
  · rw [finished_of_answer? hanswer hjob] at hfinished
    exact hresult (Stage.finished.inj hfinished).symm

/-! ## When a load is refused -/

/-- A load that is told that its pool was shut down has made one attempt, in an
installation that was open when the load started and whose pool has closed since.  So it
is not refused while no pool closes, and it is not refused either, however many pools
close, once it has got a context. -/
theorem refusal_of_load (hreach : Reachable engine handover) {component : String}
    (hruns : Runs engine (handover.accept (.load component)) count later) :
    (later.session.renderer.answer? handover.session.renderer.jobs.length =
        some (.error .poolShutdown) →
      1 ≤ count ∧ ∃ attempt log,
        later.session.traces[handover.session.renderer.jobs.length]? = some ⟨[attempt], log⟩ ∧
        handover.closed ≤ attempt.installation ∧ attempt.installation < later.closed) ∧
    ∀ {between : Handover World Environment} {more : Nat} {state : Job Environment}
      {attempt : Attempt} {context : ExecutionContext Environment},
      Runs engine between more later →
      between.session.renderer.jobs[handover.session.renderer.jobs.length]? = some state →
      state.stage.attempt? = some attempt →
      between.session.renderer.phaseOf? attempt.installation attempt.caller =
        some (.holding context) →
      later.session.renderer.answer? handover.session.renderer.jobs.length ≠
        some (.error .poolShutdown) := by
  have horderly := orderly_of_reachable hreach
  have hturn : Turn engine handover 0 (handover.accept (.load component)) :=
    turn_accept handover _
  have haccepted := orderly_of_turn horderly hturn
  have hlater := orderly_of_runs haccepted hruns
  constructor
  · intro hanswer
    obtain ⟨state, ⟨attempts, log⟩, hjob, htrace, htries⟩ :=
      trying_of_runs haccepted (trying_accept horderly component) hruns
    obtain ⟨attempt, hmem, hclosed⟩ := htries.refused (finished_of_answer? hanswer hjob)
    have hbegun := htries.begun hmem
    have hlength := hlater.counted.attempts_le hjob htrace
    rw [htries.once, finished_of_answer? hanswer hjob] at hlength
    obtain rfl : attempts = [attempt] := by
      obtain ⟨only, rfl⟩ := List.length_eq_one_iff.mp (Nat.le_antisymm hlength
        (List.length_pos_of_mem hmem))
      rw [List.mem_singleton.mp hmem]
    have hcount := closed_of_runs haccepted hruns
    have hsame : (handover.accept (.load component)).closed = handover.closed := rfl
    exact ⟨by omega, attempt, log, htrace, hbegun, hclosed⟩
  · intro between more state attempt context hbetween hjob hattempt hholding
    have hserved : Served handover.session.renderer.jobs.length between :=
      ⟨state, hjob, .inl ⟨attempt, hattempt, .inl ⟨context, hholding⟩⟩⟩
    exact answer_ne_of_served (served_of_runs hserved hbetween)

theorem reachable_prepared : Reachable Session.echoEngine prepared := by
  obtain ⟨handover, hreach, rfl⟩ :
      ∃ handover, Reachable Session.echoEngine handover ∧ handover = prepared :=
    ⟨_, ⟨(), Session.plainSetup, ⟨[("A", "code")]⟩, _, _,
      Session.start_plainSetup () ⟨[("A", "code")]⟩,
      (Runs.refl.tail
        (.act (.order Session.plainSetup) (.order _) id fun _ => id)).tail
        (.act (.renew 0) (.build rfl (Session.build_plainSetup _))
          (by simp [Session.Closes, Session.plainSession]) fun _ => id)⟩, rfl⟩
  exact hreach

/-- A load comes to a pool that closes before it has looked. -/
theorem exists_refused_load :
    ∃ later : Handover Unit String,
      Runs Session.echoEngine (prepared.accept (.load "A")) 1 later ∧
      later.session.renderer.answer? prepared.session.renderer.jobs.length =
        some (.error .poolShutdown) := by
  have hbefore : Runs Session.echoEngine (prepared.accept (.load "A")) _ _ := .refl
  have hruns :=
    ((((hbefore.tail
      (.act (.work 0 0) (.work rfl) id fun h => absurd rfl h)).tail
      (.act (.work 0 0) (.work rfl) id fun h => absurd rfl h)).tail
      (.close 0 rfl rfl)).tail
      (.act (.serve 0 (.look 0)) (.serve rfl trivial rfl) id fun _ => id)).tail
      (.act (.work 0 0) (.work rfl) id fun _ => Session.not_readsCurrent_work rfl rfl)
  exact ⟨_, hruns, rfl⟩

/-- A load is about to give its context back to a pool that closes then. -/
theorem exists_served_load :
    ∃ (between later : Handover Unit String) (state : Job String) (attempt : Attempt)
      (context : ExecutionContext String),
      Runs Session.echoEngine (prepared.accept (.load "A")) 0 between ∧
      between.session.renderer.jobs[prepared.session.renderer.jobs.length]? = some state ∧
      state.stage.attempt? = some attempt ∧
      between.session.renderer.phaseOf? attempt.installation attempt.caller =
        some (.holding context) ∧
      Runs Session.echoEngine between 1 later ∧
      later.session.renderer.answer? prepared.session.renderer.jobs.length =
        some (.ok (.loaded true)) := by
  have hbefore : Runs Session.echoEngine (prepared.accept (.load "A")) _ _ := .refl
  have hheld :=
    (((((hbefore.tail
      (.act (.work 0 0) (.work rfl) id fun h => absurd rfl h)).tail
      (.act (.work 0 0) (.work rfl) id fun h => absurd rfl h)).tail
      (.act (.serve 0 (.look 0)) (.serve rfl trivial rfl) id fun _ => id)).tail
      (.act (.serve 0 (.build 0 (.ok (.create 0)))) (.serve rfl ⟨0, rfl, rfl⟩ rfl) id
        fun _ => id)).tail
      (.act (.work 0 0) (.work rfl) id fun h => absurd rfl h)).tail
      (.act (.work 0 0) (.work rfl) id fun h => absurd rfl h)
  refine ⟨_, _, _, _, _, hheld, rfl, rfl, rfl,
    (Runs.refl.tail (.close 0 rfl rfl)).tail (.act (.work 0 0) (.work rfl) id fun _ => ?_), rfl⟩
  exact Session.not_readsCurrent_work rfl rfl

/-- One load is refused where it was when its pool closed, and another one has a context
by then and is not. -/
theorem refusal_of_early_load :
    (∃ later : Handover Unit String,
      Runs Session.echoEngine (prepared.accept (.load "A")) 1 later ∧
      later.session.renderer.answer? prepared.session.renderer.jobs.length =
        some (.error .poolShutdown) ∧
      ∃ attempt log,
        later.session.traces[prepared.session.renderer.jobs.length]? = some ⟨[attempt], log⟩ ∧
        prepared.closed ≤ attempt.installation ∧ attempt.installation < later.closed) ∧
    ∃ later : Handover Unit String,
      Runs Session.echoEngine (prepared.accept (.load "A")) 1 later ∧
      later.session.renderer.answer? prepared.session.renderer.jobs.length =
        some (.ok (.loaded true)) ∧
      later.session.renderer.answer? prepared.session.renderer.jobs.length ≠
        some (.error .poolShutdown) := by
  constructor
  · obtain ⟨later, hruns, hanswer⟩ := exists_refused_load
    obtain ⟨-, hattempt⟩ := (refusal_of_load reachable_prepared hruns).1 hanswer
    exact ⟨later, hruns, hanswer, hattempt⟩
  · obtain ⟨between, later, state, attempt, context, hbefore, hjob, hattempt, hholding, hafter,
      hanswer⟩ := exists_served_load
    have hruns := hbefore.trans hafter
    exact ⟨later, hruns, hanswer,
      (refusal_of_load reachable_prepared hruns).2 hafter hjob hattempt hholding⟩

/-- One handover is enough to make a load fail. -/
theorem not_forall_load_ne_poolShutdown :
    ¬ ∀ (handover later : Handover Unit String) (component : String) (count : Nat),
      Reachable Session.echoEngine handover →
      Runs Session.echoEngine (handover.accept (.load component)) count later → count ≤ 1 →
      later.session.renderer.answer? handover.session.renderer.jobs.length ≠
        some (.error .poolShutdown) := by
  intro hall
  obtain ⟨later, hruns, hanswer⟩ := exists_refused_load
  exact hall prepared later "A" 1 reachable_prepared hruns (Nat.le_refl 1) hanswer

end Handover

end ServerRender
