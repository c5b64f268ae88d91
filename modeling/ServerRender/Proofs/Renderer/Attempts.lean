import ServerRender.Proofs.Renderer.Session

/-!
# Attempts of calls

Each attempt of a call has a caller of its own at the desk of its installation.  What
that caller has got, a context or a refusal, nobody else takes away, so a call can be
followed through a session without regard to the steps of all others.
-/

namespace ServerRender.Session

variable {World Environment : Type} {engine : Engine World Environment}
variable {session next : Session World Environment} {action : Action World Environment}

theorem trace_of_turn (hturn : Turn engine session action next) {job : Nat} {trace : Trace}
    (htrace : session.traces[job]? = some trace)
    (hother : ∀ time, action ≠ .work time job) :
    next.traces[job]? = some trace := by
  cases hturn with
  | accept call =>
      have hlt := (List.getElem?_eq_some_iff.1 htrace).1
      exact (List.getElem?_append_left hlt).trans htrace
  | @work time worker renderer events hstep =>
      have hne : worker ≠ job := by
        rintro rfl
        exact hother time rfl
      exact (List.getElem?_modify_ne _ _ hne).trans htrace
  | _ => exact htrace

/-- A caller that has got a context keeps it until its call goes on, and one that has got
an answer keeps it for good. -/
theorem phaseOf?_of_turn (hturn : Turn engine session action next) {index caller : Nat}
    {phase : Pool.Phase (ExecutionContext Environment)}
    (hphase : session.renderer.phaseOf? index caller = some phase)
    (hsettled : phase.IsSettled)
    (hother : ∀ time job state attempt, action = .work time job →
      session.renderer.jobs[job]? = some state → state.stage.attempt? = some attempt →
      attempt.installation = index → attempt.caller ≠ caller ∨ phase.IsFinal) :
    next.renderer.phaseOf? index caller = some phase := by
  cases hturn with
  | @work time worker renderer events hstep =>
      obtain ⟨before, after, hjob, hstride⟩ := Renderer.exists_stride_of_step hstep
      exact hstride.phaseOf?_of_other hphase
        fun attempt => hother time worker before attempt rfl hjob
  | @serve place installation action desk events hinstallation hserves hstep =>
      have hdesk := Renderer.desk_of_installation hinstallation
      by_cases hindex : place = index
      · subst hindex
        rw [Renderer.phaseOf?_of_desk hdesk] at hphase
        rw [Renderer.phaseOf?_setDesk_self hdesk]
        refine Pool.Desk.phase?_of_move (Pool.Desk.move_of_step hstep) hphase hsettled ?_
        rintro rfl
        exact hserves
      · exact (Renderer.phaseOf?_setDesk_of_ne hindex caller).trans hphase
  | publish hchange hinstallation harchive =>
      rwa [Renderer.phaseOf?, Renderer.desks_setCache]
  | install hrenewal => exact Renderer.phaseOf?_install hphase
  | _ => exact hphase

theorem phaseOf?_of_isFinal (hturn : Turn engine session action next) {index caller : Nat}
    {phase : Pool.Phase (ExecutionContext Environment)}
    (hphase : session.renderer.phaseOf? index caller = some phase) (hfinal : phase.IsFinal) :
    next.renderer.phaseOf? index caller = some phase :=
  phaseOf?_of_turn hturn hphase (Pool.Phase.isSettled_of_isFinal hfinal)
    fun _ _ _ _ _ _ _ _ => .inr hfinal

theorem exists_phaseOf?_of_turn (hturn : Turn engine session action next)
    {index caller : Nat} {phase : Pool.Phase (ExecutionContext Environment)}
    (hphase : session.renderer.phaseOf? index caller = some phase) :
    ∃ after, next.renderer.phaseOf? index caller = some after := by
  cases hturn with
  | work hstep =>
      obtain ⟨before, after, -, hstride⟩ := Renderer.exists_stride_of_step hstep
      exact hstride.exists_phaseOf? hphase
  | serve hinstallation hserves hstep =>
      exact Renderer.exists_phaseOf?_setDesk (Renderer.desk_of_installation hinstallation)
        (Pool.Desk.length_callers_le_of_move (Pool.Desk.move_of_step hstep)) hphase
  | publish hchange hinstallation harchive =>
      refine ⟨phase, ?_⟩
      rwa [Renderer.phaseOf?, Renderer.desks_setCache]
  | install hrenewal => exact ⟨phase, Renderer.phaseOf?_install hphase⟩
  | _ => exact ⟨phase, hphase⟩

theorem templates_prefix_of_turn (hturn : Turn engine session action next) :
    session.renderer.templates <+: next.renderer.templates := by
  cases hturn with
  | work hstep =>
      obtain ⟨before, after, -, hstride⟩ := Renderer.exists_stride_of_step hstep
      exact ⟨[], by rw [List.append_nil, hstride.templates_eq]⟩
  | serve hinstallation hserves hstep =>
      exact ⟨[], by rw [List.append_nil, Renderer.templates_setDesk]⟩
  | publish hchange hinstallation harchive =>
      exact ⟨[], by rw [List.append_nil, Renderer.templates_setCache]⟩
  | install hrenewal => exact ⟨_, Renderer.templates_install.symm⟩
  | _ => exact List.prefix_refl _

/-- A call is where it was, or it is new, or it has made a stride. -/
theorem job_cases_of_turn (hturn : Turn engine session action next) {job : Nat}
    {state : Job Environment} (hjob : next.renderer.jobs[job]? = some state) :
    ((∀ time, action ≠ .work time job) ∧ session.renderer.jobs[job]? = some state) ∨
    (session.renderer.jobs.length = job ∧ state.stage = .entering) ∨
    ∃ time before events, action = .work time job ∧
      session.renderer.jobs[job]? = some before ∧
      Renderer.Stride engine session.renderer job before state next.renderer events := by
  cases hturn with
  | accept call =>
      rcases getElem?_append_cases hjob with hold | ⟨hlast, rfl⟩
      · exact .inl ⟨by simp, hold⟩
      · exact .inr (.inl ⟨hlast, rfl⟩)
  | @work time worker renderer events hstep =>
      obtain ⟨before, after, hbefore, hstride⟩ := Renderer.exists_stride_of_step hstep
      by_cases hworker : worker = job
      · subst hworker
        obtain rfl := Option.some.inj ((hstride.job_eq hbefore).symm.trans hjob)
        exact .inr (.inr ⟨time, before, events, rfl, hbefore, hstride⟩)
      · refine .inl ⟨fun _ hsame => ?_, (hstride.job_of_ne hworker).symm.trans hjob⟩
        exact hworker (Action.work.inj hsame).2
  | _ => exact .inl ⟨by simp, hjob⟩

/-- A call stays where it is, or it makes a stride. -/
theorem exists_job_of_turn (hturn : Turn engine session action next) {job : Nat}
    {state : Job Environment} (hjob : session.renderer.jobs[job]? = some state) :
    ∃ after, next.renderer.jobs[job]? = some after ∧ (after = state ∨
      ∃ time events, action = .work time job ∧
        Renderer.Stride engine session.renderer job state after next.renderer events) := by
  cases hturn with
  | accept call =>
      have hlt := (List.getElem?_eq_some_iff.1 hjob).1
      exact ⟨state, (List.getElem?_append_left hlt).trans hjob, .inl rfl⟩
  | @work time worker renderer events hstep =>
      obtain ⟨before, after, hbefore, hstride⟩ := Renderer.exists_stride_of_step hstep
      by_cases hworker : worker = job
      · subst hworker
        obtain rfl := Option.some.inj (hbefore.symm.trans hjob)
        exact ⟨after, hstride.job_eq hbefore, .inr ⟨time, events, rfl, hstride⟩⟩
      · exact ⟨state, (hstride.job_of_ne hworker).trans hjob, .inl rfl⟩
  | _ => exact ⟨state, hjob, .inl rfl⟩

/-- The attempts of a call are those that it had before, and perhaps one that it has just
begun. -/
theorem attempt_cases_of_turn (hturn : Turn engine session action next) {job : Nat}
    {trace : Trace} {attempt : Attempt} (htrace : next.traces[job]? = some trace)
    (hmem : attempt ∈ trace.attempts) :
    (∃ earlier, session.traces[job]? = some earlier ∧ attempt ∈ earlier.attempts) ∨
    ∃ time before after events, action = .work time job ∧
      session.renderer.jobs[job]? = some before ∧
      Renderer.Stride engine session.renderer job before after next.renderer events ∧
      after.stage = .checkout attempt := by
  cases hturn with
  | accept call =>
      rcases getElem?_append_cases htrace with hold | ⟨-, rfl⟩
      · exact .inl ⟨trace, hold, hmem⟩
      · contradiction
  | @work time worker renderer events hstep =>
      obtain ⟨before, after, hbefore, hstride⟩ := Renderer.exists_stride_of_step hstep
      rw [List.getElem?_modify] at htrace
      obtain ⟨earlier, hearlier, rfl⟩ := Option.map_eq_some_iff.1 htrace
      split at hmem
      · next hworker =>
          subst hworker
          rw [hstride.job_eq hbefore, Option.map_some] at hmem
          by_cases hcheckout : ∃ begun, after.stage = .checkout begun
          · obtain ⟨begun, hbegun⟩ := hcheckout
            rw [hbegun] at hmem
            rcases List.mem_cons.1 hmem with rfl | hmem
            · exact .inr ⟨time, before, after, events, rfl, hbefore, hstride, hbegun⟩
            · exact .inl ⟨earlier, hearlier, hmem⟩
          · rw [Trace.add_of_ne fun begun hbegun =>
              hcheckout ⟨begun, Option.some.inj hbegun⟩] at hmem
            exact .inl ⟨earlier, hearlier, hmem⟩
      · exact .inl ⟨earlier, hearlier, hmem⟩
  | _ => exact .inl ⟨trace, htrace, hmem⟩

/-! ## Seats -/

/-- Every attempt has a caller, and no two calls have the same one. -/
structure Seated (session : Session World Environment) : Prop where
  length_traces : session.traces.length = session.renderer.jobs.length
  current : ∀ {job : Nat} {state : Job Environment} {attempt : Attempt},
    session.renderer.jobs[job]? = some state → state.stage.attempt? = some attempt →
    ∃ rest log, session.traces[job]? = some ⟨attempt :: rest, log⟩
  placed : ∀ {job : Nat} {trace : Trace} {attempt : Attempt},
    session.traces[job]? = some trace → attempt ∈ trace.attempts →
    ∃ phase, session.renderer.phaseOf? attempt.installation attempt.caller = some phase
  apart : ∀ {job otherJob : Nat} {trace otherTrace : Trace} {attempt other : Attempt},
    session.traces[job]? = some trace → session.traces[otherJob]? = some otherTrace →
    attempt ∈ trace.attempts → other ∈ otherTrace.attempts →
    attempt.installation = other.installation → attempt.caller = other.caller →
    job = otherJob

theorem placed_of_turn (hseated : session.Seated) (hturn : Turn engine session action next)
    {job : Nat} {trace : Trace} {attempt : Attempt} (htrace : next.traces[job]? = some trace)
    (hmem : attempt ∈ trace.attempts) :
    ∃ phase, next.renderer.phaseOf? attempt.installation attempt.caller = some phase := by
  rcases attempt_cases_of_turn hturn htrace hmem with
    ⟨earlier, hearlier, hold⟩ | ⟨time, before, after, events, -, -, hstride, hcheckout⟩
  · obtain ⟨phase, hphase⟩ := hseated.placed hearlier hold
    exact exists_phaseOf?_of_turn hturn hphase
  · obtain ⟨installation, -, -, -, -, -, hphase⟩ :=
      hstride.exists_installation_of_checkout hcheckout
    exact ⟨_, hphase⟩

/-- A caller that has just come is nobody else's. -/
theorem phaseOf?_of_checkout {renderer : Renderer World Environment} {job : Nat}
    {before after : Job Environment} {events : List Log.Event} {attempt : Attempt}
    (hstride : Renderer.Stride engine session.renderer job before after renderer events)
    (hcheckout : after.stage = .checkout attempt) :
    session.renderer.phaseOf? attempt.installation attempt.caller = none := by
  obtain ⟨installation, -, hinstallation, -, hcaller, -, -⟩ :=
    hstride.exists_installation_of_checkout hcheckout
  rw [Renderer.phaseOf?_of_installation hinstallation, hcaller]
  simp [Pool.Desk.phase?]

theorem apart_of_turn (hseated : session.Seated) (hturn : Turn engine session action next)
    {job otherJob : Nat} {trace otherTrace : Trace} {attempt other : Attempt}
    (htrace : next.traces[job]? = some trace)
    (hotherTrace : next.traces[otherJob]? = some otherTrace)
    (hmem : attempt ∈ trace.attempts) (hotherMem : other ∈ otherTrace.attempts)
    (hinstallation : attempt.installation = other.installation)
    (hcaller : attempt.caller = other.caller) : job = otherJob := by
  rcases attempt_cases_of_turn hturn htrace hmem with
    ⟨earlier, hearlier, hold⟩ | ⟨time, before, after, events, haction, -, hstride, hcheckout⟩
  · rcases attempt_cases_of_turn hturn hotherTrace hotherMem with
      ⟨otherEarlier, hotherEarlier, hotherOld⟩ |
        ⟨time, before, after, events, -, -, hstride, hcheckout⟩
    · exact hseated.apart hearlier hotherEarlier hold hotherOld hinstallation hcaller
    · obtain ⟨phase, hphase⟩ := hseated.placed hearlier hold
      rw [hinstallation, hcaller, phaseOf?_of_checkout hstride hcheckout] at hphase
      contradiction
  · rcases attempt_cases_of_turn hturn hotherTrace hotherMem with
      ⟨otherEarlier, hotherEarlier, hotherOld⟩ |
        ⟨otherTime, otherBefore, otherAfter, otherEvents, hotherAction, -⟩
    · obtain ⟨phase, hphase⟩ := hseated.placed hotherEarlier hotherOld
      rw [← hinstallation, ← hcaller, phaseOf?_of_checkout hstride hcheckout] at hphase
      contradiction
    · exact (Action.work.inj (haction.symm.trans hotherAction)).2

theorem length_traces_of_turn (hlength : session.traces.length = session.renderer.jobs.length)
    (hturn : Turn engine session action next) :
    next.traces.length = next.renderer.jobs.length := by
  cases hturn with
  | accept call => simp [Renderer.accept, hlength]
  | work hstep =>
      obtain ⟨before, after, -, hstride⟩ := Renderer.exists_stride_of_step hstep
      rw [List.length_modify, hstride.length_jobs, hlength]
  | _ => exact hlength

theorem current_of_turn (hseated : session.Seated) (hturn : Turn engine session action next)
    {job : Nat} {state : Job Environment} {attempt : Attempt}
    (hjob : next.renderer.jobs[job]? = some state)
    (hattempt : state.stage.attempt? = some attempt) :
    ∃ rest log, next.traces[job]? = some ⟨attempt :: rest, log⟩ := by
  cases hturn with
  | accept call =>
      rcases getElem?_append_cases hjob with hold | ⟨-, rfl⟩
      · obtain ⟨rest, log, htrace⟩ := hseated.current hold hattempt
        have hlt := (List.getElem?_eq_some_iff.1 htrace).1
        exact ⟨rest, log, (List.getElem?_append_left hlt).trans htrace⟩
      · contradiction
  | @work time worker renderer events hstep =>
      obtain ⟨before, after, hbefore, hstride⟩ := Renderer.exists_stride_of_step hstep
      by_cases hworker : worker = job
      · subst hworker
        obtain rfl := Option.some.inj ((hstride.job_eq hbefore).symm.trans hjob)
        have hlt := hseated.length_traces ▸ (List.getElem?_eq_some_iff.1 hbefore).1
        simp only [List.getElem?_modify_eq, hjob, Option.map_some]
        by_cases hcheckout : ∃ begun, after.stage = .checkout begun
        · obtain ⟨begun, hbegun⟩ := hcheckout
          rw [hbegun] at hattempt ⊢
          obtain rfl := Option.some.inj hattempt
          exact ⟨_, _, congrArg _ (List.getElem?_eq_getElem hlt)⟩
        · have hnone : ∀ begun, after.stage ≠ .checkout begun :=
            fun begun hbegun => hcheckout ⟨begun, hbegun⟩
          obtain ⟨rest, log, htrace⟩ :=
            hseated.current hbefore (hstride.attempt?_of_ne_checkout hnone hattempt)
          refine ⟨rest, log ++ events, ?_⟩
          rw [htrace, Option.map_eq_map, Option.map_some,
            Trace.add_of_ne fun begun => by simpa using hnone begun]
      · rw [hstride.job_of_ne hworker] at hjob
        obtain ⟨rest, log, htrace⟩ := hseated.current hjob hattempt
        exact ⟨rest, log, (List.getElem?_modify_ne _ _ hworker).trans htrace⟩
  | _ => exact hseated.current hjob hattempt

theorem seated_of_turn (hseated : session.Seated)
    (hturn : Turn engine session action next) : next.Seated where
  length_traces := length_traces_of_turn hseated.length_traces hturn
  current := current_of_turn hseated hturn
  placed := placed_of_turn hseated hturn
  apart := apart_of_turn hseated hturn

theorem seated_of_start {world : World} {setup : Setup} {sources : Sources}
    (hstart : start world setup sources = .ok session) : session.Seated := by
  obtain ⟨installation, -, rfl⟩ := start_eq_ok hstart
  exact ⟨rfl, by simp, by simp, by simp⟩

theorem seated_of_reachable (hreach : Reachable engine session) : session.Seated :=
  hreach.induction seated_of_start fun _ hturn hseated => seated_of_turn hseated hturn

/-- A call that has a trace already was there before, as the same call. -/
theorem exists_job_of_trace (hseated : session.Seated)
    (hturn : Turn engine session action next) {job : Nat} {state : Job Environment}
    {earlier : Trace} (hjob : next.renderer.jobs[job]? = some state)
    (hearlier : session.traces[job]? = some earlier) :
    ∃ before : Job Environment, session.renderer.jobs[job]? = some before ∧
      before.call = state.call := by
  rcases job_cases_of_turn hturn hjob with
    ⟨-, hsame⟩ | ⟨hlength, -⟩ | ⟨time, before, events, -, hbefore, hstride⟩
  · exact ⟨state, hsame, rfl⟩
  · have hlt := (List.getElem?_eq_some_iff.1 hearlier).1
    rw [hseated.length_traces] at hlt
    omega
  · exact ⟨before, hbefore, hstride.call_eq.symm⟩

/-- What a call has got from the desk is not touched by the turns of others. -/
theorem phaseOf?_of_seated (hseated : session.Seated)
    (hturn : Turn engine session action next) {job : Nat} {trace : Trace} {attempt : Attempt}
    {phase : Pool.Phase (ExecutionContext Environment)}
    (htrace : session.traces[job]? = some trace) (hmem : attempt ∈ trace.attempts)
    (hphase : session.renderer.phaseOf? attempt.installation attempt.caller = some phase)
    (hsettled : phase.IsSettled) (hother : ∀ time, action ≠ .work time job) :
    next.renderer.phaseOf? attempt.installation attempt.caller = some phase := by
  refine phaseOf?_of_turn hturn hphase hsettled ?_
  intro time worker state seat haction hworker hseat hinstallation
  refine .inl fun hcaller => ?_
  obtain ⟨rest, log, hworkerTrace⟩ := hseated.current hworker hseat
  obtain rfl := hseated.apart hworkerTrace htrace List.mem_cons_self hmem hinstallation hcaller
  exact hother time haction

/-- The trace of a call after a step of its own, with all that the step has logged. -/
theorem trace_of_work {time job : Nat} (hturn : Turn engine session (.work time job) next)
    {trace : Trace} (htrace : next.traces[job]? = some trace) :
    ∃ earlier events, session.traces[job]? = some earlier ∧
      session.renderer.step engine time job = some (next.renderer, events) ∧
      trace = earlier.add ((next.renderer.jobs[job]?).map Job.stage) events := by
  cases hturn with
  | @work _ _ renderer events hstep =>
      rw [List.getElem?_modify_eq] at htrace
      obtain ⟨earlier, hearlier, rfl⟩ := Option.map_eq_some_iff.1 htrace
      exact ⟨earlier, events, hearlier, hstep, rfl⟩

end ServerRender.Session
