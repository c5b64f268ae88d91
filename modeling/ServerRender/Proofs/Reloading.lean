import Mathlib.Data.List.Induction
import ServerRender.Proofs.LoadRecord

/-!
# When a bundle is loaded again

A context decides from its record whether a bundle has to be loaded, and the record is
edited at several places: a load drops what is stale and notes what is new, and a call
that finds the engine lost drops everything.  The main statement says what the record
stands for, in terms of nothing but the calls so far and how they ended: a bundle is
loaded exactly when no earlier success for it still stands.
-/

namespace ServerRender

variable {World Environment : Type}

/-- A load asks for a fresh environment first, and for nothing else than that and the
source of the bundle. -/
theorem EngineScopes.requests_load (engine : Engine World Environment)
    (scopes : EngineScopes Environment) (world : World) (requests : List Request)
    (bundle : CodeBundle) :
    ∃ more, (scopes.load engine.listing (world, requests) bundle).1.2 =
        requests ++ .create :: more ∧ (more = [] ∨ more = [.load bundle.source]) := by
  cases hcreate : engine.create world with
  | mk created verdict =>
      cases verdict with
      | value fresh => exact ⟨[.load bundle.source], by simp [load, Engine.listing, hcreate]⟩
      | failure error => exact ⟨[], by simp [load, Engine.listing, hcreate]⟩
      | panic => exact ⟨[], by simp [load, Engine.listing, hcreate]⟩

namespace ExecutionContext

variable {engine : Engine World Environment} {context : ExecutionContext Environment}

def asked (engine : Engine World Environment) (context : ExecutionContext Environment)
    (world : World) (bundle : CodeBundle) : List Request :=
  (context.ensureLoaded engine.listing (world, []) bundle).1.2

theorem asked_of_current {bundle : CodeBundle} (world : World)
    (hcurrent : context.generation? bundle.component = some bundle.generation) :
    context.asked engine world bundle = [] := by
  rw [asked, ensureLoaded_of_current (world, []) hcurrent]

theorem asked_of_stale {bundle : CodeBundle} (world : World)
    (hstale : context.generation? bundle.component ≠ some bundle.generation) :
    context.asked engine world bundle = [.create] ∨
      context.asked engine world bundle = [.create, .load bundle.source] := by
  obtain ⟨more, hrequests, hmore⟩ :=
    EngineScopes.requests_load engine context.thread.scopes world [] bundle
  have hasked : context.asked engine world bundle = .create :: more := by
    simpa [asked, ensureLoaded, hstale, EngineThread.load, EngineThread.run] using hrequests
  rw [hasked]
  exact hmore.imp (congrArg _) (congrArg _)

theorem create_mem_asked_iff {world : World} {bundle : CodeBundle} :
    .create ∈ context.asked engine world bundle ↔
      context.generation? bundle.component ≠ some bundle.generation := by
  by_cases hcurrent : context.generation? bundle.component = some bundle.generation
  · simp [asked_of_current world hcurrent, hcurrent]
  · have hasked : context.asked engine world bundle = [.create] ∨
        context.asked engine world bundle = [.create, .load bundle.source] :=
      asked_of_stale world hcurrent
    rcases hasked with hasked | hasked <;> simp [hasked, hcurrent]

/-! ## Histories -/

def ContextCall.component : ContextCall → String
  | ensureLoaded bundle => bundle.component
  | evaluate component _ => component

def history (engine : Engine World Environment) :
    ExecutionContext Environment → List (World × ContextCall) →
      List (ContextCall × Except EngineError Unit)
  | _, [] => []
  | context, (world, call) :: rest =>
    let reply := context.perform engine world call
    (call, reply.outcome) :: history engine reply.after rest

theorem afterCalls_concat (calls : List (World × ContextCall)) (world : World)
    (call : ContextCall) :
    context.afterCalls engine (calls ++ [(world, call)]) =
      ((context.afterCalls engine calls).perform engine world call).after := by
  simp [afterCalls]

theorem history_concat (calls : List (World × ContextCall)) (world : World)
    (call : ContextCall) :
    context.history engine (calls ++ [(world, call)]) =
      context.history engine calls ++
        [(call, ((context.afterCalls engine calls).perform engine world call).outcome)] := by
  induction calls generalizing context with
  | nil => rfl
  | cons first rest ih =>
      simp only [List.cons_append, history, ih]
      rfl

/-- The call was to have this generation of the component loaded, and succeeded. -/
def Ensures (component : String) (generation : Nat)
    (entry : ContextCall × Except EngineError Unit) : Prop :=
  ∃ source, entry = (.ensureLoaded ⟨component, source, generation⟩, .ok ())

/-- The call was to have another generation of the component loaded, successful or not,
or it found the engine lost. -/
def Voids (component : String) (generation : Nat)
    (entry : ContextCall × Except EngineError Unit) : Prop :=
  (∃ bundle, entry.1 = .ensureLoaded bundle ∧ bundle.component = component ∧
    bundle.generation ≠ generation) ∨
  ∃ error, entry.2 = .error error ∧ error.isUnavailable = true

/-- Some call has had the generation loaded, and no later one has undone that. -/
def Stands (entries : List (ContextCall × Except EngineError Unit)) (component : String)
    (generation : Nat) : Prop :=
  ∃ earlier entry later, entries = earlier ++ entry :: later ∧
    Ensures component generation entry ∧ ∀ other ∈ later, ¬ Voids component generation other

section Stands

variable {entries : List (ContextCall × Except EngineError Unit)}
variable {entry : ContextCall × Except EngineError Unit}
variable {component : String} {generation : Nat}

theorem not_stands_nil : ¬ Stands [] component generation := by
  rintro ⟨earlier, entry, later, hsplit, -⟩
  simp at hsplit

/-- Only the last call can add to what stands, or take from it. -/
theorem stands_concat :
    Stands (entries ++ [entry]) component generation ↔
      Ensures component generation entry ∨
        (Stands entries component generation ∧ ¬ Voids component generation entry) := by
  constructor
  · rintro ⟨earlier, found, later, hsplit, hensures, hlater⟩
    rcases List.eq_nil_or_concat later with rfl | ⟨before, last, rfl⟩
    · have hlast : entry = found := (List.append_inj' hsplit rfl).2 |> List.singleton_inj.mp
      exact .inl (hlast ▸ hensures)
    · rw [List.concat_eq_append] at hsplit hlater
      rw [← List.cons_append, ← List.append_assoc] at hsplit
      have hlast := List.singleton_inj.mp (List.append_inj' hsplit rfl).2
      refine .inr ⟨⟨earlier, found, before, (List.append_inj' hsplit rfl).1, hensures,
        fun other hother => hlater other (List.mem_append_left _ hother)⟩, ?_⟩
      rw [hlast]
      exact hlater last (by simp)
  · rintro (hensures | ⟨⟨earlier, found, later, rfl, hensures, hlater⟩, hvoids⟩)
    · exact ⟨entries, entry, [], rfl, hensures, by simp⟩
    · refine ⟨earlier, found, later ++ [entry], by simp, hensures, fun other hother => ?_⟩
      rcases List.mem_append.mp hother with hearlier | hlast
      · exact hlater other hearlier
      · rw [List.mem_singleton.mp hlast]
        exact hvoids

end Stands

section Record

variable {world : World} {component : String} {generation : Nat}

/-- An answer that does not tell of a lost engine leaves on record what is noted neither
as stale nor as new. -/
theorem generation?_conclude {α β : Type} {wrap : α → β}
    {record : ExecutionContext Environment → ExecutionContext Environment}
    {reply : Reply (EngineThread Environment) (Except EngineError α)}
    (havailable : ∀ error, reply.outcome = .error error → error.isUnavailable = false)
    (hrecord : ∀ later : ExecutionContext Environment,
      (record later).generation? component = later.generation? component) :
    (context.conclude record wrap reply).after.generation? component =
      context.generation? component := by
  cases houtcome : reply.outcome with
  | ok value =>
      rw [conclude_of_ok houtcome, hrecord]
      rfl
  | error error =>
      rw [after_conclude_of_available houtcome (havailable error houtcome)]
      rfl

/-- Only a load of the component changes its record, unless the engine is lost. -/
theorem generation?_perform_of_ne {call : ContextCall}
    (hother : ∀ bundle, call = .ensureLoaded bundle → bundle.component ≠ component)
    (havailable : ∀ error, (context.perform engine world call).outcome = .error error →
      error.isUnavailable = false) :
    (context.perform engine world call).after.generation? component =
      context.generation? component := by
  cases call with
  | evaluate name script =>
      simp only [perform, Reply.map, evaluate, outcome_conclude] at havailable ⊢
      exact generation?_conclude
        (fun error herror => havailable error (by rw [herror]; rfl)) fun _ => rfl
  | ensureLoaded bundle =>
      by_cases hcurrent : context.generation? bundle.component = some bundle.generation
      · simp only [perform, ensureLoaded_of_current world hcurrent, Reply.map]
      simp only [perform, Reply.map, ensureLoaded, hcurrent, if_false, outcome_conclude]
        at havailable ⊢
      have hne := hother bundle rfl
      rw [generation?_conclude (fun error herror => havailable error (by rw [herror]; rfl))
        fun later => by simp [generation?, Table.get?_insert, hne]]
      simp [generation?, Table.get?_erase, hne]

/-- A load that fails leaves nothing on record for its component. -/
theorem generation?_ensureLoaded_of_error {bundle : CodeBundle} {error : EngineError}
    (herror : (context.ensureLoaded engine world bundle).2.outcome = .error error) :
    (context.ensureLoaded engine world bundle).2.after.generation? bundle.component = none := by
  by_cases hcurrent : context.generation? bundle.component = some bundle.generation
  · rw [ensureLoaded_of_current world hcurrent] at herror
    contradiction
  simp only [ensureLoaded, hcurrent, if_false, outcome_conclude] at herror ⊢
  have hreply := error_of_map herror
  cases hlost : error.isUnavailable with
  | true =>
      rw [generation?, loaded_conclude_of_unavailable hreply hlost]
      rfl
  | false =>
      rw [after_conclude_of_available hreply hlost]
      simp [generation?, Table.get?_erase]

theorem outcome_perform_ensureLoaded (bundle : CodeBundle) :
    (context.perform engine world (.ensureLoaded bundle)).outcome =
      (context.ensureLoaded engine world bundle).2.outcome.map fun _ => () := rfl

theorem ensures_ensureLoaded_iff {bundle : CodeBundle} {outcome : Except EngineError Unit} :
    Ensures component generation (.ensureLoaded bundle, outcome) ↔
      bundle.component = component ∧ bundle.generation = generation ∧ outcome = .ok () := by
  constructor
  · rintro ⟨source, hentry⟩
    obtain ⟨hcall, houtcome⟩ := Prod.ext_iff.mp hentry
    obtain rfl := ContextCall.ensureLoaded.inj hcall
    exact ⟨rfl, rfl, houtcome⟩
  · rintro ⟨rfl, rfl, rfl⟩
    exact ⟨bundle.source, rfl⟩

/-- A load of the component leaves its own generation on record, or nothing. -/
theorem generation?_perform_ensureLoaded_iff (bundle : CodeBundle) :
    (context.perform engine world (.ensureLoaded bundle)).after.generation? bundle.component =
        some generation ↔
      bundle.generation = generation ∧
        (context.perform engine world (.ensureLoaded bundle)).outcome = .ok () := by
  rw [outcome_perform_ensureLoaded]
  cases houtcome : (context.ensureLoaded engine world bundle).2.outcome with
  | ok now =>
      have hnoted := generation?_ensureLoaded houtcome
      simp only [perform, Reply.map, hnoted]
      simp [Except.map]
  | error error =>
      have hnothing := generation?_ensureLoaded_of_error houtcome
      simp only [perform, Reply.map, hnothing]
      simp [Except.map]

/-- What a call leaves on record is what it has loaded itself, or what was there and is
not void after it. -/
theorem generation?_perform_iff (call : ContextCall) :
    (context.perform engine world call).after.generation? component = some generation ↔
      Ensures component generation (call, (context.perform engine world call).outcome) ∨
        (context.generation? component = some generation ∧
          ¬ Voids component generation (call, (context.perform engine world call).outcome)) := by
  by_cases hload : ∃ bundle, call = .ensureLoaded bundle ∧ bundle.component = component
  · obtain ⟨bundle, rfl, rfl⟩ := hload
    rw [generation?_perform_ensureLoaded_iff, ensures_ensureLoaded_iff]
    simp only [true_and, iff_self_or]
    rintro ⟨hrecorded, hvoids⟩
    have hgeneration : bundle.generation = generation :=
      Decidable.byContradiction fun hne => hvoids (.inl ⟨bundle, rfl, rfl, hne⟩)
    refine ⟨hgeneration, ?_⟩
    rw [outcome_perform_ensureLoaded, ensureLoaded_of_current world (hgeneration ▸ hrecorded)]
    rfl
  have hother : ∀ bundle, call = .ensureLoaded bundle → bundle.component ≠ component :=
    fun bundle hcall hcomponent => hload ⟨bundle, hcall, hcomponent⟩
  have hensures : ¬ Ensures component generation
      (call, (context.perform engine world call).outcome) := by
    rintro ⟨source, hentry⟩
    exact hother _ (Prod.ext_iff.mp hentry).1 rfl
  by_cases hlost : ∃ error, (context.perform engine world call).outcome = .error error ∧
      error.isUnavailable = true
  · have hvoids : Voids component generation
        (call, (context.perform engine world call).outcome) := .inr hlost
    obtain ⟨error, herror, hunavailable⟩ := hlost
    rw [generation?, loaded_perform_of_unavailable herror hunavailable]
    simp [hvoids, hensures]
  · have hvoids : ¬ Voids component generation
        (call, (context.perform engine world call).outcome) := by
      rintro (⟨bundle, hcall, hcomponent, -⟩ | herror)
      · exact hother bundle hcall hcomponent
      · exact hlost herror
    have havailable : ∀ error, (context.perform engine world call).outcome = .error error →
        error.isUnavailable = false :=
      fun error herror => Bool.eq_false_iff.mpr fun hunavailable =>
        hlost ⟨error, herror, hunavailable⟩
    rw [generation?_perform_of_ne hother havailable]
    simp [hvoids, hensures]

/-- What is on record after a sequence of calls is what still stands of it. -/
theorem generation?_afterCalls_iff (number : Nat) (calls : List (World × ContextCall)) :
    ((create number).afterCalls engine calls).generation? component = some generation ↔
      Stands ((create number).history engine calls) component generation := by
  induction calls using List.reverseRecOn with
  | nil =>
      have hnothing : ((create number).afterCalls engine []).generation? component = none := rfl
      simp [hnothing, history, not_stands_nil]
  | append_singleton calls last ih =>
      rw [afterCalls_concat, history_concat, stands_concat, generation?_perform_iff, ih]

end Record

/-- A context asks its thread for a new environment to load a bundle into exactly when
no earlier success of the same component and generation still stands.  Otherwise it
answers at once, and the engine is asked for nothing.  A failure of one component that
leaves the engine in place never has another one loaded again. -/
theorem loads_exactly_when_needed (engine : Engine World Environment) (number : Nat)
    (calls : List (World × ContextCall)) (world : World) (bundle : CodeBundle) :
    let context := (create number).afterCalls engine calls
    let history := (create number).history engine calls
    (.create ∈ context.asked engine world bundle ↔
      ¬ Stands history bundle.component bundle.generation) ∧
    (Stands history bundle.component bundle.generation →
      context.asked engine world bundle = [] ∧
      context.ensureLoaded engine world bundle = (world, ⟨[], context, [], .ok false⟩)) ∧
    ∀ between call error, (context.perform engine between call).outcome = .error error →
      error.isUnavailable = false → call.component ≠ bundle.component →
      (.create ∈ (context.perform engine between call).after.asked engine world bundle ↔
        .create ∈ context.asked engine world bundle) := by
  intro context history
  have hrecorded : ∀ component generation, context.generation? component = some generation ↔
      Stands history component generation :=
    fun component generation => generation?_afterCalls_iff number calls
  refine ⟨?_, fun hstands => ?_, fun between call error herror havailable hother => ?_⟩
  · rw [create_mem_asked_iff, Ne, hrecorded]
  · have hcurrent := (hrecorded _ _).mpr hstands
    exact ⟨asked_of_current world hcurrent, ensureLoaded_of_current world hcurrent⟩
  · have hload : ∀ loaded, call = .ensureLoaded loaded →
        loaded.component ≠ bundle.component := by
      rintro loaded rfl
      exact hother
    have hkept : ∀ failure, (context.perform engine between call).outcome = .error failure →
        failure.isUnavailable = false := by
      intro failure hfailure
      rw [← Except.error.inj (herror.symm.trans hfailure)]
      exact havailable
    rw [create_mem_asked_iff, create_mem_asked_iff, generation?_perform_of_ne hload hkept]

/-- What was loaded still stands when another component is loaded, and no longer once that
one has panicked. -/
theorem loads_again_after_panic :
    Stands
      ((create 0).history sourceEngine
        [((), .ensureLoaded ⟨"A", "a", 1⟩), ((), .evaluate "A" "1"),
          ((), .ensureLoaded ⟨"B", "b", 2⟩)]) "A" 1 ∧
    ¬ Stands
      ((create 0).history sourceEngine
        [((), .ensureLoaded ⟨"A", "a", 1⟩), ((), .evaluate "A" "1"),
          ((), .ensureLoaded ⟨"B", "b", 2⟩), ((), .evaluate "B" "panic")]) "A" 1 := by
  constructor
  · have hquiet := (loads_exactly_when_needed sourceEngine 0
      [((), .ensureLoaded ⟨"A", "a", 1⟩), ((), .evaluate "A" "1"),
        ((), .ensureLoaded ⟨"B", "b", 2⟩)] () ⟨"A", "a", 1⟩).1.mpr
    exact Classical.not_not.mp fun hvoid => List.not_mem_nil (hquiet hvoid)
  · have hloads := (loads_exactly_when_needed sourceEngine 0
      [((), .ensureLoaded ⟨"A", "a", 1⟩), ((), .evaluate "A" "1"),
        ((), .ensureLoaded ⟨"B", "b", 2⟩), ((), .evaluate "B" "panic")] () ⟨"A", "a", 1⟩).1.mp
    exact hloads List.mem_cons_self

end ExecutionContext

end ServerRender
