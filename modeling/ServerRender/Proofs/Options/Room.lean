import ServerRender.Proofs.Options.Decoding
import ServerRender.Proofs.Renderer.Replacement

/-!
# Options with room

A pool needs room for one context.  Not every reader of options looks at that: a configuration
is decoded with a pool of any size, and the builder calls take any number.  But nothing is ever
set up with a pool of no size, since pools and installations are made of options that are
valid, and a pool keeps its size for good.
-/

namespace ServerRender

namespace PoolOptions

variable {json : Json} {options : PoolOptions}

theorem validate_eq_ok_iff : options.validate = .ok () ↔ options.size ≠ 0 := by
  simp [validate, isValid]

theorem validate_of_size_eq (hsize : options.size = 0) :
    options.validate = .error (.invalidConfig .emptyPool) := by
  simp [validate, isValid, hsize]

/-- A value is accepted exactly if it is read as options with room. -/
theorem ofJson_eq_ok_iff :
    ofJson json = .ok options ↔ IsReadAs json options ∧ options.size ≠ 0 := by
  rw [← decode_eq_ok_iff, ofJson]
  cases hdecode : decode json with
  | error error => simp [throw, throwThe, MonadExceptOf.throw]
  | ok decoded =>
    by_cases hsize : decoded.size = 0
    · simp only [validate_of_size_eq hsize, bind, Except.bind, reduceCtorEq, false_iff, not_and]
      intro hsame
      rw [← Except.ok.inj hsame]
      exact not_not_intro hsize
    · simp only [validate_eq_ok_iff.mpr hsize, bind, Except.bind, pure, Except.pure]
      constructor
      · intro hsame
        obtain rfl := Except.ok.inj hsame
        exact ⟨rfl, hsize⟩
      · rintro ⟨hsame, -⟩
        rw [Except.ok.inj hsame]

end PoolOptions

theorem toNat_ne_zero {word : UInt64} (hword : word ≠ 0) : word.toNat ≠ 0 :=
  fun hzero => hword (UInt64.toNat_inj.mp hzero)

/-- A pool is made exactly of options with room. -/
theorem Pool.Desk.ofOptions_eq_ok_iff {Context : Type} {options : PoolOptions}
    {desk : Pool.Desk Context} :
    Pool.Desk.ofOptions options = .ok desk ↔
      options.size ≠ 0 ∧ desk = .create options.size.toNat := by
  by_cases hsize : options.size = 0
  · simp [ofOptions, PoolOptions.validate_of_size_eq hsize, hsize, bind, Except.bind]
  · simp [ofOptions, PoolOptions.validate_eq_ok_iff.mpr hsize, hsize, bind, Except.bind, pure,
      Except.pure, eq_comm]

/-- A pool keeps its size. -/
theorem Pool.Desk.size_of_turns {Context : Type} {idOf : Context → Nat} {size : Nat}
    {desk : Pool.Desk Context}
    (hturns : Relation.ReflTransGen (Pool.Desk.Turn idOf) (.create size) desk) :
    desk.pool.size = size :=
  (Pool.Desk.balanced_of_reachable hturns).1

variable {World Environment : Type} {engine : Engine World Environment}

namespace Installation

variable {setup : Setup} {sources : Sources} {installation : Installation Environment}

/-- A setup is accepted exactly if its wrapper is a template and its pool has room. -/
theorem exists_build_iff :
    (∃ installation : Installation Environment, build setup sources = .ok installation) ↔
      (∃ template, Template.parse setup.wrapper = .ok template) ∧ setup.config.pool.size ≠ 0 := by
  unfold build
  cases Template.parse setup.wrapper with
  | error problem => simp [Except.mapError, bind, Except.bind]
  | ok template =>
    by_cases hsize : setup.config.pool.size = 0
    · simp [PoolOptions.validate_of_size_eq hsize, hsize, Except.mapError, bind, Except.bind]
    · simp [PoolOptions.validate_eq_ok_iff.mpr hsize, hsize, Except.mapError, bind, Except.bind,
        pure, Except.pure]

/-- The pool of an installation is made of the options that were looked at before. -/
theorem ofOptions_of_build (hbuild : build setup sources = .ok installation) :
    Pool.Desk.ofOptions setup.config.pool = .ok installation.desk := by
  have hsize := (exists_build_iff.mp ⟨installation, hbuild⟩).2
  rw [Pool.Desk.ofOptions_eq_ok_iff]
  refine ⟨hsize, ?_⟩
  unfold build at hbuild
  cases htemplate : Template.parse setup.wrapper with
  | error problem => simp [htemplate, Except.mapError, bind, Except.bind] at hbuild
  | ok template =>
    simp only [htemplate, Except.mapError, PoolOptions.validate_eq_ok_iff.mpr hsize, bind,
      Except.bind, pure, Except.pure, Except.ok.injEq] at hbuild
    rw [← hbuild]

end Installation

namespace Session

variable {session next : Session World Environment} {action : Action World Environment}

/-- Every installation has come about from one that was built, and those that are still to be
put in place were built as well. -/
structure Founded (session : Session World Environment) : Prop where
  installed : ∀ (place : Nat) (installation : Installation Environment),
    session.renderer.installations[place]? = some installation →
    ∃ setup sources fresh, Installation.build setup sources = .ok fresh ∧
      fresh.Evolves installation
  built : ∀ (index : Nat) (fresh : Installation Environment) (archive : Archive),
    session.renewals[index]? = some (.built fresh archive) →
    ∃ setup sources, Installation.build setup sources = .ok fresh

theorem founded_of_turn (hattended : session.Attended) (hfounded : session.Founded)
    (hturn : Turn engine session action next) : next.Founded where
  installed := by
    intro place installation hinstallation
    have hkept : place < session.renderer.installations.length →
        ∃ setup sources fresh, Installation.build setup sources = .ok fresh ∧
          fresh.Evolves installation := by
      intro hlt
      have hbefore := List.getElem?_eq_getElem hlt
      obtain ⟨later, hlater, hevolves⟩ := carries_of_turn hattended hturn place _ hbefore
      obtain rfl := Option.some.inj (hlater.symm.trans hinstallation)
      obtain ⟨setup, sources, fresh, hbuild, hfresh⟩ := hfounded.installed place _ hbefore
      exact ⟨setup, sources, fresh, hbuild, hfresh.trans hevolves⟩
    rcases installations_cases_of_turn hturn with
      hlength | ⟨index, fresh, archive, hrenewal, hinstall⟩
    · exact hkept (hlength ▸ (List.getElem?_eq_some_iff.mp hinstallation).1)
    · rw [hinstall] at hinstallation
      rcases getElem?_append_cases hinstallation with hold | ⟨-, rfl⟩
      · apply hkept
        simpa [Renderer.shutdown, Renderer.updateCurrent] using
          (List.getElem?_eq_some_iff.mp hold).1
      · obtain ⟨setup, sources, hbuild⟩ := hfounded.built index fresh archive hrenewal
        exact ⟨setup, sources, fresh, hbuild, .refl fresh⟩
  built := by
    intro index fresh archive hrenewal
    cases hturn with
    | order setup =>
      rcases getElem?_append_cases hrenewal with hold | ⟨-, hnew⟩
      · exact hfounded.built index fresh archive hold
      · contradiction
    | build hordered hbuild =>
      rcases getElem?_set_cases hrenewal with ⟨-, hnew⟩ | ⟨-, hold⟩
      · obtain ⟨rfl, rfl⟩ := Renewal.built.inj hnew
        exact ⟨_, _, hbuild⟩
      · exact hfounded.built index fresh archive hold
    | reject hordered hbuild =>
      rcases getElem?_set_cases hrenewal with ⟨-, hnew⟩ | ⟨-, hold⟩
      · contradiction
      · exact hfounded.built index fresh archive hold
    | install hbuilt =>
      rcases getElem?_set_cases hrenewal with ⟨-, hnew⟩ | ⟨-, hold⟩
      · contradiction
      · exact hfounded.built index fresh archive hold
    | _ => exact hfounded.built index fresh archive hrenewal

theorem founded_of_reachable (hreach : Reachable engine session) : session.Founded := by
  refine hreach.induction (motive := Founded) ?_ ?_
  · intro world setup sources first hstart
    obtain ⟨installation, hbuild, rfl⟩ := start_eq_ok hstart
    refine ⟨fun place found hfound => ?_, by simp⟩
    obtain rfl := List.mem_singleton.mp (List.mem_of_getElem? hfound)
    exact ⟨setup, sources, _, hbuild, .refl _⟩
  · intro session action next hreach hturn hfounded
    exact founded_of_turn (attended_of_reachable hreach) hfounded hturn

/-- The pool of every installation has the size that its setup asked for, and this is not
zero. -/
theorem exists_size_of_reachable (hreach : Reachable engine session) {place : Nat}
    {installation : Installation Environment}
    (hinstallation : session.renderer.installations[place]? = some installation) :
    ∃ setup : Setup, setup.config.pool.size ≠ 0 ∧
      installation.desk.pool.size = setup.config.pool.size.toNat := by
  obtain ⟨setup, sources, fresh, hbuild, hevolves⟩ :=
    (founded_of_reachable hreach).installed place installation hinstallation
  obtain ⟨hsize, hdesk⟩ :=
    Pool.Desk.ofOptions_eq_ok_iff.mp (Installation.ofOptions_of_build hbuild)
  exact ⟨setup, hsize, Pool.Desk.size_of_turns (hdesk ▸ hevolves.turned)⟩

end Session

/-- Options are accepted exactly if they are valid, whichever way they come.  Pool options in
JSON are those that the value is read as, if they have room.  A configuration in JSON is what
the value is read as, with or without room.  A pool is made and a setup is accepted only with
room, however the options came about, so that every pool that there is has room at any time,
and so has every pool of every renderer. -/
theorem accepted_exactly_when_valid (engine : Engine World Environment) :
    (∀ (json : Json) (options : PoolOptions),
      PoolOptions.ofJson json = .ok options ↔
        PoolOptions.IsReadAs json options ∧ options.size ≠ 0) ∧
    (∀ (json : Json) (config : RendererConfig),
      RendererConfig.decode json = .ok config ↔ RendererConfig.IsReadAs json config) ∧
    (∀ (options : PoolOptions) (desk : Pool.Desk (ExecutionContext Environment)),
      (Pool.Desk.ofOptions options = .ok desk ↔
        options.size ≠ 0 ∧ desk = .create options.size.toNat) ∧
      (Pool.Desk.ofOptions options = .ok desk → ∀ later,
        Relation.ReflTransGen (Pool.Desk.Turn ExecutionContext.id) desk later →
        later.pool.size = options.size.toNat ∧ later.pool.size ≠ 0)) ∧
    (∀ (setup : Setup) (sources : Sources),
      (∃ installation : Installation Environment,
        Installation.build setup sources = .ok installation) ↔
      (∃ template, Template.parse setup.wrapper = .ok template) ∧ setup.config.pool.size ≠ 0) ∧
    ∀ session : Session World Environment, Session.Reachable engine session →
      ∀ installation ∈ session.renderer.installations, installation.desk.pool.size ≠ 0 := by
  refine ⟨fun _ _ => PoolOptions.ofJson_eq_ok_iff, fun _ _ => RendererConfig.decode_eq_ok_iff,
    fun options desk => ⟨Pool.Desk.ofOptions_eq_ok_iff, ?_⟩,
    fun _ _ => Installation.exists_build_iff, ?_⟩
  · intro hmade later hturns
    obtain ⟨hsize, rfl⟩ := Pool.Desk.ofOptions_eq_ok_iff.mp hmade
    rw [Pool.Desk.size_of_turns hturns]
    exact ⟨rfl, toNat_ne_zero hsize⟩
  · intro session hreach installation hmem
    obtain ⟨place, hplace⟩ := List.mem_iff_getElem?.mp hmem
    obtain ⟨setup, hsize, hroom⟩ := Session.exists_size_of_reachable hreach hplace
    rw [hroom]
    exact toNat_ne_zero hsize

/-- A size alone, the renderer that comes of no options at all, and its pool. -/
theorem accepted_of_size_alone :
    PoolOptions.ofJson (.object [("size", .ofInt 3)]) = .ok ⟨3, 20⟩ ∧
    (∃ desk : Pool.Desk (ExecutionContext String), Pool.Desk.ofOptions ⟨3, 20⟩ = .ok desk ∧
      desk.pool.size = 3 ∧ desk.pool.size ≠ 0) ∧
    (Session.plainInstallation Table.empty : Installation String).desk.pool.size ≠ 0 := by
  obtain ⟨hjson, -, hpool, -, hsession⟩ := accepted_exactly_when_valid Session.echoEngine
  refine ⟨?_, ?_, ?_⟩
  · refine (hjson _ _).mpr ⟨⟨_, .object _, ?_, rfl, rfl⟩, by decide⟩
    intro member hmember
    obtain rfl := List.mem_singleton.mp hmember
    exact .inl ⟨rfl, 3, rfl⟩
  · obtain ⟨hmade, hkeeps⟩ := hpool ⟨3, 20⟩ (.create 3)
    have hmade := hmade.mpr ⟨by decide, rfl⟩
    exact ⟨.create 3, hmade, hkeeps hmade _ .refl⟩
  · exact hsession (Session.plainSession () Table.empty)
      ⟨(), Session.plainSetup, Table.empty, _, Session.start_plainSetup () Table.empty, .refl⟩ _
      List.mem_cons_self

end ServerRender
