import Mathlib.Data.List.Nodup
import Mathlib.Logic.Function.Iterate
import Mathlib.Logic.Relation
import ServerRender.EngineThread
import ServerRender.Proofs.Places

/-!
# Callers of an engine thread

Any number of callers share a thread.  A caller puts its job into the queue of the
thread and waits at a channel that only this job can write to.  The thread takes one
job after the other.  A job that comes to an end writes its value to its channel; when
it panics, the channel is closed first, and the environments are dropped only after
that.  In between the caller has its answer already while the thread still holds what
the panic has left.

An invariant ties the callers, the queue and the thread together: the jobs begun so far
are those that were sent first, and each of them found the scopes that the jobs before
it leave when they are run one after the other.
-/

namespace ServerRender

namespace Exchange

/-- What a caller wants done with the scopes.  The world is that of the moment at which
the job begins. -/
abbrev Job (World Environment α : Type) :=
  World → EngineScopes Environment → World × Reply (EngineScopes Environment) (Verdict α)

structure Parcel (World Environment α : Type) where
  caller : Nat
  job : Job World Environment α

structure Run (World Environment α : Type) where
  parcel : Parcel World Environment α
  world : World
  scopes : EngineScopes Environment

inductive Message (α : Type) where
  | value (answer : Except EngineError α)
  /-- The only writer is gone. -/
  | closed

inductive Stage (α : Type) where
  /-- Has not sent its job yet. -/
  | ready
  /-- Waits at its channel. -/
  | waiting (message : Option (Message α))
  | answered (answer : Except EngineError α)

structure Caller (World Environment α : Type) where
  job : Job World Environment α
  stage : Stage α

inductive Worker (World Environment α : Type) where
  | idle
  | running (run : Run World Environment α)
  /-- The channel of the job has been written or closed.  After a panic the
  environments are still there. -/
  | leaving (run : Run World Environment α)

variable {World Environment α : Type}

def Run.reply (run : Run World Environment α) :
    Reply (EngineScopes Environment) (Verdict α) :=
  (run.parcel.job run.world run.scopes).2

def Message.ofVerdict : Verdict α → Message α
  | .value result => .value (.ok result)
  | .failure error => .value (.error error)
  | .panic => .closed

def Message.answer : Message α → Except EngineError α
  | .value answer => answer
  | .closed => .error (.unavailable "engine job aborted")

theorem Message.answer_ofVerdict (verdict : Verdict α) :
    (ofVerdict verdict).answer = EngineThread.answerOf verdict := by
  cases verdict <;> rfl

def Worker.current : Worker World Environment α → List (Run World Environment α)
  | idle => []
  | running run => [run]
  | leaving run => [run]

/-- The job whose caller can be answered while the thread is busy with it. -/
def Worker.told : Worker World Environment α → List (Run World Environment α)
  | leaving run => [run]
  | _ => []

/-- What a thread is while it is busy: a job that is over has left its scopes there. -/
def Worker.leaves (thread : EngineThread Environment) :
    Worker World Environment α → EngineThread Environment
  | leaving run => { thread with scopes := run.reply.after }
  | _ => thread

/-- The turns that the thread needs until it is idle. -/
def Worker.due : Worker World Environment α → Nat
  | idle => 0
  | running _ => 2
  | leaving _ => 1

end Exchange

open Exchange in
/-- A thread, those who call it and what is under way between them. -/
structure Exchange (World Environment α : Type) where
  world : World
  thread : EngineThread Environment
  queue : List (Parcel World Environment α)
  worker : Worker World Environment α
  callers : List (Caller World Environment α)
  /-- All that was sent, in this order. -/
  sent : List (Parcel World Environment α)
  /-- The jobs that the thread is done with. -/
  ended : List (Run World Environment α)

namespace Exchange

variable {World Environment α : Type}

def start (number : Nat) (world : World) : Exchange World Environment α :=
  ⟨world, EngineThread.spawn number, [], .idle, [], [], []⟩

variable {exchange next later : Exchange World Environment α} {number : Nat}

def runs (exchange : Exchange World Environment α) : List (Run World Environment α) :=
  exchange.ended ++ exchange.worker.current

def told (exchange : Exchange World Environment α) : List (Run World Environment α) :=
  exchange.ended ++ exchange.worker.told

/-! ## The turns of the thread -/

def take (exchange : Exchange World Environment α) (parcel : Parcel World Environment α)
    (rest : List (Parcel World Environment α)) : Exchange World Environment α :=
  { exchange with
    world := (parcel.job exchange.world exchange.thread.scopes).1
    queue := rest
    worker := .running ⟨parcel, exchange.world, exchange.thread.scopes⟩ }

def tell (exchange : Exchange World Environment α) (run : Run World Environment α) :
    Exchange World Environment α :=
  { exchange with
    thread := { exchange.thread with scopes := run.reply.after }
    worker := .leaving run
    callers := exchange.callers.modify run.parcel.caller fun caller =>
      { caller with stage := .waiting (some (.ofVerdict run.reply.outcome)) } }

def settle (exchange : Exchange World Environment α) (run : Run World Environment α) :
    Exchange World Environment α :=
  { exchange with
    thread := { exchange.thread with
      scopes := EngineThread.scopesAfter run.reply.outcome exchange.thread.scopes }
    worker := .idle
    ended := exchange.ended ++ [run] }

def work (exchange : Exchange World Environment α) : Exchange World Environment α :=
  match exchange.worker with
  | .running run => exchange.tell run
  | .leaving run => exchange.settle run
  | .idle =>
    match exchange.queue with
    | parcel :: rest => exchange.take parcel rest
    | [] => exchange

theorem work_cases (exchange : Exchange World Environment α) :
    (exchange.worker = .idle ∧ exchange.queue = [] ∧ exchange.work = exchange) ∨
    (∃ parcel rest, exchange.worker = .idle ∧ exchange.queue = parcel :: rest ∧
      exchange.work = exchange.take parcel rest) ∨
    (∃ run, exchange.worker = .running run ∧ exchange.work = exchange.tell run) ∨
    (∃ run, exchange.worker = .leaving run ∧ exchange.work = exchange.settle run) := by
  cases hworker : exchange.worker with
  | idle =>
      cases hqueue : exchange.queue with
      | nil => exact .inl ⟨rfl, rfl, by simp [work, hworker, hqueue]⟩
      | cons parcel rest =>
          exact .inr (.inl ⟨parcel, rest, rfl, rfl, by simp [work, hworker, hqueue]⟩)
  | running run => exact .inr (.inr (.inl ⟨run, rfl, by simp [work, hworker]⟩))
  | leaving run => exact .inr (.inr (.inr ⟨run, rfl, by simp [work, hworker]⟩))

/-- What may happen next.  A caller that waits takes the message from its channel as soon
as there is one. -/
inductive Turn (exchange : Exchange World Environment α) : Exchange World Environment α → Prop
  | disturb (world : World) : Turn exchange { exchange with world }
  | call (job : Job World Environment α) :
      Turn exchange { exchange with callers := exchange.callers ++ [⟨job, .ready⟩] }
  | send (index : Nat) {job : Job World Environment α}
      (hcaller : exchange.callers[index]? = some ⟨job, .ready⟩) :
      Turn exchange
        { exchange with
          queue := exchange.queue ++ [⟨index, job⟩]
          callers := exchange.callers.set index ⟨job, .waiting none⟩
          sent := exchange.sent ++ [⟨index, job⟩] }
  | receive (index : Nat) {job : Job World Environment α} {message : Message α}
      (hcaller : exchange.callers[index]? = some ⟨job, .waiting (some message)⟩) :
      Turn exchange
        { exchange with callers := exchange.callers.set index ⟨job, .answered message.answer⟩ }
  | work : Turn exchange exchange.work

def Reaches : Exchange World Environment α → Exchange World Environment α → Prop :=
  Relation.ReflTransGen Turn

/-- The exchanges that a new thread can come to, whoever calls it. -/
def Reachable (number : Nat) (exchange : Exchange World Environment α) : Prop :=
  ∃ world, Reaches (start number world) exchange

/-- A call that nobody comes between is what the thread does with its job in one go. -/
theorem reaches_run (hworker : exchange.worker = .idle) (hqueue : exchange.queue = [])
    (job : Job World Environment α) :
    ∃ later, Reaches exchange later ∧
      later.thread = (exchange.thread.run (job exchange.world)).2.after ∧
      later.callers = exchange.callers ++
        [⟨job, .answered (exchange.thread.run (job exchange.world)).2.outcome⟩] ∧
      later.worker = .idle ∧ later.queue = [] := by
  obtain ⟨world, thread, queue, worker, callers, sent, ended⟩ := exchange
  obtain rfl : worker = .idle := hworker
  obtain rfl : queue = [] := hqueue
  have hcall : Reaches (⟨world, thread, [], .idle, callers, sent, ended⟩ : Exchange _ _ α) _ :=
    .single (.call job)
  have hsend := hcall.tail (.send callers.length List.getElem?_concat_length)
  simp only [List.set_append_right, Nat.le_refl, Nat.sub_self, List.set_cons_zero,
    List.nil_append] at hsend
  have hwork := ((hsend.tail .work).tail .work).tail .work
  simp only [work, take, tell, settle, Run.reply] at hwork
  rw [List.modify_eq_take_cons_drop (by simp)] at hwork
  simp only [List.take_left, List.getElem_concat_length, List.drop_eq_nil_of_le,
    List.length_append, List.length_singleton, Nat.le_refl] at hwork
  have hreceive := hwork.tail (.receive callers.length List.getElem?_concat_length)
  simp only [List.set_append_right, Nat.le_refl, Nat.sub_self, List.set_cons_zero,
    Message.answer_ofVerdict] at hreceive
  exact ⟨_, hreceive, rfl, rfl, rfl, rfl⟩

def afterRuns (thread : EngineThread Environment) (runs : List (Run World Environment α)) :
    EngineThread Environment :=
  runs.foldl (fun thread run => (thread.run (run.parcel.job run.world)).2.after) thread

@[simp]
theorem afterRuns_concat (thread : EngineThread Environment)
    (runs : List (Run World Environment α)) (run : Run World Environment α) :
    afterRuns thread (runs ++ [run]) =
      ((afterRuns thread runs).run (run.parcel.job run.world)).2.after :=
  List.foldl_concat ..

theorem afterRuns_append (thread : EngineThread Environment)
    (before after : List (Run World Environment α)) :
    afterRuns thread (before ++ after) = afterRuns (afterRuns thread before) after :=
  List.foldl_append

theorem id_afterRuns (thread : EngineThread Environment)
    (runs : List (Run World Environment α)) : (afterRuns thread runs).id = thread.id := by
  induction runs generalizing thread with
  | nil => rfl
  | cons run rest ih => exact (ih _).trans rfl

/-- A job that panics leaves the thread as it was spawned. -/
theorem run_of_panic {thread : EngineThread Environment} {run : Run World Environment α}
    (hscopes : run.scopes = thread.scopes) (hpanic : run.reply.outcome = .panic) :
    (thread.run (run.parcel.job run.world)).2.after = EngineThread.spawn thread.id := by
  rw [Run.reply, hscopes] at hpanic
  simp [EngineThread.run, hpanic, EngineThread.scopesAfter, EngineThread.spawn]

/-! ## The invariant -/

/-- Where the job of a caller is, which the stage of the caller tells. -/
def Placed (exchange : Exchange World Environment α) (index : Nat)
    (caller : Caller World Environment α) : Prop :=
  match caller.stage with
  | .ready => ∀ parcel ∈ exchange.sent, parcel.caller ≠ index
  | .waiting none =>
    ⟨index, caller.job⟩ ∈ exchange.queue ∨
      ∃ run, exchange.worker = .running run ∧ run.parcel = ⟨index, caller.job⟩
  | .waiting (some message) =>
    ∃ run ∈ exchange.told, run.parcel = ⟨index, caller.job⟩ ∧
      message = .ofVerdict run.reply.outcome
  | .answered answer =>
    ∃ run ∈ exchange.told, run.parcel = ⟨index, caller.job⟩ ∧
      answer = EngineThread.answerOf run.reply.outcome

/-- The jobs are served one at a time and in order, and no message goes astray. -/
structure Serial (number : Nat) (exchange : Exchange World Environment α) : Prop where
  /-- All that was sent was begun in the same order or is still in the queue. -/
  sent_eq : exchange.sent = exchange.runs.map Run.parcel ++ exchange.queue
  /-- No caller sends twice. -/
  once : (exchange.sent.map Parcel.caller).Nodup
  /-- What was sent is the job of the caller that has sent it. -/
  known : ∀ parcel ∈ exchange.sent, ∃ stage,
    exchange.callers[parcel.caller]? = some ⟨parcel.job, stage⟩
  /-- A job finds what the jobs before it leave one after the other. -/
  found : ∀ count run, exchange.runs[count]? = some run →
    run.scopes = (afterRuns (EngineThread.spawn number) (exchange.runs.take count)).scopes
  /-- The thread is what the jobs that it is done with leave one after the other. -/
  thread_eq : exchange.thread =
    exchange.worker.leaves (afterRuns (EngineThread.spawn number) exchange.ended)
  placed : ∀ index caller, exchange.callers[index]? = some caller →
    exchange.Placed index caller

theorem serial_start (world : World) :
    (start number world : Exchange World Environment α).Serial number where
  sent_eq := rfl
  once := .nil
  known := by simp [start]
  found := by simp [start, runs, Worker.current]
  thread_eq := rfl
  placed := by simp [start]

/-- A caller whose stage is what it was stays where it was, as long as the queue and the
thread keep its job. -/
theorem Placed.mono {index : Nat} {caller : Caller World Environment α}
    (hplaced : exchange.Placed index caller)
    (hsent : ∀ parcel ∈ next.sent, parcel ∈ exchange.sent ∨ parcel.caller ≠ index)
    (hwaiting : (⟨index, caller.job⟩ ∈ exchange.queue ∨
        ∃ run, exchange.worker = .running run ∧ run.parcel = ⟨index, caller.job⟩) →
      ⟨index, caller.job⟩ ∈ next.queue ∨
        ∃ run, next.worker = .running run ∧ run.parcel = ⟨index, caller.job⟩)
    (htold : ∀ run ∈ exchange.told, run ∈ next.told) : next.Placed index caller := by
  unfold Placed at hplaced ⊢
  split at hplaced
  · intro parcel hmem
    exact (hsent parcel hmem).elim (hplaced parcel) id
  · exact hwaiting hplaced
  · obtain ⟨run, hmem, hparcel, hmessage⟩ := hplaced
    exact ⟨run, htold run hmem, hparcel, hmessage⟩
  · obtain ⟨run, hmem, hparcel, hanswer⟩ := hplaced
    exact ⟨run, htold run hmem, hparcel, hanswer⟩

/-- A caller that changes its stage keeps its job. -/
theorem getElem?_set_of_job {index other : Nat} {job otherJob : Job World Environment α}
    {stage otherStage after : Stage α}
    (hcaller : exchange.callers[index]? = some ⟨job, stage⟩)
    (hother : exchange.callers[other]? = some ⟨otherJob, otherStage⟩) :
    ∃ stage, (exchange.callers.set index ⟨job, after⟩)[other]? = some ⟨otherJob, stage⟩ := by
  by_cases hsame : index = other
  · subst hsame
    obtain ⟨rfl, -⟩ := Caller.mk.inj (Option.some.inj (hcaller.symm.trans hother))
    exact ⟨after, List.getElem?_set_self (List.getElem?_eq_some_iff.1 hcaller).1⟩
  · exact ⟨otherStage, (List.getElem?_set_ne hsame).trans hother⟩

namespace Serial

/-- Callers change as long as each is in its place and none changes its job. -/
theorem callers (hserial : exchange.Serial number)
    (callers : List (Caller World Environment α))
    (hjobs : ∀ (index : Nat) (job : Job World Environment α) (stage : Stage α),
      exchange.callers[index]? = some ⟨job, stage⟩ →
      ∃ stage : Stage α, callers[index]? = some ⟨job, stage⟩)
    (hplaced : ∀ index caller, callers[index]? = some caller → exchange.Placed index caller) :
    Serial number { exchange with callers } :=
  { hserial with
    known := fun parcel hmem =>
      let ⟨stage, hstage⟩ := hserial.known parcel hmem
      hjobs _ _ stage hstage
    placed := hplaced }

theorem call (hserial : exchange.Serial number) (job : Job World Environment α) :
    Serial number { exchange with callers := exchange.callers ++ [⟨job, .ready⟩] } := by
  have hknown : ∀ parcel ∈ exchange.sent, parcel.caller < exchange.callers.length := by
    intro parcel hmem
    obtain ⟨stage, hstage⟩ := hserial.known parcel hmem
    exact (List.getElem?_eq_some_iff.1 hstage).1
  refine hserial.callers _ ?_ ?_
  · intro index job stage hcaller
    exact ⟨stage, (List.getElem?_append_left (List.getElem?_eq_some_iff.1 hcaller).1).trans hcaller⟩
  · intro index caller hcaller
    rcases getElem?_append_cases hcaller with hold | ⟨rfl, rfl⟩
    · exact hserial.placed index caller hold
    · exact fun parcel hmem => Nat.ne_of_lt (hknown parcel hmem)

theorem receive (hserial : exchange.Serial number) {index : Nat}
    {job : Job World Environment α} {message : Message α}
    (hcaller : exchange.callers[index]? = some ⟨job, .waiting (some message)⟩) :
    Serial number
      { exchange with callers := exchange.callers.set index ⟨job, .answered message.answer⟩ } := by
  refine hserial.callers _ (fun _ _ _ hother => getElem?_set_of_job hcaller hother) ?_
  intro other caller hother
  rcases getElem?_set_cases hother with ⟨rfl, rfl⟩ | ⟨-, hold⟩
  · obtain ⟨run, hmem, hparcel, rfl⟩ := hserial.placed index _ hcaller
    exact ⟨run, hmem, hparcel, Message.answer_ofVerdict _⟩
  · exact hserial.placed other caller hold

theorem send (hserial : exchange.Serial number) {index : Nat} {job : Job World Environment α}
    (hcaller : exchange.callers[index]? = some ⟨job, .ready⟩) :
    Serial number
      { exchange with
        queue := exchange.queue ++ [⟨index, job⟩]
        callers := exchange.callers.set index ⟨job, .waiting none⟩
        sent := exchange.sent ++ [⟨index, job⟩] } where
  sent_eq := by
    change exchange.sent ++ [_] = exchange.runs.map Run.parcel ++ (exchange.queue ++ [_])
    rw [hserial.sent_eq, List.append_assoc]
  once := by
    have hready : ∀ parcel ∈ exchange.sent, parcel.caller ≠ index := hserial.placed index _ hcaller
    simp only [List.map_append, List.map_cons, List.map_nil]
    refine List.Nodup.append hserial.once (List.nodup_singleton index) ?_
    rintro caller hmem hindex
    obtain ⟨parcel, hsent, rfl⟩ := List.mem_map.1 hmem
    exact hready parcel hsent (List.mem_singleton.1 hindex)
  known := by
    intro parcel hmem
    rcases List.mem_append.1 hmem with hold | hnew
    · obtain ⟨stage, hstage⟩ := hserial.known parcel hold
      exact getElem?_set_of_job hcaller hstage
    · obtain rfl := List.mem_singleton.1 hnew
      exact getElem?_set_of_job hcaller hcaller
  found := hserial.found
  thread_eq := hserial.thread_eq
  placed := by
    intro other caller hother
    rcases getElem?_set_cases hother with ⟨rfl, rfl⟩ | ⟨hne, hold⟩
    · exact .inl (List.mem_append_right _ (List.mem_singleton_self _))
    · refine (hserial.placed other caller hold).mono ?_ ?_ fun run hmem => hmem
      · intro parcel hmem
        rcases List.mem_append.1 hmem with hsent | hnew
        · exact .inl hsent
        · obtain rfl := List.mem_singleton.1 hnew
          exact .inr hne
      · rintro (hqueue | hrunning)
        · exact .inl (List.mem_append_left _ hqueue)
        · exact .inr hrunning

/-- The next job in the queue is begun on what the jobs before it have left. -/
theorem take (hserial : exchange.Serial number) {parcel : Parcel World Environment α}
    {rest : List (Parcel World Environment α)} (hworker : exchange.worker = .idle)
    (hqueue : exchange.queue = parcel :: rest) :
    (exchange.take parcel rest).Serial number := by
  have hthread := hserial.thread_eq
  have hruns : exchange.runs = exchange.ended := by simp [runs, hworker, Worker.current]
  have hsent := hserial.sent_eq
  have hfound := hserial.found
  rw [hworker] at hthread
  rw [hruns, hqueue] at hsent
  rw [hruns] at hfound
  refine ⟨?_, hserial.once, hserial.known, ?_, hthread, ?_⟩
  · simpa [Exchange.take, runs, Worker.current] using hsent
  · intro count run hrun
    change (exchange.ended ++ [_])[count]? = some run at hrun
    change run.scopes = (afterRuns _ ((exchange.ended ++ [_]).take count)).scopes
    rcases getElem?_append_cases hrun with hold | ⟨rfl, rfl⟩
    · rw [List.take_append_of_le_length (Nat.le_of_lt (List.getElem?_eq_some_iff.1 hold).1)]
      exact hfound count run hold
    · rw [List.take_left]
      exact congrArg EngineThread.scopes hthread
  · intro index caller hcaller
    refine (hserial.placed index caller hcaller).mono (fun _ hmem => .inl hmem) ?_ ?_
    · rintro (hmem | ⟨run, hrunning, -⟩)
      · rw [hqueue] at hmem
        rcases List.mem_cons.1 hmem with rfl | hrest
        · exact .inr ⟨_, rfl, rfl⟩
        · exact .inl hrest
      · rw [hworker] at hrunning
        contradiction
    · intro run hmem
      simpa [told, Exchange.take, hworker, Worker.told] using hmem

theorem tell (hserial : exchange.Serial number) {run : Run World Environment α}
    (hworker : exchange.worker = .running run) : (exchange.tell run).Serial number := by
  have hruns : (exchange.tell run).runs = exchange.runs := by
    simp [Exchange.tell, runs, hworker, Worker.current]
  have hthread := hserial.thread_eq
  rw [hworker] at hthread
  have hmem : run.parcel ∈ exchange.sent := by
    rw [hserial.sent_eq]
    simp [runs, hworker, Worker.current]
  obtain ⟨stage, hcaller⟩ := hserial.known _ hmem
  refine ⟨?_, hserial.once, ?_, ?_, ?_, ?_⟩
  · rw [hruns]
    exact hserial.sent_eq
  · intro parcel hsent
    obtain ⟨stage, hstage⟩ := hserial.known parcel hsent
    simp only [Exchange.tell, List.getElem?_modify, hstage, Option.map_eq_map, Option.map_some]
    split <;> exact ⟨_, rfl⟩
  · rw [hruns]
    exact hserial.found
  · simp only [Exchange.tell, hthread, Worker.leaves]
  · intro index caller hnew
    simp only [Exchange.tell, List.getElem?_modify] at hnew
    by_cases hsame : run.parcel.caller = index
    · subst hsame
      simp only [if_pos, hcaller, Option.map_eq_map, Option.map_some, Option.some.injEq] at hnew
      subst hnew
      exact ⟨run, by simp [told, Exchange.tell, Worker.told], rfl, rfl⟩
    · simp only [if_neg hsame, Option.map_eq_map, Option.map_id'] at hnew
      refine (hserial.placed index caller (by simpa using hnew)).mono (fun _ hsent => .inl hsent)
        ?_ ?_
      · rintro (hqueue | ⟨other, hrunning, hparcel⟩)
        · exact .inl hqueue
        · obtain rfl := Worker.running.inj (hworker.symm.trans hrunning)
          exact absurd (congrArg Parcel.caller hparcel) hsame
      · intro other hother
        simp only [told, hworker, Worker.told, List.append_nil] at hother
        exact List.mem_append_left _ hother

theorem settle (hserial : exchange.Serial number) {run : Run World Environment α}
    (hworker : exchange.worker = .leaving run) : (exchange.settle run).Serial number := by
  have hruns : (exchange.settle run).runs = exchange.runs := by
    simp [Exchange.settle, runs, hworker, Worker.current]
  have htold : (exchange.settle run).told = exchange.told := by
    simp [Exchange.settle, told, hworker, Worker.told]
  have hthread := hserial.thread_eq
  rw [hworker] at hthread
  have hscopes : run.scopes = (afterRuns (EngineThread.spawn number) exchange.ended).scopes := by
    have hlast : exchange.runs = exchange.ended ++ [run] := by
      simp [runs, hworker, Worker.current]
    have hfound := hserial.found exchange.ended.length run (by
      rw [hlast]
      exact List.getElem?_concat_length)
    rwa [hlast, List.take_left] at hfound
  refine ⟨?_, hserial.once, hserial.known, ?_, ?_, ?_⟩
  · rw [hruns]
    exact hserial.sent_eq
  · rw [hruns]
    exact hserial.found
  · change _ = afterRuns _ (exchange.ended ++ [run])
    rw [afterRuns_concat]
    simp only [Exchange.settle, hthread, Worker.leaves, EngineThread.run]
    -- The job has found what the jobs before it leave, so it would do the same after them.
    rw [← hscopes]
    rfl
  · intro index caller hcaller
    refine (hserial.placed index caller hcaller).mono (fun _ hsent => .inl hsent) ?_ ?_
    · rintro (hqueue | ⟨other, hrunning, -⟩)
      · exact .inl hqueue
      · rw [hworker] at hrunning
        contradiction
    · intro other hother
      rwa [htold]

theorem work (hserial : exchange.Serial number) : exchange.work.Serial number := by
  rcases work_cases exchange with ⟨-, -, hwork⟩ | ⟨parcel, rest, hworker, hqueue, hwork⟩ |
    ⟨run, hworker, hwork⟩ | ⟨run, hworker, hwork⟩
  · rwa [hwork]
  · rw [hwork]
    exact hserial.take hworker hqueue
  · rw [hwork]
    exact hserial.tell hworker
  · rw [hwork]
    exact hserial.settle hworker

theorem of_turn (hserial : exchange.Serial number) (hturn : Turn exchange next) :
    next.Serial number := by
  cases hturn with
  | disturb world => exact { hserial with }
  | call job => exact hserial.call job
  | send index hcaller => exact hserial.send hcaller
  | receive index hcaller => exact hserial.receive hcaller
  | work => exact hserial.work

end Serial

theorem serial_of_reaches (hserial : exchange.Serial number) (hreach : Reaches exchange later) :
    later.Serial number := by
  induction hreach with
  | refl => exact hserial
  | tail _ hturn ih => exact ih.of_turn hturn

/-- A job that was begun after a panic has found what the jobs since then leave on a new
thread. -/
theorem Serial.scopes_of_panic (hserial : exchange.Serial number) {first last : Nat}
    {panicked run : Run World Environment α} (hpanicked : exchange.runs[first]? = some panicked)
    (hpanic : panicked.reply.outcome = .panic) (hlt : first < last)
    (hrun : exchange.runs[last]? = some run) :
    run.scopes = (afterRuns (EngineThread.spawn number)
      ((exchange.runs.take last).drop (first + 1))).scopes := by
  have hsplit : exchange.runs.take last =
      (exchange.runs.take first ++ [panicked]) ++ (exchange.runs.take last).drop (first + 1) := by
    conv_lhs => rw [← List.take_append_drop (first + 1) (exchange.runs.take last)]
    rw [List.take_take, Nat.min_eq_left hlt, List.take_add_one, hpanicked]
    rfl
  have hcleared : afterRuns (EngineThread.spawn number) (exchange.runs.take first ++ [panicked]) =
      (EngineThread.spawn number : EngineThread Environment) := by
    rw [afterRuns_concat, run_of_panic (hserial.found first panicked hpanicked) hpanic,
      id_afterRuns]
    rfl
  rw [hserial.found last run hrun]
  -- Everything up to the panic leaves what a new thread is.
  conv_lhs => rw [hsplit, afterRuns_append, hcleared]

/-! ## Every caller is answered once -/

theorem Serial.answered_of_turn (hserial : exchange.Serial number)
    (hturn : Turn exchange next) {index : Nat} {job : Job World Environment α}
    {answer : Except EngineError α}
    (hanswered : exchange.callers[index]? = some ⟨job, .answered answer⟩) :
    next.callers[index]? = some ⟨job, .answered answer⟩ := by
  have hset : ∀ {other : Nat} {stage : Stage α} {otherJob : Job World Environment α}
      (after : Stage α), exchange.callers[other]? = some ⟨otherJob, stage⟩ →
      (∀ answer, stage ≠ .answered answer) →
      (exchange.callers.set other ⟨otherJob, after⟩)[index]? = some ⟨job, .answered answer⟩ := by
    intro other stage otherJob after hother hstage
    refine (List.getElem?_set_ne ?_).trans hanswered
    rintro rfl
    exact hstage answer (Caller.mk.inj (Option.some.inj (hother.symm.trans hanswered))).2
  cases hturn with
  | disturb world => exact hanswered
  | call other =>
      exact (List.getElem?_append_left (List.getElem?_eq_some_iff.1 hanswered).1).trans hanswered
  | send other hcaller => exact hset _ hcaller (by simp)
  | receive other hcaller => exact hset _ hcaller (by simp)
  | work =>
      rcases work_cases exchange with ⟨-, -, hwork⟩ | ⟨parcel, rest, -, -, hwork⟩ |
        ⟨run, hworker, hwork⟩ | ⟨run, -, hwork⟩
      · rwa [hwork]
      · rwa [hwork]
      · -- the job that is over was sent by someone else, since nobody sends twice
        have hne : run.parcel.caller ≠ index := by
          obtain ⟨other, hmem, hparcel, -⟩ := hserial.placed index _ hanswered
          simp only [Exchange.told, hworker, Worker.told, List.append_nil] at hmem
          have honce := hserial.once
          rw [hserial.sent_eq] at honce
          simp only [runs, hworker, Worker.current, List.map_append, List.map_cons, List.map_nil,
            List.append_assoc, List.map_map] at honce
          have hended : index ∈ exchange.ended.map (Parcel.caller ∘ Run.parcel) :=
            List.mem_map.2 ⟨other, hmem, by simp [hparcel]⟩
          rintro rfl
          exact List.disjoint_of_nodup_append honce hended
            (List.mem_append_left _ (List.mem_singleton_self _))
        rw [hwork]
        simp [Exchange.tell, hne, hanswered]
      · rwa [hwork]

theorem Serial.answered_of_reaches (hserial : exchange.Serial number)
    (hreach : Reaches exchange later) {index : Nat} {job : Job World Environment α}
    {answer : Except EngineError α}
    (hanswered : exchange.callers[index]? = some ⟨job, .answered answer⟩) :
    later.callers[index]? = some ⟨job, .answered answer⟩ := by
  induction hreach with
  | refl => exact hanswered
  | tail hbefore hturn ih =>
      exact (serial_of_reaches hserial hbefore).answered_of_turn hturn ih

def due (exchange : Exchange World Environment α) : Nat :=
  3 * exchange.queue.length + exchange.worker.due

theorem due_work (exchange : Exchange World Environment α) :
    exchange.work.due = exchange.due - 1 := by
  rcases work_cases exchange with
    ⟨hworker, hqueue, hwork⟩ | ⟨parcel, rest, hworker, hqueue, hwork⟩ |
    ⟨run, hworker, hwork⟩ | ⟨run, hworker, hwork⟩
  · simp [hwork, due, hworker, hqueue, Worker.due]
  · simp only [hwork, due, take, hworker, hqueue, Worker.due, List.length_cons]
    omega
  · simp only [hwork, due, tell, hworker, Worker.due]
    omega
  · simp only [hwork, due, settle, hworker, Worker.due]
    omega

theorem due_iterate_work (exchange : Exchange World Environment α) (turns : Nat) :
    (work^[turns] exchange).due = exchange.due - turns := by
  induction turns with
  | zero => rfl
  | succ turns ih =>
      rw [Function.iterate_succ_apply', due_work, ih]
      omega

theorem reaches_iterate_work (exchange : Exchange World Environment α) (turns : Nat) :
    Reaches exchange (work^[turns] exchange) := by
  induction turns with
  | zero => exact .refl
  | succ turns ih =>
      rw [Function.iterate_succ_apply']
      exact ih.tail .work

theorem idle_of_due_eq_zero (hdue : exchange.due = 0) :
    exchange.worker = .idle ∧ exchange.queue = [] := by
  have hqueue : exchange.queue.length = 0 := by unfold due at hdue; omega
  have hworker : exchange.worker.due = 0 := by unfold due at hdue; omega
  refine ⟨?_, List.eq_nil_of_length_eq_zero hqueue⟩
  cases hbusy : exchange.worker with
  | idle => rfl
  | running run => simp [hbusy, Worker.due] at hworker
  | leaving run => simp [hbusy, Worker.due] at hworker

/-- Nobody waits at an empty channel while the thread has nothing to do. -/
theorem Serial.callers_ne_waiting (hserial : exchange.Serial number)
    (hworker : exchange.worker = .idle) (hqueue : exchange.queue = []) (index : Nat)
    (job : Job World Environment α) :
    exchange.callers[index]? ≠ some ⟨job, .waiting none⟩ := by
  intro hcaller
  rcases hserial.placed index _ hcaller with hmem | ⟨run, hrunning, -⟩
  · rw [hqueue] at hmem
    contradiction
  · rw [hworker] at hrunning
    contradiction

/-- Whatever the callers of a thread do, and whatever becomes of the world meanwhile, jobs
are served one at a time, in the order in which they were sent, on what the jobs before
leave one after the other; and each caller is told what became of its own job, once.  A
job that was begun after a panic finds nothing from before it, although the caller of the
job that panicked may have its answer already.  And the thread alone gets to a state in
which nobody waits without a message. -/
theorem serial_of_reachable (hreach : Reachable number exchange) :
    exchange.Serial number ∧
    (∀ {first last : Nat} {panicked run : Run World Environment α},
      exchange.runs[first]? = some panicked → panicked.reply.outcome = .panic → first < last →
      exchange.runs[last]? = some run →
      run.scopes = (afterRuns (EngineThread.spawn number)
        ((exchange.runs.take last).drop (first + 1))).scopes) ∧
    (∀ {later : Exchange World Environment α} {index : Nat} {job : Job World Environment α}
      {answer : Except EngineError α}, Reaches exchange later →
      exchange.callers[index]? = some ⟨job, .answered answer⟩ →
      later.callers[index]? = some ⟨job, .answered answer⟩) ∧
    ∃ quiet : Exchange World Environment α, quiet = work^[exchange.due] exchange ∧
      quiet.Serial number ∧ quiet.worker = .idle ∧ quiet.queue = [] ∧
      ∀ (index : Nat) (job : Job World Environment α),
        quiet.callers[index]? ≠ some ⟨job, .waiting none⟩ := by
  obtain ⟨world, hreach⟩ := hreach
  have hserial := serial_of_reaches (serial_start world) hreach
  refine ⟨hserial, hserial.scopes_of_panic, fun hlater => hserial.answered_of_reaches hlater,
    _, rfl, ?_⟩
  have hquiet := serial_of_reaches hserial (reaches_iterate_work exchange exchange.due)
  have hdue : (work^[exchange.due] exchange).due = 0 := by
    rw [due_iterate_work, Nat.sub_self]
  obtain ⟨hworker, hqueue⟩ := idle_of_due_eq_zero hdue
  exact ⟨hquiet, hworker, hqueue, hquiet.callers_ne_waiting hworker hqueue⟩

def keep (name : String) : Job Unit String Nat := fun world scopes =>
  (world, ⟨[], ⟨scopes.environments.insert name ""⟩, [], .value scopes.size⟩)

def spoil : Job Unit String Nat := fun world scopes =>
  (world, ⟨[], ⟨scopes.environments.insert "broken" ""⟩, [], .panic⟩)

/-- The second of three jobs has panicked.  Its caller has gone on already, while the thread
still holds what was there, and the third job is in the queue. -/
def spoiled : Exchange Unit String Nat where
  world := ()
  thread := ⟨0, ⟨⟨[("A", ""), ("broken", "")]⟩⟩⟩
  queue := [⟨2, keep "B"⟩]
  worker := .leaving ⟨⟨1, spoil⟩, (), ⟨⟨[("A", "")]⟩⟩⟩
  callers := [⟨keep "A", .answered (.ok 0)⟩,
    ⟨spoil, .answered (.error (.unavailable "engine job aborted"))⟩, ⟨keep "B", .waiting none⟩]
  sent := [⟨0, keep "A"⟩, ⟨1, spoil⟩, ⟨2, keep "B"⟩]
  ended := [⟨⟨0, keep "A"⟩, (), .empty⟩]

/-- The third job finds nothing, and its caller is told so. -/
theorem serial_of_spoiled :
    Reachable 0 spoiled ∧ spoiled.Serial 0 ∧
      ∃ quiet, Reaches spoiled quiet ∧ quiet.Serial 0 ∧
        quiet.callers = [⟨keep "A", .answered (.ok 0)⟩,
          ⟨spoil, .answered (.error (.unavailable "engine job aborted"))⟩,
          ⟨keep "B", .waiting (some (.value (.ok 0)))⟩] ∧
        ∃ run, quiet.runs[2]? = some run ∧ run.parcel = ⟨2, keep "B"⟩ ∧
          run.scopes = (afterRuns (EngineThread.spawn 0) ((quiet.runs.take 2).drop 2)).scopes := by
  have htold : Reaches (start 0 ()) { spoiled with
      callers := [⟨keep "A", .answered (.ok 0)⟩, ⟨spoil, .waiting (some .closed)⟩,
        ⟨keep "B", .waiting none⟩] } :=
    (((((((((((Relation.ReflTransGen.refl.tail
      (.call (keep "A"))).tail
      (.call spoil)).tail
      (.call (keep "B"))).tail
      (.send 0 rfl)).tail
      (.send 1 rfl)).tail
      (.send 2 rfl)).tail
      .work).tail
      .work).tail
      .work).tail
      (.receive 0 rfl)).tail
      .work).tail
      .work
  have hreach : Reachable 0 spoiled := ⟨(), htold.tail (@Turn.receive _ _ _ _ 1 spoil .closed rfl)⟩
  have hquiet : Reaches spoiled (work^[4] spoiled) := reaches_iterate_work spoiled 4
  obtain ⟨hserial, -, -, -⟩ := serial_of_reachable hreach
  obtain ⟨world, hstart⟩ := hreach
  obtain ⟨hlater, hafter, -, -⟩ := serial_of_reachable ⟨world, hstart.trans hquiet⟩
  exact ⟨⟨world, hstart⟩, hserial, _, hquiet, hlater, rfl, _, rfl, rfl,
    @hafter 1 2 _ _ rfl rfl (by decide) rfl⟩

end Exchange

end ServerRender
