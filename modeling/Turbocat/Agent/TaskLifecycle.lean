import Mathlib.Order.Interval.Finset.Nat
import Turbocat.Agent.Process

/-! Received jobs run exactly once and within the bound, and `drain` waits for all of them,
in every order of what the event loop and the threads do.
-/

namespace Turbocat.Agent.Process

open Turbocat.Library Turbocat.Python Turbocat.Orchestrator

variable {repr : String → String} {maxWorkers : Nat}

-----------------------------------------------------------------------------------------
-- What each step does
-----------------------------------------------------------------------------------------

/-- What each accepted event does, with the guards it has passed. -/
inductive Takes (repr : String → String) (maxWorkers : Nat) (state : State)
    : Event → State → Prop
  | sleep (ready : state.loop = .ready) : Takes repr maxWorkers state .turn state
  | ask (ready : state.loop = .ready) (capacity : 0 < state.available maxWorkers)
    : Takes repr maxWorkers state .turn { state with loop := .awaiting, thread := .asking }
  | requestEnds {jobs} (asking : state.thread = .asking)
    : Takes repr maxWorkers state (.requestEnds jobs) { state with thread := .ended jobs }
  | resume {jobs} (awaiting : state.loop = .awaiting) (ended : state.thread = .ended jobs)
    : Takes repr maxWorkers state .resume
        ((jobs.getD []).foldl State.spawn { state with
          loop := .ready
          thread := .idle
          received := state.received ++ jobs.getD [] })
  | acquire {number task permits} (found : state.tasks[number]? = some task)
    (phase : task.phase = .waiting) (free : state.permits = permits + 1)
    : Takes repr maxWorkers state (.acquire number)
        { state.moved number task .queued with permits }
  | call {number task} (found : state.tasks[number]? = some task)
    (phase : task.phase = .queued) (thread : state.executing < maxWorkers)
    : Takes repr maxWorkers state (.call number)
        { state.moved number task .executing with called := task.job :: state.called }
  | returns {number task env} (found : state.tasks[number]? = some task)
    (phase : task.phase = .executing) (returned : returns repr env task.job = true)
    : Takes repr maxWorkers state (.returns number env)
        { state.moved number task .returned with
          returned := task.job :: state.returned
          attempted := reportsOf (runJob repr env task.job) ++ state.attempted }
  | finish {number task} (found : state.tasks[number]? = some task)
    (phase : task.phase = .returned)
    : Takes repr maxWorkers state (.finish number)
        { state.moved number task .done with permits := state.permits + 1 }
  | discard {number task} (found : state.tasks[number]? = some task)
    (phase : task.phase = .done)
    : Takes repr maxWorkers state (.discard number)
        { state with activeTasks := state.activeTasks.erase number }
  | signal (waiting : state.main = .waiting)
    : Takes repr maxWorkers state .signal { state with main := .stopping }
  | signalAgain : Takes repr maxWorkers state .signal state
  | cancel (stopping : state.main = .stopping)
    : Takes repr maxWorkers state .cancel { state with main := .cancelling, loop := .cancelled }
  | drainNothing (cancelling : state.main = .cancelling) (idle : state.activeTasks = ∅)
    : Takes repr maxWorkers state .drain { state with main := .drained }
  | drain (cancelling : state.main = .cancelling)
    : Takes repr maxWorkers state .drain { state with main := .draining state.activeTasks }
  | drainReturns {tasks} (draining : state.main = .draining tasks)
    (all : ∀ number ∈ tasks, state.isDone number = true)
    : Takes repr maxWorkers state .drainReturns { state with main := .drained }
  | exit (drained : state.main = .drained) (ended : state.thread ≠ .asking)
    : Takes repr maxWorkers state .exit { state with main := .exited }

/-- A step of a task finds the task in its phase. -/
theorem inPhase_eq_some {state next : State} {number : Nat} {phase : TaskPhase}
    {go : Task → Option State} (stepped : state.inPhase number phase go = some next)
    : ∃ task, state.tasks[number]? = some task ∧ task.phase = phase ∧ go task = some next := by
  obtain ⟨task, found, gone⟩ := Option.bind_eq_some_iff.mp stepped
  split at gone
  · next same => exact ⟨task, found, same, gone⟩
  · cases gone

theorem step_takes {state next : State} {event : Event}
    (stepped : step repr maxWorkers state event = some next)
    : Takes repr maxWorkers state event next := by
  cases event with
  | turn =>
      simp only [step] at stepped
      split at stepped
      · next ready =>
          split at stepped
          · next capacity =>
              cases stepped
              exact .ask ready capacity
          · cases stepped
            exact .sleep ready
      · cases stepped
  | requestEnds jobs =>
      simp only [step] at stepped
      split at stepped
      · next asking =>
          cases stepped
          exact .requestEnds asking
      · cases stepped
  | resume =>
      simp only [step] at stepped
      split at stepped
      · next jobs awaiting ended =>
          cases stepped
          exact .resume awaiting ended
      · cases stepped
  | acquire number =>
      obtain ⟨task, found, phase, gone⟩ := inPhase_eq_some stepped
      split at gone
      · cases gone
      · next permits free =>
          cases gone
          exact .acquire found phase free
  | call number =>
      obtain ⟨task, found, phase, gone⟩ := inPhase_eq_some stepped
      split at gone
      · next thread =>
          cases gone
          exact .call found phase thread
      · cases gone
  | returns number env =>
      obtain ⟨task, found, phase, gone⟩ := inPhase_eq_some stepped
      split at gone
      · next returned =>
          cases gone
          exact .returns found phase returned
      · cases gone
  | finish number =>
      obtain ⟨task, found, phase, gone⟩ := inPhase_eq_some stepped
      cases gone
      exact .finish found phase
  | discard number =>
      obtain ⟨task, found, phase, gone⟩ := inPhase_eq_some stepped
      cases gone
      exact .discard found phase
  | signal =>
      simp only [step] at stepped
      split at stepped
      · next waiting =>
          cases stepped
          exact .signal waiting
      · cases stepped
        exact .signalAgain
  | cancel =>
      simp only [step] at stepped
      split at stepped
      · next stopping =>
          cases stepped
          exact .cancel stopping
      · cases stepped
  | drain =>
      simp only [step] at stepped
      split at stepped
      · next cancelling =>
          split at stepped
          · next idle =>
              cases stepped
              exact .drainNothing cancelling idle
          · cases stepped
            exact .drain cancelling
      · cases stepped
  | drainReturns =>
      simp only [step] at stepped
      split at stepped
      · next tasks draining =>
          split at stepped
          · next all =>
              cases stepped
              exact .drainReturns draining all
          · cases stepped
      · cases stepped
  | exit =>
      simp only [step] at stepped
      split at stepped
      · cases stepped
      · next drained ended =>
          cases stepped
          exact .exit drained ended
      · cases stepped

-----------------------------------------------------------------------------------------
-- The tasks and their jobs
-----------------------------------------------------------------------------------------

/-- Spawning the jobs of a response adds one task for each, all of them active. -/
theorem spawnAll_eq (jobs : List JobPayload) (state : State)
    : jobs.foldl State.spawn state
      = { state with
          tasks := state.tasks ++ jobs.map (fun job => ⟨job, .waiting⟩)
          activeTasks := state.activeTasks
            ∪ Finset.Ico state.tasks.length (state.tasks.length + jobs.length) } := by
  induction jobs generalizing state with
  | nil => simp
  | cons job rest ih =>
      rw [List.foldl_cons, ih]
      simp only [State.spawn, List.map_cons, List.append_assoc, List.cons_append,
        List.nil_append, List.length_append, List.length_cons, List.length_nil, State.mk.injEq,
        true_and, and_true]
      ext number
      simp only [Finset.mem_union, Finset.mem_insert, Finset.mem_Ico]
      by_cases active : number ∈ state.activeTasks
      · simp only [active, or_true, true_or]
      · simp only [active, or_false, false_or]
        omega

/-- A task that moves takes the place of the task it was. -/
theorem moved_tasks {state : State} {number : Nat} {task : Task}
    (found : state.tasks[number]? = some task) (phase : TaskPhase)
    : ∃ rest,
        state.tasks.Perm (task :: rest)
        ∧ (state.moved number task phase).tasks.Perm ({ task with phase } :: rest) := by
  obtain ⟨inside, rfl⟩ := List.getElem?_eq_some_iff.mp found
  exact ⟨state.tasks.eraseIdx number, (List.getElem_cons_eraseIdx_perm inside).symm,
    List.set_perm_cons_eraseIdx inside _⟩

/-- A move keeps what the old and the new phase agree on. -/
theorem moved_keeps {state : State} {number : Nat} {task : Task}
    (found : state.tasks[number]? = some task) (phase : TaskPhase) {α : Type*}
    (view : Task → Option α) (same : view { task with phase } = view task)
    : ((state.moved number task phase).tasks.filterMap view).Perm
        (state.tasks.filterMap view) := by
  obtain ⟨rest, before, after⟩ := moved_tasks found phase
  apply (after.filterMap view).trans
  apply List.Perm.trans _ (before.filterMap view).symm
  rw [List.filterMap_cons, List.filterMap_cons, same]

/-- A move adds what only the new phase shows. -/
theorem moved_enters {state : State} {number : Nat} {task : Task}
    (found : state.tasks[number]? = some task) (phase : TaskPhase) {α : Type*}
    (view : Task → Option α) {seen : α} (hidden : view task = none)
    (shown : view { task with phase } = some seen)
    : ((state.moved number task phase).tasks.filterMap view).Perm
        (seen :: state.tasks.filterMap view) := by
  obtain ⟨rest, before, after⟩ := moved_tasks found phase
  apply (after.filterMap view).trans
  apply List.Perm.trans _ ((before.filterMap view).symm.cons seen)
  rw [List.filterMap_cons_some shown, List.filterMap_cons_none hidden]

/-- How a move changes the number of tasks of a kind. -/
theorem moved_countP {state : State} {number : Nat} {task : Task}
    (found : state.tasks[number]? = some task) (phase : TaskPhase) (kind : Task → Bool)
    : (state.moved number task phase).tasks.countP kind + (if kind task then 1 else 0)
      = state.tasks.countP kind + (if kind { task with phase } then 1 else 0) := by
  obtain ⟨rest, before, after⟩ := moved_tasks found phase
  rw [before.countP_eq, after.countP_eq, List.countP_cons, List.countP_cons]
  omega

@[simp]
theorem moved_permits (state : State) (number : Nat) (task : Task) (phase : TaskPhase)
    : (state.moved number task phase).permits = state.permits :=
  rfl

theorem moved_jobs {state : State} {number : Nat} {task : Task}
    (found : state.tasks[number]? = some task) (phase : TaskPhase)
    : (state.moved number task phase).tasks.map Task.job = state.tasks.map Task.job := by
  obtain ⟨inside, rfl⟩ := List.getElem?_eq_some_iff.mp found
  simp only [State.moved, List.map_set]
  rw [← List.getElem_map Task.job, List.set_getElem_self]
  rwa [List.length_map]

/-- The job of a task that has called `run_job`. -/
def Task.called? (task : Task) : Option JobPayload :=
  match task.phase with
  | .waiting => none
  | .queued => none
  | _ => some task.job

/-- The job of a task whose `run_job` has returned. -/
def Task.returned? (task : Task) : Option JobPayload :=
  match task.phase with
  | .returned => some task.job
  | .done => some task.job
  | _ => none

/-- Whether a task holds a permit of the semaphore. -/
def Task.holdsPermit (task : Task) : Bool :=
  match task.phase with
  | .waiting => false
  | .done => false
  | _ => true

/-- The tasks account for the semaphore and for all that has happened. -/
structure Accounts (maxWorkers : Nat) (state : State) : Prop where
  spawned : state.tasks.map Task.job = state.received
  permits : state.permits + state.tasks.countP Task.holdsPermit = maxWorkers
  called : state.called.Perm (state.tasks.filterMap Task.called?)
  returned : state.returned.Perm (state.tasks.filterMap Task.returned?)
  reported
    : ∀ job ∈ state.returned,
        ∃ report ∈ state.attempted, report.jobId = job.jobId ∧ report.terminal = true

theorem accounts_initial : Accounts maxWorkers (.initial maxWorkers) :=
  ⟨rfl, rfl, .nil, .nil, fun _ member => (nomatch member)⟩

/-- A move into or out of the semaphore keeps the accounts, when no `run_job` call starts or
returns by it and the permits still add up.
-/
theorem Accounts.moved {state : State} (accounts : Accounts maxWorkers state) {number : Nat}
    {task : Task} (found : state.tasks[number]? = some task) {phase : TaskPhase} {permits : Nat}
    (called : ({ task with phase } : Task).called? = task.called?)
    (returned : ({ task with phase } : Task).returned? = task.returned?)
    (balance
      : permits + (if ({ task with phase } : Task).holdsPermit then 1 else 0)
        = state.permits + (if task.holdsPermit then 1 else 0))
    : Accounts maxWorkers { state.moved number task phase with permits } where
  spawned := (moved_jobs found phase).trans accounts.spawned
  permits := by
    have count := moved_countP found phase Task.holdsPermit
    have before := accounts.permits
    dsimp only
    omega
  called := accounts.called.trans (moved_keeps found phase Task.called? called).symm
  returned := accounts.returned.trans (moved_keeps found phase Task.returned? returned).symm
  reported := accounts.reported

/-- Every step keeps the accounts, by cases of the step. -/
theorem Accounts.step {state next : State} {event : Event} (accounts : Accounts maxWorkers state)
    (stepped : step repr maxWorkers state event = some next)
    : Accounts maxWorkers next := by
  have permits := accounts.permits
  cases step_takes stepped with
  | sleep | ask | requestEnds | discard | signal | signalAgain | cancel | drainNothing | drain
  | drainReturns | exit =>
      exact ⟨accounts.spawned, permits, accounts.called, accounts.returned, accounts.reported⟩
  | @resume jobs awaiting ended =>
      rw [spawnAll_eq]
      refine ⟨?_, ?_, ?_, ?_, accounts.reported⟩
      · simp only [List.map_append, List.map_map, accounts.spawned, Function.comp_def,
          List.map_id']
      · rw [List.countP_append, List.countP_map]
        simpa [Function.comp_def, Task.holdsPermit] using permits
      · rw [List.filterMap_append, List.filterMap_map]
        simpa [Function.comp_def, Task.called?] using accounts.called
      · rw [List.filterMap_append, List.filterMap_map]
        simpa [Function.comp_def, Task.returned?] using accounts.returned
  | @acquire number task permits found phase free =>
      apply accounts.moved found
      · simp only [Task.called?, phase]
      · simp only [Task.returned?, phase]
      · simp only [Task.holdsPermit, phase, Bool.false_eq_true, if_true, if_false]
        omega
  | @call number task found phase thread =>
      have count := moved_countP found .executing Task.holdsPermit
      have called := moved_enters found .executing Task.called?
        (by simp only [Task.called?, phase]) rfl
      have returned := moved_keeps found .executing Task.returned?
        (by simp only [Task.returned?, phase])
      refine ⟨(moved_jobs found _).trans accounts.spawned, ?_,
        (accounts.called.cons task.job).trans called.symm,
        accounts.returned.trans returned.symm, accounts.reported⟩
      simp [Task.holdsPermit, phase] at count ⊢
      omega
  | @returns number task env found phase returned =>
      have count := moved_countP found .returned Task.holdsPermit
      have called := moved_keeps found .returned Task.called? (by simp only [Task.called?, phase])
      have entered := moved_enters found .returned Task.returned?
        (by simp only [Task.returned?, phase]) rfl
      refine ⟨(moved_jobs found _).trans accounts.spawned, ?_,
        accounts.called.trans called.symm,
        (accounts.returned.cons task.job).trans entered.symm, ?_⟩
      · simp [Task.holdsPermit, phase] at count ⊢
        omega
      · intro job member
        rcases List.mem_cons.mp member with rfl | earlier
        · obtain ⟨report, made, own, terminal⟩ := runJob_reports_end returned
          exact ⟨report, List.mem_append_left _ made, own, terminal⟩
        · obtain ⟨report, made, own, terminal⟩ := accounts.reported job earlier
          exact ⟨report, List.mem_append_right _ made, own, terminal⟩
  | @finish number task found phase =>
      apply accounts.moved found
      · simp only [Task.called?, phase]
      · simp only [Task.returned?, phase]
      · simp only [Task.holdsPermit, phase, Bool.false_eq_true, if_true, if_false]

/-- Every executing call holds a permit. -/
theorem Accounts.executing_le {state : State} (accounts : Accounts maxWorkers state)
    : state.executing ≤ maxWorkers := by
  have permits := accounts.permits
  have holding : state.executing ≤ state.tasks.countP Task.holdsPermit := by
    apply List.countP_mono_left
    intro task _ executing
    rw [Task.holdsPermit, of_decide_eq_true executing]
  omega

/-- A job in the queue of the thread pool finds a free thread. -/
theorem queued_starts {state : State} (accounts : Accounts maxWorkers state)
    {number : Nat} {task : Task} (found : state.tasks[number]? = some task)
    (phase : task.phase = .queued)
    : step repr maxWorkers state (.call number)
      = some { state.moved number task .executing with called := task.job :: state.called } := by
  have free : state.executing < maxWorkers := by
    have permits := accounts.permits
    have executing := moved_countP found .executing
      (fun task => decide (task.phase = .executing))
    have holding := moved_countP found .executing Task.holdsPermit
    have within := List.countP_mono_left (l := (state.moved number task .executing).tasks)
      (p := fun task => decide (task.phase = .executing)) (q := Task.holdsPermit)
      (fun task _ executing => by rw [Task.holdsPermit, of_decide_eq_true executing])
    simp [Task.holdsPermit, phase] at executing holding
    unfold State.executing
    omega
  simp only [step, State.inPhase, found, Option.bind_some, if_pos phase, if_pos free]

-----------------------------------------------------------------------------------------
-- The active tasks and the drain
-----------------------------------------------------------------------------------------

/-- A task that was created and has not ended. -/
def State.Unfinished (state : State) (number : Nat) : Prop :=
  ∃ task, state.tasks[number]? = some task ∧ task.phase ≠ .done

/-- Whether `drain` has returned. -/
def Main.hasDrained : Main → Bool
  | .drained => true
  | .exited => true
  | _ => false

/-- The set of active tasks and the drain miss no task that has not ended. -/
structure Tracked (state : State) : Prop where
  active : ∀ number, state.Unfinished number → number ∈ state.activeTasks
  stopped : state.main ≠ .waiting → state.main ≠ .stopping → state.loop = .cancelled
  gathered
    : ∀ tasks, state.main = .draining tasks →
        ∀ number, state.Unfinished number → number ∈ tasks
  drained : state.main.hasDrained = true → ∀ number, ¬ state.Unfinished number

theorem tracked_initial : Tracked (.initial maxWorkers) := by
  have none_unfinished (number : Nat) : ¬ (State.initial maxWorkers).Unfinished number := by
    intro unfinished
    obtain ⟨task, found, _⟩ := unfinished
    cases found
  refine ⟨fun number unfinished => ?_, fun waiting => ?_, fun tasks draining => ?_, ?_⟩
  · exact absurd unfinished (none_unfinished number)
  · exact absurd rfl waiting
  · cases draining
  · exact fun _ => none_unfinished

/-- A task that moves was unfinished, and no other task is touched. -/
theorem moved_unfinished {state : State} {number : Nat} {task : Task}
    (found : state.tasks[number]? = some task) (live : task.phase ≠ .done) (phase : TaskPhase)
    {other : Nat} (unfinished : (state.moved number task phase).Unfinished other)
    : state.Unfinished other := by
  obtain ⟨moved, same, undone⟩ := unfinished
  rw [State.moved, List.getElem?_set] at same
  split at same
  · next own =>
      subst own
      exact ⟨task, found, live⟩
  · exact ⟨moved, same, undone⟩

/-- A step of a task alone. -/
theorem Tracked.of_fewer {state next : State} (tracked : Tracked state)
    (main : next.main = state.main) (loop : next.loop = state.loop)
    (activeTasks : next.activeTasks = state.activeTasks)
    (fewer : ∀ number, next.Unfinished number → state.Unfinished number)
    : Tracked next := by
  refine ⟨fun number unfinished => ?_, ?_, fun tasks draining number unfinished => ?_, ?_⟩
  · rw [activeTasks]
    exact tracked.active number (fewer number unfinished)
  · rw [main, loop]
    exact tracked.stopped
  · exact tracked.gathered tasks (main ▸ draining) number (fewer number unfinished)
  · intro drained number unfinished
    rw [main] at drained
    exact tracked.drained drained number (fewer number unfinished)

/-- Before the loops are cancelled the shutdown has not gone past the signal. -/
theorem Tracked.running {state : State} (tracked : Tracked state)
    (live : state.loop ≠ .cancelled)
    : state.main = .waiting ∨ state.main = .stopping := by
  by_contra stopped
  rw [not_or] at stopped
  exact live (tracked.stopped stopped.1 stopped.2)

/-- After a spawn the unfinished tasks are those before it and the new ones. -/
theorem spawnAll_unfinished {jobs : List JobPayload} {state : State} {number : Nat}
    (unfinished : (jobs.foldl State.spawn state).Unfinished number)
    : state.Unfinished number
      ∨ number ∈ Finset.Ico state.tasks.length (state.tasks.length + jobs.length) := by
  rw [spawnAll_eq] at unfinished
  obtain ⟨task, found, live⟩ := unfinished
  rcases Nat.lt_or_ge number state.tasks.length with old | new
  · rw [List.getElem?_append_left old] at found
    exact Or.inl ⟨task, found, live⟩
  · have inside := (List.getElem?_eq_some_iff.mp found).1
    rw [List.length_append, List.length_map] at inside
    exact Or.inr (Finset.mem_Ico.mpr ⟨new, inside⟩)

/-- The drain may end when every task has. -/
theorem Tracked.drains {state : State} (tracked : Tracked state)
    (stopped : state.loop = .cancelled) {main : Main} (drained : main.hasDrained = true)
    (ended : ∀ number, ¬ state.Unfinished number)
    : Tracked { state with main } where
  active := tracked.active
  stopped := fun _ _ => stopped
  gathered := by
    intro tasks draining
    cases draining
    cases drained
  drained := fun _ => ended

/-- Every step keeps track of the tasks, by cases of the step. -/
theorem Tracked.step {state next : State} {event : Event} (tracked : Tracked state)
    (stepped : step repr maxWorkers state event = some next)
    : Tracked next := by
  cases step_takes stepped with
  | sleep | requestEnds | signalAgain =>
      exact tracked.of_fewer rfl rfl rfl (fun _ unfinished => unfinished)
  | ask ready capacity =>
      refine ⟨tracked.active, ?_, tracked.gathered, tracked.drained⟩
      intro waiting stopping
      exact absurd (tracked.stopped waiting stopping) (by simp [ready])
  | @resume jobs awaiting ended =>
      have running := tracked.running (by simp [awaiting])
      have spawned := @spawnAll_unfinished (jobs.getD []) { state with
        loop := .ready, thread := .idle, received := state.received ++ jobs.getD [] }
      rw [spawnAll_eq] at spawned ⊢
      refine ⟨?_, ?_, ?_, ?_⟩
      · intro number unfinished
        rcases spawned unfinished with old | new
        · exact Finset.mem_union_left _ (tracked.active number old)
        · exact Finset.mem_union_right _ new
      · intro waiting stopping
        exact (running.elim waiting stopping).elim
      · intro tasks draining
        rcases running with running | running <;> cases running.symm.trans draining
      · intro drained
        rcases running with running | running <;> simp [running, Main.hasDrained] at drained
  | @acquire number task permits found phase free =>
      exact tracked.of_fewer rfl rfl rfl
        (fun _ => moved_unfinished found (by simp [phase]) .queued)
  | @call number task found phase thread =>
      exact tracked.of_fewer rfl rfl rfl
        (fun _ => moved_unfinished found (by simp [phase]) .executing)
  | @returns number task env found phase returned =>
      exact tracked.of_fewer rfl rfl rfl
        (fun _ => moved_unfinished found (by simp [phase]) .returned)
  | @finish number task found phase =>
      exact tracked.of_fewer rfl rfl rfl
        (fun _ => moved_unfinished found (by simp [phase]) .done)
  | @discard number task found phase =>
      refine ⟨?_, tracked.stopped, tracked.gathered, tracked.drained⟩
      intro other unfinished
      refine Finset.mem_erase.mpr ⟨?_, tracked.active other unfinished⟩
      rintro rfl
      obtain ⟨same, again, live⟩ := unfinished
      cases found.symm.trans again
      exact live phase
  | signal waiting =>
      refine ⟨tracked.active, fun _ stopping => ?_, fun tasks draining => ?_, fun drained => ?_⟩
      · exact absurd rfl stopping
      · cases draining
      · cases drained
  | cancel stopping =>
      refine ⟨tracked.active, fun _ _ => rfl, fun tasks draining => ?_, fun drained => ?_⟩
      · cases draining
      · cases drained
  | drainNothing cancelling idle =>
      have stopped := tracked.stopped (by simp [cancelling]) (by simp [cancelling])
      refine tracked.drains stopped rfl (fun number unfinished => ?_)
      have active := tracked.active number unfinished
      rw [idle] at active
      exact Finset.notMem_empty number active
  | drain cancelling =>
      have stopped := tracked.stopped (by simp [cancelling]) (by simp [cancelling])
      refine ⟨tracked.active, fun _ _ => stopped, fun tasks draining => ?_, fun drained => ?_⟩
      · cases draining
        exact tracked.active
      · cases drained
  | @drainReturns tasks draining all =>
      have stopped := tracked.stopped (by simp [draining]) (by simp [draining])
      refine tracked.drains stopped rfl (fun number unfinished => ?_)
      have ended := all number (tracked.gathered tasks draining number unfinished)
      obtain ⟨task, found, live⟩ := unfinished
      rw [State.isDone, found] at ended
      exact live (of_decide_eq_true ended)
  | exit drained ended =>
      have stopped := tracked.stopped (by simp [drained]) (by simp [drained])
      exact tracked.drains stopped rfl (tracked.drained (by rw [drained]; rfl))

-----------------------------------------------------------------------------------------
-- What steps leave as it is
-----------------------------------------------------------------------------------------

def Task.unfinished (task : Task) : Bool := decide (task.phase ≠ .done)

/-- The number of tasks that have not ended. -/
def State.unfinishedTasks (state : State) : Nat := state.tasks.countP Task.unfinished

/-- Whether an event is none of the poll loop's. -/
def Event.quiet : Event → Bool
  | .turn => false
  | .requestEnds _ => false
  | .resume => false
  | .cancel => false
  | _ => true

theorem moved_unfinishedTasks {state : State} {number : Nat} {task : Task}
    (found : state.tasks[number]? = some task) (live : task.phase ≠ .done) (phase : TaskPhase)
    : (state.moved number task phase).unfinishedTasks ≤ state.unfinishedTasks := by
  have count := moved_countP found phase Task.unfinished
  rw [if_pos (show task.unfinished = true from decide_eq_true live)] at count
  unfold State.unfinishedTasks
  split at count <;> omega

/-- Other events than the poll loop's leave the loop alone; they only end tasks. -/
theorem quiet_step {state next : State} {event : Event} (quiet : event.quiet = true)
    (stepped : step repr maxWorkers state event = some next)
    : next.loop = state.loop
      ∧ next.thread = state.thread
      ∧ next.received = state.received
      ∧ next.unfinishedTasks ≤ state.unfinishedTasks := by
  cases step_takes stepped with
  | sleep | ask | requestEnds | resume | cancel => cases quiet
  | discard | signal | signalAgain | drainNothing | drain | drainReturns | exit =>
      exact ⟨rfl, rfl, rfl, le_refl _⟩
  | acquire found phase free =>
      exact ⟨rfl, rfl, rfl, moved_unfinishedTasks found (by simp [phase]) .queued⟩
  | call found phase thread =>
      exact ⟨rfl, rfl, rfl, moved_unfinishedTasks found (by simp [phase]) .executing⟩
  | returns found phase returned =>
      exact ⟨rfl, rfl, rfl, moved_unfinishedTasks found (by simp [phase]) .returned⟩
  | finish found phase =>
      exact ⟨rfl, rfl, rfl, moved_unfinishedTasks found (by simp [phase]) .done⟩

/-- The poll loop goes on with one new task for each job of its response. -/
theorem resume_step {state next : State}
    (stepped : step repr maxWorkers state .resume = some next)
    : ∃ jobs,
        state.loop = .awaiting
        ∧ state.thread = .ended jobs
        ∧ next.loop = .ready
        ∧ next.thread = .idle
        ∧ next.received = state.received ++ jobs.getD []
        ∧ next.unfinishedTasks = state.unfinishedTasks + (jobs.getD []).length := by
  cases step_takes stepped with
  | @resume jobs awaiting ended =>
      refine ⟨jobs, awaiting, ended, ?_⟩
      rw [spawnAll_eq]
      refine ⟨rfl, rfl, rfl, ?_⟩
      rw [State.unfinishedTasks, List.countP_append, List.countP_map]
      simp [State.unfinishedTasks, Task.unfinished, Function.comp_def]

/-- A turn of a ready loop sends a request or leaves everything as it is. -/
theorem turn_step {state next : State} (stepped : step repr maxWorkers state .turn = some next)
    : state.loop = .ready
      ∧ (next = state ∨ next = { state with loop := .awaiting, thread := .asking }) := by
  cases step_takes stepped with
  | sleep ready => exact ⟨ready, Or.inl rfl⟩
  | ask ready capacity => exact ⟨ready, Or.inr rfl⟩

theorem requestEnds_step {state next : State} {jobs : Option (List JobPayload)}
    (stepped : step repr maxWorkers state (.requestEnds jobs) = some next)
    : state.thread = .asking ∧ next = { state with thread := .ended jobs } := by
  cases step_takes stepped with
  | requestEnds asking => exact ⟨asking, rfl⟩

theorem cancel_step {state next : State}
    (stepped : step repr maxWorkers state .cancel = some next)
    : next = { state with main := .cancelling, loop := .cancelled } := by
  cases step_takes stepped with
  | cancel stopping => rfl

-----------------------------------------------------------------------------------------
-- Every run
-----------------------------------------------------------------------------------------

theorem run_accounts {events : List Event} {last : State}
    (ran : run (step repr maxWorkers) (.initial maxWorkers) events = some last)
    : Accounts maxWorkers last :=
  run_invariant (fun accounts stepped => accounts.step stepped) accounts_initial ran

theorem run_tracked {events : List Event} {last : State}
    (ran : run (step repr maxWorkers) (.initial maxWorkers) events = some last)
    : Tracked last :=
  run_invariant (fun tracked stepped => tracked.step stepped) tracked_initial ran

/-- What the tasks show of their jobs comes in the order of the tasks. -/
theorem shown_sublist {view : Task → Option JobPayload}
    (own : ∀ task job, view task = some job → job = task.job) (tasks : List Task)
    : (tasks.filterMap view).Sublist (tasks.map Task.job) := by
  induction tasks with
  | nil => exact .slnil
  | cons task rest ih =>
      cases shown : view task with
      | none =>
          rw [List.filterMap_cons_none shown]
          exact ih.cons task.job
      | some job =>
          rw [List.filterMap_cons_some shown, own task job shown]
          exact ih.cons_cons task.job

theorem called?_own (task : Task) (job : JobPayload) (called : task.called? = some job)
    : job = task.job := by
  unfold Task.called? at called
  split at called <;> cases called
  rfl

/-- When no task is unfinished, every received job has been called and has returned. -/
theorem Accounts.completed {state : State} (accounts : Accounts maxWorkers state)
    (finished : ∀ number, ¬ state.Unfinished number)
    : state.called.Perm state.received ∧ state.returned.Perm state.received := by
  have done : ∀ task ∈ state.tasks, task.phase = .done := by
    intro task member
    obtain ⟨number, found⟩ := List.mem_iff_getElem?.mp member
    by_contra live
    exact finished number ⟨task, found, live⟩
  have all (view : Task → Option JobPayload)
      (shown : ∀ task, task.phase = .done → view task = some task.job)
      : state.tasks.filterMap view = state.received := by
    rw [← accounts.spawned, ← List.filterMap_eq_map]
    exact List.filterMap_congr (fun task member => shown task (done task member))
  constructor
  · rw [← all Task.called? (fun task phase => by simp only [Task.called?, phase])]
    exact accounts.called
  · rw [← all Task.returned? (fun task phase => by simp only [Task.returned?, phase])]
    exact accounts.returned

/-- In every run at most `max_workers` calls execute, only received jobs are called, each at
most once, and the active tasks contain every task that has not ended; once `drain` has
returned, every received job has been called exactly once and has returned.
-/
theorem received_jobs_run_once {events : List Event} {last : State}
    (ran : run (step repr maxWorkers) (.initial maxWorkers) events = some last)
    : last.executing ≤ maxWorkers
      ∧ (∀ number task,
          last.tasks[number]? = some task → task.phase ≠ .done → number ∈ last.activeTasks)
      ∧ (last.called ⊆ last.received)
      ∧ ((last.received.map JobPayload.jobId).Nodup →
          (∀ job ∈ last.received,
            (last.called.map JobPayload.jobId).count job.jobId ≤ 1)
          ∧ (last.main.hasDrained = true →
              ∀ job ∈ last.received,
                (last.called.map JobPayload.jobId).count job.jobId = 1
                ∧ job ∈ last.returned)) := by
  have accounts := run_accounts ran
  have tracked := run_tracked ran
  have among : List.Sublist (last.tasks.filterMap Task.called?) last.received := by
    rw [← accounts.spawned]
    exact shown_sublist called?_own last.tasks
  refine ⟨accounts.executing_le, ?_, ?_, ?_⟩
  · exact fun number task found live => tracked.active number ⟨task, found, live⟩
  · exact fun job called => among.subset (accounts.called.subset called)
  · intro distinct
    have once : (last.called.map JobPayload.jobId).Nodup :=
      ((accounts.called.map JobPayload.jobId).nodup_iff).mpr
        (distinct.sublist (among.map JobPayload.jobId))
    refine ⟨fun job _ => List.nodup_iff_count_le_one.mp once job.jobId, ?_⟩
    intro drained job member
    obtain ⟨called, returned⟩ := accounts.completed (tracked.drained drained)
    exact ⟨List.count_eq_one_of_mem once
      (List.mem_map_of_mem (called.symm.subset member)), returned.symm.subset member⟩

namespace Sample

def job (jobId : Fin (2 ^ 128)) : JobPayload :=
  {
    jobId := ⟨jobId⟩
    pipelineId := ⟨21⟩
    connector := "razorpay_orders"
    params := []
    credentials := []
    startTime := none
    endTime := none
    state := []
  }

/-- A source with one page without items. -/
def env : JobEnv :=
  {
    configure := fun _ _ => .ok {}
    destination := .ok ()
    host := Host.utc
    now := default
    clock := fun _ => default
    replies := [.ok (.dict [])]
    load := fun _ _ => .ok none
  }

/-- A job of a task from its permit to its end. -/
def works (number : Nat) : List Event :=
  [.acquire number, .call number, .returns number env, .finish number]

/-- The second of two jobs that came together gets its permit after the shutdown has begun. -/
def shutdown : List Event :=
  [.turn, .requestEnds (some [job 31, job 32]), .resume, .signal, .turn, .cancel, .drain]
  ++ works 0 ++ works 1 ++ [.drainReturns, .exit]

end Sample

theorem received_jobs_run_once_shutdown
    : ∃ last,
        run (step id 1) (.initial 1) Sample.shutdown = some last
        ∧ last.main.hasDrained = true
        ∧ last.received.map JobPayload.jobId = [⟨31⟩, ⟨32⟩]
        ∧ ∀ job ∈ last.received,
            (last.called.map JobPayload.jobId).count job.jobId = 1 ∧ job ∈ last.returned :=
  ⟨_, rfl, rfl, rfl,
    ((@received_jobs_run_once id 1 Sample.shutdown _ rfl).2.2.2 (by decide)).2 rfl⟩

end Turbocat.Agent.Process
