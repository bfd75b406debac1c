import ThorChat.Alamofire.Session

/-!
# The Task Map Agrees with the Tasks

What the session records about its tasks: whose they are, which of their two last events have
come, and which completion closures wait for metrics. The records of `RequestTaskMap` agree with
the tasks in every state (`Registry.Consistent`), so none of its `fatalError`s is reached.
-/

namespace ThorChat.Alamofire

open ThorChat.Runtime
open ThorChat.Sources

/-- Both events of the task have been delivered, so its request has been told. -/
def URLSessionTask.delivered (task : URLSessionTask) : Bool :=
  task.completed && task.metricsGathered

/-- What a session records about its tasks. -/
structure Registry where
  tasksOf : Nat → List Nat
  tasks : Nat → URLSessionTask
  nextTask : Nat
  map : RequestTaskMap
  waitingCompletions : Nat → Option (Option Nat × Option AFError)

namespace Registry

/-- The task exists and its request is still waiting for it. -/
def live (registry : Registry) (t : Nat) : Bool :=
  decide (t < registry.nextTask) && !(registry.tasks t).delivered

/-- The records agree with the tasks. -/
structure Consistent (registry : Registry) : Prop where
  /-- A task in the list of a request was made for that request. -/
  owned : ∀ r, ∀ t ∈ registry.tasksOf r,
    t < registry.nextTask ∧ (registry.tasks t).request = r
  only : ∀ t, t < registry.nextTask → registry.tasksOf (registry.tasks t).request = [t]
  /-- A number that no task has yet does not run. -/
  idle : ∀ t, (registry.tasks t).running = true → t < registry.nextTask
  tasksToRequests : ∀ t, registry.map.tasksToRequests t =
    if registry.live t then some (registry.tasks t).request else none
  taskEvents : ∀ t, registry.map.taskEvents t =
    if registry.live t then
      some ⟨(registry.tasks t).completed, (registry.tasks t).metricsGathered⟩
    else none
  requestsToTasks : ∀ r t, registry.map.requestsToTasks r = some t ↔
    t ∈ registry.tasksOf r ∧ registry.live t = true
  /-- A completion closure waits for metrics between the two last events of its task. -/
  waiting : ∀ t, registry.waitingCompletions t =
    if registry.live t && (registry.tasks t).completed then
      some (some (registry.tasks t).request, (registry.tasks t).error)
    else none

variable {registry : Registry} {t r : Nat}

/-- Only a task that was made is live. -/
theorem lt_of_live (hlive : registry.live t = true) : t < registry.nextTask := by
  simp only [live, Bool.and_eq_true, decide_eq_true_eq] at hlive
  exact hlive.1

/-- A live task becomes `task`, and the records follow: it is forgotten once it is delivered, and
its completion closure waits while it is completed without metrics. -/
def settle (t : Nat) (task : URLSessionTask) (registry : Registry) : Registry :=
  { registry with
    tasks := Function.update registry.tasks t task
    map :=
      if task.delivered then
        { tasksToRequests := Function.update registry.map.tasksToRequests t none
          requestsToTasks := Function.update registry.map.requestsToTasks task.request none
          taskEvents := Function.update registry.map.taskEvents t none }
      else
        { registry.map with
          taskEvents := Function.update registry.map.taskEvents t
            (some ⟨task.completed, task.metricsGathered⟩) }
    waitingCompletions := Function.update registry.waitingCompletions t
      (if task.completed && !task.metricsGathered then some (some task.request, task.error)
      else none) }

/-- Settling one task says nothing about whether another is live. -/
theorem live_settle (hlive : registry.live t = true) (task : URLSessionTask) (t' : Nat) :
    (registry.settle t task).live t' = if t' = t then !task.delivered else registry.live t' := by
  by_cases heq : t' = t
  · simp [live, settle, heq, lt_of_live hlive]
  · simp [live, settle, heq]

/-- A task keeps its request. -/
theorem request_settle {task : URLSessionTask}
    (hrequest : task.request = (registry.tasks t).request) (t' : Nat) :
    ((registry.settle t task).tasks t').request = (registry.tasks t').request := by
  by_cases heq : t' = t
  · subst heq
    simp [settle, hrequest]
  · simp [settle, Function.update_of_ne heq]

/-- A delivered task is the only one of its request, which has none to wait for any more. -/
theorem Consistent.requestsToTasks_settle (h : registry.Consistent)
    (hlive : registry.live t = true) {task : URLSessionTask}
    (hrequest : task.request = (registry.tasks t).request) (r t' : Nat) :
    (registry.settle t task).map.requestsToTasks r = some t' ↔
      t' ∈ registry.tasksOf r ∧ (registry.settle t task).live t' = true := by
  rw [live_settle hlive]
  have hold := h.requestsToTasks r t'
  -- The pair of task and request is dropped from the map only when the task is delivered
  cases hd : task.delivered with
  | false =>
    by_cases heq : t' = t
    · rw [heq, hlive] at hold
      simpa [settle, hd, heq] using hold
    · simpa [settle, hd, heq] using hold
  | true =>
    by_cases hr : r = task.request
    · have honly := h.only t (lt_of_live hlive)
      rw [← hrequest, ← hr] at honly
      by_cases heq : t' = t
      · simp [settle, hd, hr, heq]
      · simp [settle, hd, hr, heq]
        simp [← hr, honly, heq]
    -- Another request keeps its own task
    · by_cases heq : t' = t
      · -- The task is of another request
        have hnot : t' ∉ registry.tasksOf r := fun hmem =>
          hr ((h.owned r t' hmem).2.symm.trans (heq ▸ hrequest.symm))
        simpa [settle, hd, Function.update_of_ne hr, heq, heq ▸ hnot, hlive] using hold
      · simpa [settle, hd, Function.update_of_ne hr, heq] using hold

/-- The records agree with the tasks again once the changed task is settled. -/
theorem Consistent.settle (h : registry.Consistent) (hlive : registry.live t = true)
    (task : URLSessionTask) (hrequest : task.request = (registry.tasks t).request) :
    (registry.settle t task).Consistent := by
  -- The task changes in one place of each table, so every field is the old one elsewhere
  apply Consistent.mk
  case owned =>
    intro r t' ht'
    rw [request_settle hrequest]
    exact h.owned r t' ht'
  case only =>
    intro t' ht'
    rw [request_settle hrequest]
    exact h.only t' ht'
  case idle =>
    intro t' hrunning
    by_cases heq : t' = t
    · show t' < registry.nextTask
      exact heq ▸ lt_of_live hlive
    · simp only [Registry.settle, Function.update_of_ne heq] at hrunning
      exact h.idle t' hrunning
  case tasksToRequests =>
    intro t'
    rw [live_settle hlive, request_settle hrequest]
    have hold := h.tasksToRequests t'
    by_cases heq : t' = t
    · subst heq
      rw [hlive] at hold
      cases hd : task.delivered <;> simp [Registry.settle, hd, hold]
    · cases hd : task.delivered <;> simp [Registry.settle, hd, heq, hold]
  case taskEvents =>
    intro t'
    rw [live_settle hlive]
    by_cases heq : t' = t
    · subst heq
      cases hd : task.delivered <;> simp [Registry.settle, hd]
    · have hold := h.taskEvents t'
      cases hd : task.delivered <;> simp [Registry.settle, hd, heq, hold]
  case requestsToTasks => exact h.requestsToTasks_settle hlive hrequest
  case waiting =>
    intro t'
    rw [live_settle hlive]
    by_cases heq : t' = t
    · subst heq
      -- All four states of the two events: the closure waits in just one of them
      cases hc : task.completed <;> cases hm : task.metricsGathered <;>
        simp [Registry.settle, URLSessionTask.delivered, hc, hm]
    · simpa [Registry.settle, heq] using h.waiting t'

/-- A change that the records are not about. -/
theorem Consistent.writeTask (h : registry.Consistent) (hlive : registry.live t = true)
    (task : URLSessionTask) (hrequest : task.request = (registry.tasks t).request)
    (hcompleted : task.completed = (registry.tasks t).completed)
    (hmetrics : task.metricsGathered = (registry.tasks t).metricsGathered)
    (herror : task.error = (registry.tasks t).error) :
    Consistent { registry with tasks := Function.update registry.tasks t task } := by
  have hnot : task.delivered = false := by
    have hold := hlive
    simp only [live, Bool.and_eq_true, Bool.not_eq_true'] at hold
    simpa only [URLSessionTask.delivered, hcompleted, hmetrics] using hold.2
  have hevents := h.taskEvents t
  have hwaiting := h.waiting t
  rw [hlive, if_pos rfl, ← hcompleted, ← hmetrics] at hevents
  -- A change of this kind settles the task with the very records it has, so `settle` covers it
  have heq : { registry with tasks := Function.update registry.tasks t task } =
      registry.settle t task := by
    have hsame : (if task.completed && !task.metricsGathered then
        some (some task.request, task.error) else none) = registry.waitingCompletions t := by
      rw [hwaiting, hlive, hcompleted, hrequest, herror]
      cases hc : (registry.tasks t).completed with
      | false => rfl
      | true =>
        have : task.metricsGathered = false := by
          simpa [URLSessionTask.delivered, hcompleted, hc] using hnot
        simp [this]
    simp only [Registry.settle, hnot, hsame, ← hevents, Function.update_eq_self,
      Bool.false_eq_true, if_false]
  rw [heq]
  exact h.settle hlive task hrequest

/-- A new task for the request. -/
def create (r : Nat) (registry : Registry) : Registry :=
  { registry with
    tasksOf := Function.update registry.tasksOf r [registry.nextTask]
    tasks := Function.update registry.tasks registry.nextTask { request := r }
    nextTask := registry.nextTask + 1
    map := registry.map.associate r registry.nextTask }

/-- A new task is live until its two last events are in, and the others are what they were. -/
theorem live_create (r t : Nat) :
    (registry.create r).live t = if t = registry.nextTask then true else registry.live t := by
  by_cases heq : t = registry.nextTask
  · simp [live, create, heq, URLSessionTask.delivered]
  -- The bound moves by one, which only the new number notices
  · have hlt : t < registry.nextTask + 1 ↔ t < registry.nextTask := by omega
    simp only [live, create, Function.update_of_ne heq, heq, if_false, hlt]

/-- The tasks there are belong to other requests. -/
theorem Consistent.request_ne (h : registry.Consistent) (hnone : registry.tasksOf r = [])
    (ht : t < registry.nextTask) : (registry.tasks t).request ≠ r := by
  intro heq
  have hnotnone := h.only t ht
  rw [heq, hnone] at hnotnone
  exact absurd hnotnone (by simp)

/-- No list of tasks has the number of the task to come. -/
theorem Consistent.nextTask_not_mem (h : registry.Consistent) (r : Nat) :
    registry.nextTask ∉ registry.tasksOf r := fun hmem =>
  absurd (h.owned r _ hmem).1 (Nat.lt_irrefl _)

/-- The request waits for its new task, and every other request for the one it waited for. -/
theorem Consistent.requestsToTasks_create (h : registry.Consistent) (r r' t : Nat) :
    (registry.create r).map.requestsToTasks r' = some t ↔
      t ∈ (registry.create r).tasksOf r' ∧ (registry.create r).live t = true := by
  rw [live_create]
  by_cases hr : r' = r
  · subst hr
    simp only [Registry.create, RequestTaskMap.associate, Function.update_self,
      Option.some.injEq, List.mem_singleton]
    constructor
    · intro heq
      simp [heq]
    · exact fun hmem => hmem.1.symm
  · simp only [Registry.create, RequestTaskMap.associate, Function.update_of_ne hr,
      h.requestsToTasks r' t]
    by_cases heq : t = registry.nextTask
    · simp [heq, h.nextTask_not_mem r']
    · simp [heq]

/-- A request without a task gets its first, and the records follow. -/
theorem Consistent.create (h : registry.Consistent) (hnone : registry.tasksOf r = []) :
    (registry.create r).Consistent := by
  apply Consistent.mk
  case owned =>
    intro r' t ht
    by_cases hr : r' = r
    · subst hr
      simp only [Registry.create, Function.update_self, List.mem_singleton] at ht
      simp [Registry.create, ht]
    · simp only [Registry.create, Function.update_of_ne hr] at ht
      obtain ⟨hlt, hreq⟩ := h.owned r' t ht
      -- An old task keeps its entry, for its number is not the new one
      have hne : t ≠ registry.nextTask := by omega
      refine ⟨Nat.lt_succ_of_lt hlt, ?_⟩
      simpa only [Registry.create, Function.update_of_ne hne] using hreq
  case only =>
    intro t ht
    by_cases heq : t = registry.nextTask
    · simp [Registry.create, heq]
    · have hlt : t < registry.nextTask := by
        simp only [Registry.create] at ht
        omega
      simp only [Registry.create, Function.update_of_ne heq,
        Function.update_of_ne (h.request_ne hnone hlt)]
      exact h.only t hlt
  case idle =>
    intro t hrunning
    by_cases heq : t = registry.nextTask
    · simp [Registry.create, heq]
    · simp only [Registry.create, Function.update_of_ne heq] at hrunning
      exact Nat.lt_succ_of_lt (h.idle t hrunning)
  case tasksToRequests =>
    intro t
    rw [live_create]
    by_cases heq : t = registry.nextTask
    · simp [Registry.create, heq, RequestTaskMap.associate]
    · simpa [Registry.create, heq, RequestTaskMap.associate] using h.tasksToRequests t
  case taskEvents =>
    intro t
    rw [live_create]
    by_cases heq : t = registry.nextTask
    · simp [Registry.create, heq, RequestTaskMap.associate]
    · simpa [Registry.create, heq, RequestTaskMap.associate] using h.taskEvents t
  case requestsToTasks => exact h.requestsToTasks_create r
  case waiting =>
    intro t
    rw [live_create]
    by_cases heq : t = registry.nextTask
    -- The number of the task to come is not live yet, so no closure waits under it
    · have hnew : registry.live registry.nextTask = false := by simp [live]
      simp [Registry.create, heq, h.waiting, hnew]
    · simpa [Registry.create, heq] using h.waiting t

/-! ## The two last events of a task -/

/-- After `urlSession(_:task:didFinishCollecting:)` the map is as it should be. -/
theorem Consistent.gatherMetrics (h : registry.Consistent) (hlive : registry.live t = true)
    (hopen : (registry.tasks t).metricsGathered = false) :
    registry.map.disassociateIfNecessaryAfterGatheringMetricsForTask t =
      some ((registry.tasks t).completed,
        (registry.settle t { registry.tasks t with metricsGathered := true }).map) := by
  have hevents := h.taskEvents t
  have hrequest := h.tasksToRequests t
  rw [hlive, if_pos rfl, hopen] at hevents
  rw [hlive, if_pos rfl] at hrequest
  unfold RequestTaskMap.disassociateIfNecessaryAfterGatheringMetricsForTask
  -- The map forgets the task if it was completed before, and else notes the metrics. Its
  -- `fatalError`s are for a task it does not know and for metrics gathered twice
  cases hc : (registry.tasks t).completed with
  | false => simp [hevents, hc, Registry.settle, URLSessionTask.delivered]
  | true =>
    simp [hevents, hc, Registry.settle, URLSessionTask.delivered, RequestTaskMap.remove, hrequest]

/-- After `urlSession(_:task:didCompleteWithError:)` the map is as it should be. -/
theorem Consistent.complete (h : registry.Consistent) (hlive : registry.live t = true)
    (hopen : (registry.tasks t).completed = false) (error : Option AFError) :
    registry.map.disassociateIfNecessaryAfterCompletingTask t =
      some ((registry.tasks t).metricsGathered,
        (registry.settle t { registry.tasks t with completed := true, error := error }).map) := by
  have hevents := h.taskEvents t
  have hrequest := h.tasksToRequests t
  rw [hlive, if_pos rfl, hopen] at hevents
  rw [hlive, if_pos rfl] at hrequest
  unfold RequestTaskMap.disassociateIfNecessaryAfterCompletingTask
  -- The same in the other order, except that the error of the task comes with it
  cases hm : (registry.tasks t).metricsGathered with
  | false => simp [hevents, hm, Registry.settle, URLSessionTask.delivered]
  | true =>
    simp [hevents, hm, Registry.settle, URLSessionTask.delivered, RequestTaskMap.remove, hrequest]

end Registry

namespace Session

/-- What the session records about its tasks. -/
def registry (session : Session) : Registry where
  tasksOf r := (session.requests r).tasks
  tasks := session.tasks
  nextTask := session.nextTask
  map := session.requestTaskMap
  waitingCompletions := session.waitingCompletions

variable {session : Session} {r t : Nat}

/-! ## What leaves the records alone -/

@[simp] theorem registry_async (block : Block) :
    (session.async block).registry = session.registry := rfl

/-- A request is changed, but not the list of its tasks. -/
theorem registry_write {f : Request → Request}
    (hf : (f (session.requests r)).tasks = (session.requests r).tasks) :
    (session.write r f).registry = session.registry := by
  have htasks : ∀ r', (Function.update session.requests r (f (session.requests r)) r').tasks =
      (session.requests r').tasks := by
    intro r'
    by_cases hr : r' = r
    · subst hr
      rw [Function.update_self, hf]
    · rw [Function.update_of_ne hr]
  simp only [registry, write, htasks]

/-- Nothing on the way from the last event of a task to its handlers is written into the map. -/
@[simp] theorem registry_processNext :
    (session.processNextResponseSerializer r).registry = session.registry := by
  unfold processNextResponseSerializer
  split <;> rfl

@[simp] theorem registry_cleanup : (session.cleanup r).registry = session.registry := by
  unfold cleanup
  split <;> rfl

@[simp] theorem registry_completeResponseSerializers :
    (session.completeResponseSerializers r).registry = session.registry := by
  unfold completeResponseSerializers
  rw [registry_cleanup]
  -- The write is taken out by a name, for the queues around it are no part of the records
  generalize hnew : session.write r _ = new
  have hregistry : new.registry = session.registry := hnew ▸ registry_write rfl
  exact hregistry

@[simp] theorem registry_responseSerializerDidComplete (completion : SerializerCompletion) :
    (session.responseSerializerDidComplete r completion).registry = session.registry :=
  registry_processNext.trans (registry_write rfl)

@[simp] theorem registry_appendResponseSerializer {handler : Nat} :
    (session.appendResponseSerializer r handler).registry = session.registry := by
  unfold appendResponseSerializer
  dsimp only
  -- Two tests, each of which may post a block
  split <;> split
  · exact (registry_async _).trans ((registry_async _).trans (registry_write rfl))
  · exact (registry_async _).trans (registry_write rfl)
  · exact (registry_async _).trans (registry_write rfl)
  · exact registry_write rfl

@[simp] theorem registry_finish : (session.finish r).registry = session.registry := by
  unfold finish
  split
  · rfl
  · exact registry_processNext.trans (registry_write rfl)

@[simp] theorem registry_retryOrFinish (error : Option AFError) :
    (session.retryOrFinish r error).registry = session.registry := by
  cases error with
  | none => exact registry_finish
  | some error => rfl

@[simp] theorem registry_didFail (error : AFError) :
    (session.didFail r error).registry = session.registry :=
  (registry_retryOrFinish _).trans (registry_write rfl)

@[simp] theorem registry_didCompleteTask (error : Option AFError) :
    (session.didCompleteTask r error).registry = session.registry :=
  (registry_retryOrFinish _).trans (registry_write rfl)

@[simp] theorem registry_didParseResponse {handler : Nat} (result : AFResult) :
    (session.didParseResponse r handler result).registry = session.registry := by
  cases result with
  | success value => exact registry_responseSerializerDidComplete _
  | failure error => rfl

/-- The setup of a request comes before its task, so the map knows nothing of it. -/
@[simp] theorem registry_performSetupOperations (error : Option AFError) :
    (session.performSetupOperations r error).registry = session.registry := by
  unfold performSetupOperations
  split
  · rfl
  · dsimp only
    split <;> rfl

@[simp] theorem registry_performRequest :
    (session.performRequest r).registry = session.registry := by
  unfold performRequest
  split
  · exact registry_performSetupOperations _
  · rfl
  · exact registry_performSetupOperations _

@[simp] theorem registry_perform : (session.perform r).registry = session.registry := by
  unfold perform
  split <;> rfl

/-! ## What every step keeps -/

/-- Resuming a task is no event of the map. -/
theorem consistent_resumeTask (h : session.registry.Consistent)
    (hlive : session.registry.live t = true) : (session.resumeTask t).registry.Consistent :=
  h.writeTask hlive _ rfl rfl rfl rfl

/-- A request resumes its last task unless that one is completed already. -/
theorem consistent_resume (h : session.registry.Consistent) :
    (session.resume r).registry.Consistent := by
  have hwrite : ((session.write r fun request => { request with state := .resumed }).async
      (.eventMonitor r)).registry = session.registry :=
    (registry_async _).trans (registry_write rfl)
  have hconsistent : ((session.write r fun request => { request with state := .resumed }).async
      (.eventMonitor r)).registry.Consistent := hwrite ▸ h
  unfold resume
  split
  · dsimp only
    split
    · rename_i t ht
      split
      · exact hconsistent
      · rename_i hcompleted
        refine consistent_resumeTask hconsistent ?_
        -- A task of the request that is not completed is live
        have hmem : t ∈ session.registry.tasksOf r := by
          simpa [registry, async, write] using List.mem_of_getLast? ht
        rw [hwrite]
        simp only [Registry.live, (h.owned r t hmem).1, decide_true, Bool.true_and,
          URLSessionTask.delivered, Bool.not_and, Bool.or_eq_true, Bool.not_eq_true']
        exact Or.inl (Bool.eq_false_iff.mpr hcompleted)
    · exact hconsistent
  · exact h

/-- The task made by the session is the one of `Registry.create`. -/
theorem registry_createTask (hnone : (session.requests r).tasks = []) :
    (session.createTask r).registry = session.registry.create r := by
  have htasks : ∀ r', ((session.createTask r).requests r').tasks =
      Function.update session.registry.tasksOf r [session.registry.nextTask] r' := by
    intro r'
    by_cases hr : r' = r
    · subst hr
      simp [createTask, write, hnone, registry]
    · simp [createTask, write, hr, registry]
  rw [registry]
  simp only [htasks]
  rfl

/-- The one block that changes the map: a task is made for a request without one. -/
theorem consistent_didCreateURLRequest {session' : Session} (h : session.registry.Consistent)
    (hnone : (session.requests r).tasks = [])
    (hs : session.didCreateURLRequest r = some session') : session'.registry.Consistent := by
  have hconsistent : (session.createTask r).registry.Consistent :=
    registry_createTask hnone ▸ h.create hnone
  have hlive : (session.createTask r).registry.live session.nextTask = true := by
    rw [registry_createTask hnone, Registry.live_create]
    exact if_pos rfl
  unfold didCreateURLRequest at hs
  split at hs
  · rw [Option.some.injEq] at hs
    exact hs ▸ h
  · split at hs
    · rw [Option.some.injEq] at hs
      rw [← hs]
      -- The new task is resumed in two of the five states, and it is live in all
      unfold updateStatesForTask
      split
      · exact hconsistent
      · exact hconsistent
      · exact consistent_resumeTask hconsistent hlive
      · exact hconsistent
      · exact consistent_resumeTask hconsistent hlive
    · exact absurd hs (by simp)

end Session

end ThorChat.Alamofire
