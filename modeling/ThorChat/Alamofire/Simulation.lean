import ThorChat.Alamofire.Registry
import ThorChat.Alamofire.RequestMachine

/-!
# Every Request Goes Its Own Way

Each operation of the session is, on the slice of the request it is about, the operation of
the same name on slices. So in every step of a session the slice of a request stays as it is or
takes a step of its own (`slice_step`), whatever the other requests do.
-/

namespace ThorChat.Alamofire

open ThorChat.Runtime
open ThorChat.Sources

namespace Session

variable {session : Session} {r t : Nat} {block : Block}

@[simp] theorem slice_request : (session.slice r).request = session.requests r := rfl

theorem slice_async_self (block : Block) (h : block.request = r) :
    (session.async block).slice r = (session.slice r).async block := by
  simp [slice, async, Slice.async, h]

/-- A write that leaves the list of tasks alone shows in the slice as the same write. -/
theorem slice_write_self {f : Request → Request}
    (hf : (f (session.requests r)).tasks = (session.requests r).tasks) :
    (session.write r f).slice r = { session.slice r with request := f (session.requests r) } := by
  simp [slice, write, hf]

/-- With one task in its list, a request sees a change of that task as a change of all of its
tasks. -/
theorem slice_writeTask_self (h : (session.requests r).tasks = [t])
    (f : URLSessionTask → URLSessionTask) :
    (session.writeTask t f).slice r =
      { session.slice r with tasks := (session.slice r).tasks.map f } := by
  simp [slice, writeTask, h]

theorem slice_processNext_self :
    (session.processNextResponseSerializer r).slice r =
      (session.slice r).processNextResponseSerializer := by
  unfold processNextResponseSerializer Slice.processNextResponseSerializer
  cases hnext : nextResponseSerializer (session.requests r) with
  | some handler => simp [slice, hnext]
  | none => simp [slice, hnext]

theorem slice_cleanup_self : (session.cleanup r).slice r = (session.slice r).cleanup := by
  unfold cleanup Slice.cleanup
  rw [slice_request]
  split
  · simp [slice]
  · rfl

/-- The completions posted to the main queue are all shown, for they are all of this request. -/
theorem slice_completeResponseSerializers_self
    (hmine : ∀ entry ∈ (session.requests r).responseSerializerCompletions, entry.1 = r) :
    (session.completeResponseSerializers r).slice r =
      (session.slice r).completeResponseSerializers := by
  have hposted : (session.requests r).responseSerializerCompletions.filter
      (fun entry => entry.1 = r) = (session.requests r).responseSerializerCompletions := by
    simpa using hmine
  -- The completions are posted before the file is removed, and neither reads what the other writes
  unfold completeResponseSerializers Slice.completeResponseSerializers
  rw [slice_cleanup_self]
  congr 1
  simp [slice, write, hposted]

theorem slice_responseSerializerDidComplete_self (completion : SerializerCompletion) :
    (session.responseSerializerDidComplete r completion).slice r =
      (session.slice r).responseSerializerDidComplete completion := by
  unfold responseSerializerDidComplete Slice.responseSerializerDidComplete
  rw [slice_processNext_self, slice_write_self rfl]
  rfl

/-- The response is that of the last task, in the session and in the slice. -/
theorem statusCode_slice : session.statusCode r = (session.slice r).statusCode := by
  simp only [statusCode, Slice.statusCode, slice, List.getLast?_map, Option.bind_map]
  rfl

theorem slice_serialize_self (serializer : JSONResponseSerializer) {handler : Nat} :
    (session.serialize serializer r handler).slice r =
      (session.slice r).serialize serializer r handler := by
  unfold serialize Slice.serialize
  rw [slice_async_self _ (by rfl), statusCode_slice]
  rfl

theorem slice_didParseResponse_self {handler : Nat} (result : AFResult) :
    (session.didParseResponse r handler result).slice r =
      (session.slice r).didParseResponse r handler result := by
  unfold didParseResponse Slice.didParseResponse
  rw [statusCode_slice]
  cases result with
  | success value => exact slice_responseSerializerDidComplete_self _
  | failure error => exact slice_async_self _ rfl

theorem slice_finish_self : (session.finish r).slice r = (session.slice r).finish := by
  unfold finish Slice.finish
  rw [slice_request]
  split
  · rfl
  · rw [slice_processNext_self, slice_write_self rfl]

/-- Without an error a request is finished at once; after one, the answer not to retry is posted
to the root queue first. -/
theorem slice_retryOrFinish_self (error : Option AFError) :
    (session.retryOrFinish r error).slice r = (session.slice r).retryOrFinish r error := by
  cases error with
  | none => exact slice_finish_self
  | some error => exact slice_async_self _ rfl

theorem slice_didFail_self (error : AFError) :
    (session.didFail r error).slice r = (session.slice r).didFail r error := by
  unfold didFail
  rw [slice_retryOrFinish_self, slice_write_self rfl]
  rfl

theorem slice_didCompleteTask_self (error : Option AFError) :
    (session.didCompleteTask r error).slice r = (session.slice r).didCompleteTask r error := by
  unfold didCompleteTask Slice.didCompleteTask
  dsimp only
  rw [slice_retryOrFinish_self, slice_write_self rfl]
  simp [write]

theorem slice_resumeTask_self (h : (session.requests r).tasks = [t]) :
    (session.resumeTask t).slice r = (session.slice r).resumeTask :=
  slice_writeTask_self h _

/-- Resuming a request: the event monitor is told, and the last task is resumed with it. -/
theorem slice_resume_self (hone : ∀ t ∈ (session.requests r).tasks,
    (session.requests r).tasks = [t]) :
    (session.resume r).slice r = (session.slice r).resume r := by
  unfold resume Slice.resume
  rw [slice_request]
  split
  -- The task is looked up in the session as it is after the write, so that session gets a name
  · generalize hnew : (session.write r fun request =>
      { request with state := .resumed }).async (.eventMonitor r) = new
    have hslice : new.slice r = Slice.async (.eventMonitor r) { session.slice r with
        request := { session.requests r with state := .resumed } } := by
      rw [← hnew, slice_async_self _ (by rfl), slice_write_self rfl]
    have htasks : (new.requests r).tasks = (session.requests r).tasks := by
      simp [← hnew, async, write]
    dsimp only
    rw [← hslice]
    cases hlast : (new.requests r).tasks.getLast? with
    | none =>
      have hnone : (new.slice r).tasks.getLast? = none := by
        simp only [slice, List.getLast?_map, hlast, Option.map_none]
      rw [hnone]
    | some t =>
      have hsome : (new.slice r).tasks.getLast? = some (new.tasks t) := by
        simp only [slice, List.getLast?_map, hlast, Option.map_some]
      -- The write left the list of tasks alone, so the task found is the only one
      have hsingle : (new.requests r).tasks = [t] := by
        have hmem := List.mem_of_getLast? hlast
        rw [htasks] at hmem ⊢
        exact hone t hmem
      rw [hsome]
      dsimp only
      split
      · rfl
      · rw [slice_async_self _ (by rfl), slice_resumeTask_self hsingle]
  · rfl

/-- A task just made is told the state in which it finds its request. -/
theorem slice_updateStatesForTask_self (h : (session.requests r).tasks = [t]) :
    (session.updateStatesForTask t r).slice r = (session.slice r).updateStatesForTask r := by
  unfold updateStatesForTask Slice.updateStatesForTask
  cases hstate : (session.requests r).state with
  | initialized => simp [hstate]
  | finished => simp [hstate]
  | resumed =>
    simp only [slice_request, hstate]
    rw [slice_async_self _ (by rfl), slice_resumeTask_self h]
  | suspended =>
    simp only [slice_request, hstate]
    rw [slice_async_self _ (by rfl)]
  | cancelled =>
    simp only [slice_request, hstate]
    rw [slice_async_self _ (by rfl), slice_resumeTask_self h]

/-- The first task of a request is the only one in its slice. -/
theorem slice_createTask_self (hnone : (session.requests r).tasks = []) :
    (session.createTask r).slice r = (session.slice r).createTask r session.nextTask := by
  simp [createTask, Slice.createTask, slice, write, hnone]

/-- Making the task: the guards read the request alone, and the new task is told the state in
which it finds it. -/
theorem slice_didCreateURLRequest_self (hnone : (session.requests r).tasks = []) :
    (session.didCreateURLRequest r).map (slice r) =
      (session.slice r).didCreateURLRequest r session.nextTask := by
  have hsingle : ((session.createTask r).requests r).tasks = [session.nextTask] := by
    simp [createTask, write, hnone]
  unfold didCreateURLRequest Slice.didCreateURLRequest
  rw [slice_request]
  split
  · rfl
  · split
    · rw [Option.map_some, slice_updateStatesForTask_self hsingle, slice_createTask_self hnone]
    · rfl

/-- Attaching a handler reads the state twice after the write, and both reads are of the request
that was written. -/
theorem slice_appendResponseSerializer_self {handler : Nat} :
    (session.appendResponseSerializer r handler).slice r =
      (session.slice r).appendResponseSerializer r handler := by
  unfold appendResponseSerializer Slice.appendResponseSerializer
  -- Both tests of the source read the request after the handler was added
  generalize hnew : (session.write r fun request =>
    { request with
      responseSerializers := request.responseSerializers ++ [handler]
      state := request.state.reopened }) = new
  have hslice : new.slice r = { session.slice r with
      request := { session.requests r with
        responseSerializers := (session.requests r).responseSerializers ++ [handler]
        state := (session.requests r).state.reopened } } := by
    rw [← hnew, slice_write_self rfl]
  rw [slice_request, ← hslice]
  dsimp only
  rw [slice_request]
  split
  · have hasync : (new.async (.processNextResponseSerializer r)).slice r =
      (new.slice r).async (.processNextResponseSerializer r) := slice_async_self _ rfl
    rw [← hasync, slice_request]
    split
    · exact slice_async_self _ rfl
    · rfl
  · rw [slice_request]
    split
    · exact slice_async_self _ rfl
    · rfl

theorem appendResponseSerializer_processing {handler : Nat} :
    (session.appendResponseSerializer r handler).processing = session.processing := by
  unfold appendResponseSerializer
  dsimp only
  split <;> split <;> rfl

theorem appendResponseSerializer_overtaken {handler : Nat} :
    (session.appendResponseSerializer r handler).overtaken = session.overtaken := by
  unfold appendResponseSerializer
  dsimp only
  split <;> split <;> rfl

/-- The handler attached while the completions are taken out is lost in the slice as in the
session. -/
theorem slice_responseJSON_self :
    (session.responseJSON r).slice r = (session.slice r).responseJSON r := by
  unfold responseJSON Slice.responseJSON
  rw [← slice_appendResponseSerializer_self]
  by_cases hp : session.processing = some r
  · simp [slice, appendResponseSerializer_processing, hp]
  · simp [slice, appendResponseSerializer_processing, appendResponseSerializer_overtaken, hp]

/-- What is attached to one request and what overtakes its completions is invisible to the others.
-/
theorem slice_responseJSON_other {r' : Nat} (h : r' ≠ r) (ha : session.attaching = some r') :
    (session.responseJSON r').slice r = session.slice r := by
  have happ : (session.appendResponseSerializer r' r').slice r = session.slice r :=
    slice_appendResponseSerializer_other h
  unfold responseJSON
  rw [← happ]
  have hattaching : (session.appendResponseSerializer r' r').attaching = some r' := by
    unfold appendResponseSerializer
    dsimp only
    split <;> split <;> exact ha
  by_cases hp : session.processing = some r'
  · simp [slice, appendResponseSerializer_processing, appendResponseSerializer_overtaken,
      hattaching, hp, h, h.symm]
  · simp [slice, appendResponseSerializer_processing, appendResponseSerializer_overtaken,
      hattaching, hp, h]

/-- A request that is not cancelled gets the two blocks that set its task up, or the one of its
failure. -/
theorem slice_performSetupOperations_self (hstate : (session.requests r).state ≠ .cancelled)
    (error : Option AFError) :
    (session.performSetupOperations r error).slice r =
      { session.slice r with
        root := (session.slice r).root ++ Slice.setup r (.request error) } := by
  cases error with
  | some error => exact slice_async_self _ rfl
  | none =>
    unfold performSetupOperations
    rw [if_neg (by exact hstate), slice_async_self _ (by rfl), slice_async_self _ (by rfl)]
    simp [Slice.async, Slice.setup]

/-- An upload first makes its uploadable, and only then goes the way of every request. -/
theorem slice_performRequest_self (hstate : (session.requests r).state ≠ .cancelled) :
    (session.performRequest r).slice r = (session.slice r).performRequest r := by
  unfold performRequest Slice.performRequest
  rw [slice_request]
  -- Only an upload can fail before it has a request to set up
  cases hconvertible : (session.requests r).convertible with
  | request error =>
    rw [slice_performSetupOperations_self hstate]
    rfl
  | upload uploadableError error =>
    cases uploadableError with
    | some uploadableError => exact slice_async_self _ rfl
    | none =>
      dsimp only
      rw [slice_performSetupOperations_self (by exact hstate), slice_async_self _ (by rfl)]
      cases error with
      | some error => simp [slice, Slice.async, Slice.setup, Slice.writesTemporaryFile]
      | none => simp [slice, Slice.async, Slice.setup, Slice.writesTemporaryFile]

theorem slice_perform_self :
    (session.perform r).slice r = if (session.slice r).request.state = .cancelled then
      session.slice r
    else { session.slice r with performs := (session.slice r).performs + 1 } := by
  unfold perform
  rw [slice_request]
  split
  · rfl
  · simp [slice]

/-- A block does to the slice of its request what it does to the session. A new task needs a
request without one, and resuming a request needs it to have one at most. -/
theorem slice_execute_self (h : block.request = r)
    (hnone : block = .didCreateURLRequest r → (session.requests r).tasks = [])
    (hone : ∀ t ∈ (session.requests r).tasks, (session.requests r).tasks = [t]) :
    (session.execute block).map (slice r) = (session.slice r).execute r session.nextTask block := by
  cases block with
  | perform r' =>
    obtain rfl : r' = r := h
    exact congrArg some slice_perform_self
  | didCreateUploadable r' =>
    obtain rfl : r' = r := h
    exact congrArg some (slice_write_self rfl)
  | didFailToCreateUploadable r' error =>
    obtain rfl : r' = r := h
    exact congrArg some (slice_didFail_self error)
  | didCreateInitialURLRequest r' =>
    obtain rfl : r' = r := h
    exact congrArg some (slice_write_self rfl)
  | didCreateURLRequest r' =>
    obtain rfl : r' = r := h
    exact slice_didCreateURLRequest_self (hnone rfl)
  | didFailToCreateURLRequest r' error =>
    obtain rfl : r' = r := h
    exact congrArg some (slice_didFail_self error)
  | doNotRetry r' =>
    obtain rfl : r' = r := h
    exact congrArg some slice_finish_self
  | startImmediately r' =>
    obtain rfl : r' = r := h
    exact congrArg some (slice_resume_self hone)
  | processNextResponseSerializer r' =>
    obtain rfl : r' = r := h
    exact congrArg some slice_processNext_self
  | didParseResponse r' handler result =>
    obtain rfl : r' = r := h
    exact congrArg some (slice_didParseResponse_self result)
  | didNotRetry r' handler response =>
    obtain rfl : r' = r := h
    exact congrArg some (slice_responseSerializerDidComplete_self _)
  | eventMonitor r' => rfl

/-! ## Steps -/

/-- Request `r` got the slice `c`, and the others were left alone. -/
def Moved (r : Nat) (c : Slice) (session session' : Session) : Prop :=
  session'.slice r = c ∧ ∀ r', r' ≠ r → session'.slice r' = session.slice r'

/-- A task is in the map from when it was made until both of its callbacks are in. -/
theorem live_iff : session.registry.live t = true ↔
    t < session.nextTask ∧ (session.tasks t).delivered = false := by
  rw [Registry.live, Bool.and_eq_true, decide_eq_true_eq, Bool.not_eq_true']
  rfl

/-- A task that was made is the only task of its request. -/
theorem tasks_eq (h : session.registry.Consistent) (hlt : t < session.nextTask)
    (hr : (session.tasks t).request = r) : (session.requests r).tasks = [t] :=
  hr ▸ h.only t hlt

/-- A task is in the list of no other request. -/
theorem not_mem_tasks {r' : Nat} (h : session.registry.Consistent)
    (hr : (session.tasks t).request = r) (hne : r' ≠ r) : t ∉ (session.requests r').tasks :=
  fun hmem => hne ((h.owned r' t hmem).2.symm.trans hr)

@[simp] theorem registry_await (completion : Option (Option Nat × Option AFError)) :
    (session.await t completion).registry = { session.registry with
      waitingCompletions :=
        Function.update session.registry.waitingCompletions t completion } := rfl

/-- The data of a live task goes to its request. -/
theorem didReceive_spec (h : session.registry.Consistent)
    (hlive : session.registry.live t = true) (hr : (session.tasks t).request = r)
    (data : Data) :
    ∃ session', session.didReceive t data = some session' ∧ session'.registry.Consistent ∧
      Moved r ((session.slice r).didReceive data) session session' := by
  -- The subscript of the map finds the request exactly because the task is live
  have hrequest := h.tasksToRequests t
  rw [hlive, if_pos rfl] at hrequest
  unfold didReceive
  rw [show session.requestTaskMap.tasksToRequests t = some (session.tasks t).request
    from hrequest, hr]
  refine ⟨_, rfl, ?consistent, ?self, ?other⟩
  case consistent =>
    rw [registry_write rfl]
    exact h.writeTask hlive _ rfl rfl rfl rfl
  case self =>
    rw [slice_write_self rfl, slice_writeTask_self (tasks_eq h (live_iff.mp hlive).1 hr)]
    rfl
  case other =>
    intro r' hne
    rw [slice_write_other hne.symm, slice_writeTask_other (not_mem_tasks h hr hne)]

/-- A task is changed, and so are the records about it. -/
theorem writeTask_moved (h : session.registry.Consistent)
    (hlive : session.registry.live t = true) (hr : (session.tasks t).request = r)
    (f : URLSessionTask → URLSessionTask) :
    Moved r { session.slice r with tasks := [f (session.tasks t)] } session
      (session.writeTask t f) := by
  have htasks := tasks_eq h (live_iff.mp hlive).1 hr
  constructor
  · rw [slice_writeTask_self htasks]
    simp [slice, htasks]
  · exact fun r' hne => slice_writeTask_other (not_mem_tasks h hr hne) f

theorem Moved.setMap {new : Session} {c : Slice} {map : RequestTaskMap}
    (h : Moved r c session new) : Moved r c session (new.setMap map) := h

theorem Moved.await {new : Session} {c : Slice} {completion : Option (Option Nat × Option AFError)}
    (h : Moved r c session new) : Moved r c session (new.await t completion) := h

/-- The request is told that its task is done. -/
theorem Moved.didCompleteTask {new : Session} {c : Slice} (h : Moved r c session new)
    (hp : new.processing = none) (error : Option AFError) :
    Moved r (c.didCompleteTask r error) session (new.didCompleteTask r error) := by
  constructor
  · rw [slice_didCompleteTask_self, h.1]
  · intro r' hne
    rw [slice_didCompleteTask_other hne.symm hp, h.2 r' hne]

/-- The metrics of a live task: its request is told if the task was completed before. -/
theorem didFinishCollecting_spec (h : session.registry.Consistent)
    (hlive : session.registry.live t = true) (hr : (session.tasks t).request = r)
    (hp : session.processing = none) (hopen : (session.tasks t).metricsGathered = false) :
    ∃ session', session.didFinishCollecting t = some session' ∧ session'.registry.Consistent ∧
      Moved r ((session.slice r).didFinishCollecting r (session.tasks t)) session session' := by
  have hsettle := h.settle hlive { session.tasks t with metricsGathered := true } rfl
  have hwaiting := h.waiting t
  have hgather := h.gatherMetrics hlive hopen
  have hmoved := writeTask_moved h hlive hr fun task => { task with metricsGathered := true }
  rw [hlive, Bool.true_and] at hwaiting
  unfold didFinishCollecting Slice.didFinishCollecting
  dsimp only
  rw [show (session.writeTask t _).requestTaskMap = session.registry.map from rfl, hgather]
  refine ⟨_, rfl, ?_⟩
  dsimp only
  -- The other callback is in or not, and the waiting completion records which
  by_cases hc : (session.tasks t).completed = true
  -- Both are in: the task leaves the map, and the completion that waited for the metrics runs
  · rw [if_pos (show (session.registry.tasks t).completed = true from hc)] at hwaiting ⊢
    rw [if_pos hc]
    have hsome : ((session.writeTask t fun task => { task with metricsGathered := true }).setMap
        (session.registry.settle t { session.tasks t with metricsGathered := true }).map
          ).waitingCompletions t = some (some r, (session.tasks t).error) := hr ▸ hwaiting
    split
    · rename_i completion hcompletion
      obtain rfl : (some r, (session.tasks t).error) = completion :=
        Option.some.inj (hsome.symm.trans hcompletion)
      refine ⟨?_, (hmoved.setMap.didCompleteTask hp _).await⟩
      rw [complete, registry_await, registry_didCompleteTask]
      simp only [Registry.settle, registry, Bool.not_true, Bool.and_false, Bool.false_eq_true,
        if_false] at hsettle
      exact hsettle
    · rename_i hcompletion
      exact absurd (hsome.symm.trans hcompletion) (by simp)
  -- The metrics are the first to come, so nothing waits yet
  · rw [if_neg (show ¬ (session.registry.tasks t).completed = true from hc)] at hwaiting ⊢
    rw [if_neg hc]
    refine ⟨?_, hmoved⟩
    have heq : Function.update session.waitingCompletions t none = session.waitingCompletions :=
      Function.update_eq_self_iff.mpr hwaiting.symm
    simp only [Registry.settle, registry, Bool.not_true, Bool.and_false, Bool.false_eq_true,
      if_false, heq] at hsettle
    exact hsettle

/-- The completion of a live task: its request is told if the metrics came before. -/
theorem didCompleteWithError_spec (h : session.registry.Consistent)
    (hlive : session.registry.live t = true) (hr : (session.tasks t).request = r)
    (hp : session.processing = none) (hopen : (session.tasks t).completed = false)
    (error : Option AFError) :
    ∃ session', session.didCompleteWithError t error = some session' ∧
      session'.registry.Consistent ∧
      Moved r ((session.slice r).didCompleteWithError r (session.tasks t) error) session
        session' := by
  have hsettle := h.settle hlive { session.tasks t with completed := true, error := error } rfl
  have hwaiting := h.waiting t
  have hrequest : session.requestTaskMap.tasksToRequests t = some r := by
    have hmap := h.tasksToRequests t
    rw [hlive, if_pos rfl] at hmap
    exact hr ▸ hmap
  have hmoved := writeTask_moved h hlive hr fun task =>
    { task with completed := true, error := error }
  rw [hlive, show (session.registry.tasks t).completed = false from hopen] at hwaiting
  unfold didCompleteWithError Slice.didCompleteWithError
  dsimp only
  rw [show (session.writeTask t _).requestTaskMap = session.registry.map from rfl,
    h.complete hlive hopen error, hrequest]
  refine ⟨_, rfl, ?_⟩
  dsimp only
  -- As for the metrics, with the two callbacks in the other order
  by_cases hm : (session.tasks t).metricsGathered = true
  · rw [if_pos (show (session.registry.tasks t).metricsGathered = true from hm), if_pos hm]
    refine ⟨?_, hmoved.setMap.didCompleteTask hp _⟩
    have heq : Function.update session.waitingCompletions t none = session.waitingCompletions :=
      Function.update_eq_self_iff.mpr hwaiting.symm
    rw [complete, registry_didCompleteTask]
    simp only [Registry.settle, registry, hm, Bool.not_true, Bool.and_false, Bool.false_eq_true,
      if_false, heq] at hsettle
    simp only [Registry.settle, registry, setMap, writeTask, hm]
    exact hsettle
  -- The metrics are still to come: the completion is put aside under the task
  · rw [if_neg (show ¬ (session.registry.tasks t).metricsGathered = true from hm), if_neg hm]
    refine ⟨?_, hmoved.setMap.await⟩
    simp only [Registry.settle, registry, Bool.not_eq_true] at hsettle hm
    simp only [hm, hr, Bool.not_false, Bool.and_true, if_true] at hsettle
    simp only [Registry.settle, registry, setMap, writeTask, hm, hr]
    exact hsettle

/-- What a step relies on. -/
structure Regular (session : Session) : Prop where
  consistent : session.registry.Consistent
  unmade : session.slice session.nextRequest = .unmade
  /-- A completion belongs to its own request. -/
  mine : ∀ r, ∀ entry ∈ (session.requests r).responseSerializerCompletions, entry.1 = r
  uncancelled : ∀ r, (session.requests r).state ≠ .cancelled
  /-- A request about to get a task has none. -/
  untasked : ∀ r, .didCreateURLRequest r ∈ session.rootQueue → (session.requests r).tasks = []

variable {session' : Session}

/-- Of the blocks of the root queue only the one that makes a task touches the map. -/
theorem consistent_execute (h : session.registry.Consistent)
    (hnone : ∀ r, block = .didCreateURLRequest r → (session.requests r).tasks = [])
    (hs : session.execute block = some session') : session'.registry.Consistent := by
  have hkept : ∀ {new : Session}, new.registry = session.registry → some new = some session' →
      session'.registry.Consistent := by
    intro new hregistry heq
    rw [← Option.some.inj heq, hregistry]
    exact h
  -- Eleven of the blocks keep the registry, and the task is made in the one that is left
  cases block with
  | perform r => exact hkept registry_perform hs
  | didCreateUploadable r => exact hkept (registry_write rfl) hs
  | didFailToCreateUploadable r error => exact hkept (registry_didFail error) hs
  | didCreateInitialURLRequest r => exact hkept (registry_write rfl) hs
  | didCreateURLRequest r => exact consistent_didCreateURLRequest h (hnone r rfl) hs
  | didFailToCreateURLRequest r error => exact hkept (registry_didFail error) hs
  | doNotRetry r => exact hkept registry_finish hs
  | startImmediately r => exact Option.some.inj hs ▸ consistent_resume h
  | processNextResponseSerializer r => exact hkept registry_processNext hs
  | didParseResponse r handler result => exact hkept (registry_didParseResponse result) hs
  | didNotRetry r handler response =>
    exact hkept (registry_responseSerializerDidComplete _) hs
  | eventMonitor r => exact hkept rfl hs

/-- A block of the root queue moves its own request. -/
theorem execute_moved (h : session.registry.Consistent) (hp : session.processing = none)
    (hnone : ∀ r, block = .didCreateURLRequest r → (session.requests r).tasks = [])
    (hs : session.execute block = some session') :
    ∃ c, (session.slice block.request).execute block.request session.nextTask block = some c ∧
      Moved block.request c session session' := by
  have hone : ∀ t ∈ (session.requests block.request).tasks,
      (session.requests block.request).tasks = [t] := by
    intro t ht
    obtain ⟨hlt, hreq⟩ := h.owned block.request t ht
    exact tasks_eq h hlt hreq
  have hself := slice_execute_self rfl (hnone block.request) hone
  rw [hs, Option.map_some] at hself
  refine ⟨_, hself.symm, rfl, ?_⟩
  intro r hne
  apply slice_execute_other hne.symm hp ?new ?disjoint hs
  -- The task number is fresh, so no list has it yet
  case new => exact fun hmem => absurd (h.owned r _ hmem).1 (Nat.lt_irrefl _)
  -- No task is in the lists of two requests
  case disjoint =>
    intro t ht hmem
    exact hne ((h.owned r t hmem).2.symm.trans (h.owned block.request t ht).2)

/-- One request takes a step of its own, and the others stay where they are. -/
def Follows (serializer : JSONResponseSerializer) (session session' : Session) : Prop :=
  ∀ r, session'.slice r = session.slice r ∨
    Slice.Step serializer r (session.slice r) (session'.slice r)

theorem Follows.refl (serializer : JSONResponseSerializer) (session : Session) :
    Follows serializer session session := fun _ => Or.inl rfl

/-- A request that moved by a step of its own is one of the ways the whole session can follow. -/
theorem Moved.follows {serializer : JSONResponseSerializer} {c : Slice}
    (h : Moved r c session session') (hstep : Slice.Step serializer r (session.slice r) c) :
    Follows serializer session session' := by
  intro r'
  by_cases heq : r' = r
  · subst heq
    rw [h.1]
    exact Or.inr hstep
  · exact Or.inl (h.2 r' heq)

/-- A request is made, and nothing is known about it before. -/
theorem request_moved (hunmade : session.slice session.nextRequest = .unmade)
    (ha : session.attaching = none) (method : HTTPMethod) (convertible : Convertible) :
    Moved session.nextRequest (.fresh session.nextRequest method convertible) session
      (session.request method convertible) := by
  -- The new request is the last one, so its slice was still unmade
  have hself : (session.request method convertible).slice session.nextRequest =
      { session.slice session.nextRequest with
        made := true
        request := { method := method, convertible := convertible }
        tasks := []
        root := (session.slice session.nextRequest).root ++ [.perform session.nextRequest]
        attaching := true } := by
    simp [slice, request, async, Block.request]
  constructor
  · rw [hself, hunmade]
    rfl
  · intro r' hne
    have hmade : r'.blt (session.nextRequest + 1) = r'.blt session.nextRequest := by
      rw [Bool.eq_iff_iff, Nat.blt_eq, Nat.blt_eq]
      omega
    simp [slice, request, async, Block.request, hne.symm, hne, hmade, ha]

/-- Making a request makes no task. -/
theorem request_registry (hunmade : session.slice session.nextRequest = .unmade)
    (method : HTTPMethod) (convertible : Convertible) :
    (session.request method convertible).registry = session.registry := by
  have hnone : (session.requests session.nextRequest).tasks = [] :=
    congrArg (fun c : Slice => c.request.tasks) hunmade
  have htasks : ∀ r, (Function.update session.requests session.nextRequest
      { method := method, convertible := convertible } r).tasks =
        (session.requests r).tasks := by
    intro r
    by_cases heq : r = session.nextRequest
    · rw [heq, Function.update_self, hnone]
    · rw [Function.update_of_ne heq]
  simp only [request, async, registry, htasks]

/-! ## Every event -/

/-- Taking a block off the root queue only shows in the slice of its request. -/
theorem popRoot_moved {rest : List Block} (hroot : session.rootQueue = block :: rest) :
    Moved block.request
      { session.slice block.request with
        root := rest.filter fun other => other.request = block.request }
      session { session with rootQueue := rest } := by
  constructor
  · rfl
  · intro r hne
    simp [slice, hroot, hne.symm]

theorem popRequest_moved {rest : List Nat} (hqueue : session.requestQueue = r :: rest) :
    Moved r { session.slice r with performs := rest.count r } session
      { session with requestQueue := rest } := by
  constructor
  · rfl
  · intro r' hne
    simp [slice, hqueue, hne.symm]

theorem popSerialization_moved {handler : Nat} {rest : List (Nat × Nat)}
    (hqueue : session.serializationQueue = (r, handler) :: rest) :
    Moved r
      { session.slice r with
        serialization := (rest.filter fun entry => entry.1 = r).map (·.2) }
      session { session with serializationQueue := rest } := by
  constructor
  · rfl
  · intro r' hne
    simp [slice, hqueue, hne.symm]

/-- Moves of one request follow each other. -/
theorem Moved.trans {new : Session} {c c' : Slice} (h : Moved r c session new)
    (h' : Moved r c' new session') : Moved r c' session session' :=
  ⟨h'.1, fun r' hne => (h'.2 r' hne).trans (h.2 r' hne)⟩

variable {serializer : JSONResponseSerializer}

/-- The root queue runs its first block. -/
theorem runRoot_follows {rest : List Block} (h : Regular session)
    (hp : session.processing = none) (hroot : session.rootQueue = block :: rest)
    (hs : ({ session with rootQueue := rest } : Session).execute block = some session') :
    session'.registry.Consistent ∧ Follows serializer session session' := by
  have hnone : ∀ r, block = .didCreateURLRequest r → (session.requests r).tasks = [] := by
    intro r heq
    exact h.untasked r (by simp [hroot, heq])
  -- The block is taken off before it runs, and the two moves are of the same request
  have hpop := popRoot_moved hroot
  generalize hnew : { session with rootQueue := rest } = new at hs hpop
  have hconsistent : new.registry.Consistent := hnew ▸ h.consistent
  have hnewNone : ∀ r, block = .didCreateURLRequest r → (new.requests r).tasks = [] :=
    hnew ▸ hnone
  obtain ⟨c, hc, hmoved⟩ := execute_moved hconsistent (hnew ▸ hp) hnewNone hs
  refine ⟨consistent_execute hconsistent hnewNone hs, (hpop.trans hmoved).follows ?_⟩
  rw [hpop.1] at hc
  apply Slice.Step.runRoot ?processing ?root hc
  case processing => simp [slice, hp]
  case root => simp [slice, hroot]

/-- The request queue performs its first request. -/
theorem runRequest_follows {rest : List Nat} (h : Regular session)
    (hp : session.processing = none) (hqueue : session.requestQueue = r :: rest) :
    (({ session with requestQueue := rest } : Session).performRequest r).registry.Consistent ∧
      Follows serializer session
        (({ session with requestQueue := rest } : Session).performRequest r) := by
  have hpop := popRequest_moved hqueue
  refine ⟨by rw [registry_performRequest]; exact h.consistent, ?_⟩
  have hmoved : Moved r (Slice.performRequest r { session.slice r with performs := rest.count r })
      session (({ session with requestQueue := rest } : Session).performRequest r) := by
    constructor
    · rw [slice_performRequest_self (by exact h.uncancelled r), hpop.1]
    · intro r' hne
      rw [slice_performRequest_other hne.symm, hpop.2 r' hne]
  apply hmoved.follows
  apply Slice.Step.runRequest
  case hp => simp [slice, hp]
  case h => simp [slice, hqueue]

/-- The serialization queue serializes for its first handler. -/
theorem runSerialization_follows {handler : Nat} {rest : List (Nat × Nat)} (h : Regular session)
    (hp : session.processing = none)
    (hqueue : session.serializationQueue = (r, handler) :: rest) :
    (({ session with serializationQueue := rest } : Session).serialize serializer r
        handler).registry.Consistent ∧
      Follows serializer session
        (({ session with serializationQueue := rest } : Session).serialize serializer r
          handler) := by
  have hpop := popSerialization_moved hqueue
  refine ⟨h.consistent, ?_⟩
  have hmoved : Moved r (Slice.serialize serializer r handler
      { session.slice r with
        serialization := (rest.filter fun entry => entry.1 = r).map (·.2) }) session
      (({ session with serializationQueue := rest } : Session).serialize serializer r
        handler) := by
    constructor
    · rw [slice_serialize_self, hpop.1]
    · intro r' hne
      unfold serialize
      rw [slice_async_other _ (by exact hne.symm), hpop.2 r' hne]
  apply hmoved.follows
  apply Slice.Step.runSerialization
  case hp => simp [slice, hp]
  case h => simp [slice, hqueue]

/-- The task of a request, as its slice has it. -/
theorem slice_tasks (h : session.registry.Consistent) (hlt : t < session.nextTask) :
    (session.slice (session.tasks t).request).tasks = [session.tasks t] := by
  simp [slice, tasks_eq h hlt rfl]

/-- A running task that has one of its callbacks before it is still in the map. -/
theorem live_of_open (h : session.registry.Consistent)
    (hrunning : (session.tasks t).running = true)
    (hopen : (session.tasks t).completed = false ∨ (session.tasks t).metricsGathered = false) :
    session.registry.live t = true := by
  rw [live_iff]
  refine ⟨h.idle t hrunning, ?_⟩
  rw [URLSessionTask.delivered, Bool.and_eq_false_iff]
  exact hopen

theorem didReceive_follows (h : Regular session) (hrunning : (session.tasks t).running = true)
    (hopen : (session.tasks t).completed = false) {data : Data}
    (hs : session.didReceive t data = some session') :
    session'.registry.Consistent ∧ Follows serializer session session' := by
  have hlive := live_of_open h.consistent hrunning (Or.inl hopen)
  obtain ⟨new, hnew, hconsistent, hmoved⟩ := didReceive_spec h.consistent hlive rfl data
  obtain rfl : new = session' := Option.some.inj (hnew.symm.trans hs)
  exact ⟨hconsistent, hmoved.follows
    (.receiveData data (slice_tasks h.consistent (live_iff.mp hlive).1) hopen)⟩

theorem didFinishCollecting_follows (h : Regular session) (hp : session.processing = none)
    (hrunning : (session.tasks t).running = true)
    (hopen : (session.tasks t).metricsGathered = false)
    (hs : session.didFinishCollecting t = some session') :
    session'.registry.Consistent ∧ Follows serializer session session' := by
  have hlive := live_of_open h.consistent hrunning (Or.inr hopen)
  obtain ⟨new, hnew, hconsistent, hmoved⟩ :=
    didFinishCollecting_spec h.consistent hlive rfl hp hopen
  obtain rfl : new = session' := Option.some.inj (hnew.symm.trans hs)
  exact ⟨hconsistent, hmoved.follows (.collectMetrics (by simp [slice, hp])
    (slice_tasks h.consistent (live_iff.mp hlive).1) hrunning hopen)⟩

theorem didCompleteWithError_follows (h : Regular session) (hp : session.processing = none)
    (hrunning : (session.tasks t).running = true) (hopen : (session.tasks t).completed = false)
    {error : Option AFError} (hs : session.didCompleteWithError t error = some session') :
    session'.registry.Consistent ∧ Follows serializer session session' := by
  have hlive := live_of_open h.consistent hrunning (Or.inl hopen)
  obtain ⟨new, hnew, hconsistent, hmoved⟩ :=
    didCompleteWithError_spec h.consistent hlive rfl hp hopen error
  obtain rfl : new = session' := Option.some.inj (hnew.symm.trans hs)
  exact ⟨hconsistent, hmoved.follows (.complete error (by simp [slice, hp])
    (slice_tasks h.consistent (live_iff.mp hlive).1) hrunning hopen)⟩

/-- An event for which there is nothing to do. -/
theorem Regular.stay (h : Regular session) (hs : some session = some session') :
    session'.registry.Consistent ∧ Follows serializer session session' := by
  rw [← Option.some.inj hs]
  exact ⟨h.consistent, Follows.refl serializer session⟩

/-- A step of the queues that the root queue serves, or of the delegate. -/
theorem stepRoot_follows {e : Event} (h : Regular session) (hp : session.processing = none)
    (hs : session.stepRoot serializer e = some session') :
    session'.registry.Consistent ∧ Follows serializer session session' := by
  -- An event whose queue is empty, or whose task is not running, is a step that does nothing
  cases e with
  | runRoot =>
    simp only [stepRoot] at hs
    split at hs
    · rename_i hroot
      exact runRoot_follows h hp hroot hs
    · exact h.stay hs
  | runRequest =>
    simp only [stepRoot] at hs
    split at hs
    · rename_i hqueue
      rw [← Option.some.inj hs]
      exact runRequest_follows h hp hqueue
    · exact h.stay hs
  | runSerialization =>
    simp only [stepRoot] at hs
    split at hs
    · rename_i hqueue
      rw [← Option.some.inj hs]
      exact runSerialization_follows h hp hqueue
    · exact h.stay hs
  | receiveData t data =>
    simp only [stepRoot] at hs
    split at hs
    · rename_i hcond
      simp only [Bool.and_eq_true, Bool.not_eq_true'] at hcond
      exact didReceive_follows h hcond.1 hcond.2 hs
    · exact h.stay hs
  | collectMetrics t =>
    simp only [stepRoot] at hs
    split at hs
    · rename_i hcond
      simp only [Bool.and_eq_true, Bool.not_eq_true'] at hcond
      exact didFinishCollecting_follows h hp hcond.1 hcond.2 hs
    · exact h.stay hs
  | complete t error =>
    simp only [stepRoot] at hs
    split at hs
    · rename_i hcond
      simp only [Bool.and_eq_true, Bool.not_eq_true'] at hcond
      exact didCompleteWithError_follows h hp hcond.1 hcond.2 hs
    · exact h.stay hs
  | request method convertible => exact h.stay hs
  | responseJSON => exact h.stay hs
  | runMain => exact h.stay hs
  | completeResponseSerializers => exact h.stay hs
  | receiveResponse t statusCode => exact h.stay hs

/-- What the main thread does, a new request apart. -/
theorem stepMain_follows {e : Event} (h : Regular session)
    (hnot : ∀ method convertible, e ≠ .request method convertible) :
    (session.stepMain e).registry.Consistent ∧
      Follows serializer session (session.stepMain e) := by
  have hstay : session.registry.Consistent ∧ Follows serializer session session :=
    ⟨h.consistent, Follows.refl serializer session⟩
  cases e with
  | request method convertible => exact absurd rfl (hnot method convertible)
  | responseJSON =>
    simp only [stepMain]
    split
    · rename_i r ha
      have hmoved : Moved r ((session.slice r).responseJSON r) session (session.responseJSON r) :=
        ⟨slice_responseJSON_self, fun r' hne => slice_responseJSON_other hne.symm ha⟩
      refine ⟨?_, hmoved.follows (.responseJSON (by simp [slice, ha]))⟩
      have hregistry : (session.responseJSON r).registry = session.registry :=
        registry_appendResponseSerializer
      exact hregistry ▸ h.consistent
    · exact hstay
  | runMain =>
    simp only [stepMain]
    split
    · rename_i completion rest hattaching hmain
      -- A handler called on the main queue is off the slice already: it was counted when posted
      refine ⟨h.consistent, fun r => Or.inl ?_⟩
      simp [slice, hmain]
    · exact hstay
  | _ => exact hstay

/-- **Every request goes its own way**: whatever happens, a request stays as it is or takes one
of the steps it can take by itself, unless a new request is made. -/
theorem step_follows {e : Event} (h : Regular session)
    (hs : session.step serializer e = some session') :
    session'.registry.Consistent ∧
      ((∃ method convertible, Moved session.nextRequest
        (.fresh session.nextRequest method convertible) session session') ∨
        Follows serializer session session') := by
  -- While completions are being taken out the root queue is held up, so its events do nothing
  have hroot : ∀ e, (if session.processing.isSome then some session
      else session.stepRoot serializer e) = some session' →
      session'.registry.Consistent ∧ Follows serializer session session' := by
    intro e hs
    split at hs
    · exact h.stay hs
    · rename_i hp
      exact stepRoot_follows h (by simpa using hp) hs
  -- Only a new request is a step that no request takes by itself
  cases e with
  | request method convertible =>
    rw [← Option.some.inj hs]
    simp only [stepMain]
    split
    · exact ⟨h.consistent, Or.inr (Follows.refl serializer session)⟩
    · rename_i ha
      have ha : session.attaching = none := by simpa using ha
      rw [request_registry h.unmade]
      exact ⟨h.consistent, Or.inl ⟨method, convertible,
        request_moved h.unmade ha method convertible⟩⟩
  | responseJSON =>
    rw [← Option.some.inj hs]
    exact (stepMain_follows h (by simp)).imp id Or.inr
  | runMain =>
    rw [← Option.some.inj hs]
    exact (stepMain_follows h (by simp)).imp id Or.inr
  | completeResponseSerializers =>
    simp only [step] at hs
    split at hs
    · rename_i r hp
      rw [← Option.some.inj hs, registry_completeResponseSerializers]
      have hmoved : Moved r (session.slice r).completeResponseSerializers session
          (session.completeResponseSerializers r) :=
        ⟨slice_completeResponseSerializers_self (h.mine r), fun r' hne =>
          slice_completeResponseSerializers_other hne.symm hp (h.mine r)⟩
      exact ⟨h.consistent, Or.inr
        (hmoved.follows (.completeResponseSerializers (by simp [slice, hp])))⟩
    · exact (h.stay hs).imp id Or.inr
  | receiveResponse t statusCode =>
    simp only [step] at hs
    split at hs
    · rename_i hcond
      simp only [Bool.and_eq_true, Bool.not_eq_true'] at hcond
      have hlive := live_of_open h.consistent hcond.1 (Or.inl hcond.2)
      rw [← Option.some.inj hs]
      refine ⟨h.consistent.writeTask hlive _ rfl rfl rfl rfl, Or.inr ?_⟩
      exact (writeTask_moved h.consistent hlive rfl _).follows
        (.receiveResponse statusCode (slice_tasks h.consistent (live_iff.mp hlive).1) hcond.2)
    · exact (h.stay hs).imp id Or.inr
  | runRoot => exact (hroot _ hs).imp id Or.inr
  | runRequest => exact (hroot _ hs).imp id Or.inr
  | runSerialization => exact (hroot _ hs).imp id Or.inr
  | receiveData t data => exact (hroot _ hs).imp id Or.inr
  | collectMetrics t => exact (hroot _ hs).imp id Or.inr
  | complete t error => exact (hroot _ hs).imp id Or.inr

end Session

end ThorChat.Alamofire
