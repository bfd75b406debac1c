import ThorChat.Alamofire.Session

/-!
# What a Session Holds for One Request

The slice of a session that concerns one request: the request with its tasks, its blocks in the
order of the queues, and the completions posted for it. A block of another request leaves it as
it is, so everything about a request is proved about its slice.
-/

namespace ThorChat.Alamofire

open ThorChat.Runtime
open ThorChat.Sources

/-- The request a block belongs to. -/
def Block.request : Block → Nat
  | .perform r => r
  | .didCreateUploadable r => r
  | .didFailToCreateUploadable r _ => r
  | .didCreateInitialURLRequest r => r
  | .didCreateURLRequest r => r
  | .didFailToCreateURLRequest r _ => r
  | .doNotRetry r => r
  | .startImmediately r => r
  | .processNextResponseSerializer r => r
  | .didParseResponse r _ _ => r
  | .didNotRetry r _ _ => r
  | .eventMonitor r => r

/-- What a session holds for one request. -/
structure Slice where
  /-- The request has been made. -/
  made : Bool
  request : Request
  tasks : List URLSessionTask
  root : List Block
  /-- How often the request is in the request queue. -/
  performs : Nat
  /-- The handlers in the serialization queue. -/
  serialization : List Nat
  processing : Bool
  attaching : Bool
  /-- The responses posted to the main queue, whether or not the main thread has come to them. -/
  posted : List AFDataResponse
  overtaken : Bool
  temporaryFile : Bool

namespace Session

/-- The slice of a request. -/
def slice (r : Nat) (session : Session) : Slice where
  made := r.blt session.nextRequest
  request := session.requests r
  tasks := (session.requests r).tasks.map session.tasks
  root := session.rootQueue.filter fun block => block.request = r
  performs := session.requestQueue.count r
  serialization := (session.serializationQueue.filter fun entry => entry.1 = r).map (·.2)
  processing := session.processing == some r
  attaching := session.attaching == some r
  posted := ((session.called ++ session.mainQueue).filter fun entry => entry.1 = r).map (·.2)
  overtaken := session.overtaken.contains r
  temporaryFile := session.temporaryFiles.contains r

variable {session : Session} {r r' t : Nat} {block : Block}

/-! ## What leaves the slice of another request alone -/

/-- A block posted for one request is in the slice of no other. -/
theorem slice_async_other (block : Block) (h : block.request ≠ r) :
    (session.async block).slice r = session.slice r := by
  simp [slice, async, h]

theorem slice_write_other (h : r' ≠ r) (f : Request → Request) :
    (session.write r' f).slice r = session.slice r := by
  simp only [slice, write, Function.update_of_ne h.symm]

/-- A task is seen only by the requests that have it in their list. -/
theorem slice_writeTask_other (h : t ∉ (session.requests r).tasks)
    (f : URLSessionTask → URLSessionTask) : (session.writeTask t f).slice r = session.slice r := by
  have htasks : (session.requests r).tasks.map (Function.update session.tasks t
      (f (session.tasks t))) = (session.requests r).tasks.map session.tasks := by
    -- The table of tasks changes at `t`, where no task of `r` is looked up
    apply List.map_congr_left
    intro t' ht'
    exact Function.update_of_ne (ne_of_mem_of_not_mem ht' h) _ _
  simp only [slice, writeTask, htasks]

/-- Posting to the serialization queue or starting to finalize concerns one request, as long as
no other request is being finalized. -/
theorem slice_processNext_other (h : r' ≠ r) (hp : session.processing = none) :
    (session.processNextResponseSerializer r').slice r = session.slice r := by
  unfold processNextResponseSerializer
  split
  · simp [slice, h]
  · simp [slice, h, hp]

theorem slice_cleanup_other (h : r' ≠ r) : (session.cleanup r').slice r = session.slice r := by
  unfold cleanup
  split
  · simp [slice, h.symm]
  · rfl

/-- The completions of a request are of that request, so none of them is posted for another. -/
theorem slice_completeResponseSerializers_other (h : r' ≠ r) (hp : session.processing = some r')
    (hmine : ∀ entry ∈ (session.requests r').responseSerializerCompletions, entry.1 = r') :
    (session.completeResponseSerializers r').slice r = session.slice r := by
  have hposted : (session.requests r').responseSerializerCompletions.filter
      (fun entry => entry.1 = r) = [] := by
    simp only [List.filter_eq_nil_iff, decide_eq_true_eq]
    intro entry hentry heq
    exact h ((hmine entry hentry).symm.trans heq)
  unfold completeResponseSerializers
  rw [slice_cleanup_other h]
  simp [slice, write, Function.update_of_ne h.symm, hposted, hp, h]

theorem slice_responseSerializerDidComplete_other (h : r' ≠ r) (hp : session.processing = none)
    (completion : SerializerCompletion) :
    (session.responseSerializerDidComplete r' completion).slice r = session.slice r := by
  unfold responseSerializerDidComplete
  exact Eq.trans (slice_processNext_other h (by exact hp)) (slice_write_other h _)

theorem slice_finish_other (h : r' ≠ r) (hp : session.processing = none) :
    (session.finish r').slice r = session.slice r := by
  unfold finish
  split
  · rfl
  · exact Eq.trans (slice_processNext_other h (by exact hp)) (slice_write_other h _)

theorem slice_retryOrFinish_other (h : r' ≠ r) (hp : session.processing = none)
    (error : Option AFError) : (session.retryOrFinish r' error).slice r = session.slice r := by
  unfold retryOrFinish
  split
  · exact slice_finish_other h hp
  · exact slice_async_other _ (by exact h)

/-- A failed request is not finished at once, so this needs nothing of the request being
finalized. -/
theorem slice_didFail_other (h : r' ≠ r) (error : AFError) :
    (session.didFail r' error).slice r = session.slice r := by
  unfold didFail retryOrFinish
  exact (slice_async_other _ (by exact h)).trans (slice_write_other h _)

theorem slice_didCompleteTask_other (h : r' ≠ r) (hp : session.processing = none)
    (error : Option AFError) : (session.didCompleteTask r' error).slice r = session.slice r := by
  unfold didCompleteTask
  exact Eq.trans (slice_retryOrFinish_other h (by exact hp) _) (slice_write_other h _)

/-- Resuming a request resumes its last task, which no other request has. -/
theorem slice_resume_other (h : r' ≠ r)
    (htasks : ∀ t ∈ (session.requests r').tasks, t ∉ (session.requests r).tasks) :
    (session.resume r').slice r = session.slice r := by
  unfold resume
  split
  · dsimp only
    split
    · rename_i t ht
      -- The write before the lookup left the list of tasks alone
      have hmem : t ∈ (session.requests r').tasks := by
        simpa [async, write] using List.mem_of_getLast? ht
      have hslice : ((session.write r' fun request => { request with state := .resumed }).async
          (.eventMonitor r')).slice r = session.slice r :=
        (slice_async_other _ (by exact h)).trans (slice_write_other h _)
      split
      · exact hslice
      · refine (slice_async_other _ (by exact h)).trans ((slice_writeTask_other ?_ _).trans hslice)
        simpa [async, write, Function.update_of_ne h.symm] using htasks t hmem
    · exact (slice_async_other _ (by exact h)).trans (slice_write_other h _)
  · rfl

theorem slice_updateStatesForTask_other (h : r' ≠ r) (ht : t ∉ (session.requests r).tasks) :
    (session.updateStatesForTask t r').slice r = session.slice r := by
  unfold updateStatesForTask
  split
  · rfl
  · rfl
  · exact (slice_async_other _ (by exact h)).trans (slice_writeTask_other ht _)
  · exact slice_async_other _ (by exact h)
  · exact (slice_async_other _ (by exact h)).trans (slice_writeTask_other ht _)

/-- A new task is none of the tasks of another request. -/
theorem slice_createTask_other (h : r' ≠ r)
    (hnew : session.nextTask ∉ (session.requests r).tasks) :
    (session.createTask r').slice r = session.slice r := by
  have htable : (session.requests r).tasks.map
      (Function.update session.tasks session.nextTask { request := r' }) =
        (session.requests r).tasks.map session.tasks := by
    apply List.map_congr_left
    intro t ht
    exact Function.update_of_ne (ne_of_mem_of_not_mem ht hnew) _ _
  unfold createTask
  rw [slice_write_other h]
  simp only [slice, htable]

/-- The task made for one request has a number that is in no list yet. -/
theorem slice_didCreateURLRequest_other {session' : Session} (h : r' ≠ r)
    (hnew : session.nextTask ∉ (session.requests r).tasks)
    (hs : session.didCreateURLRequest r' = some session') :
    session'.slice r = session.slice r := by
  unfold didCreateURLRequest at hs
  split at hs
  · rw [Option.some.injEq] at hs
    rw [hs]
  · split at hs
    · rw [Option.some.injEq] at hs
      rw [← hs, slice_updateStatesForTask_other h, slice_createTask_other h hnew]
      -- The list of `r` is what it was, so the new number is still not in it
      simpa [createTask, write, Function.update_of_ne h.symm] using hnew
    · exact absurd hs (by simp)

theorem slice_performSetupOperations_other (h : r' ≠ r) (error : Option AFError) :
    (session.performSetupOperations r' error).slice r = session.slice r := by
  unfold performSetupOperations
  split
  · exact slice_async_other _ (by exact h)
  · dsimp only
    split
    · exact slice_async_other _ (by exact h)
    · exact (slice_async_other _ (by exact h)).trans (slice_async_other _ (by exact h))

/-- The setup of a request posts blocks of its own and writes its own temporary file. -/
theorem slice_performRequest_other (h : r' ≠ r) :
    (session.performRequest r').slice r = session.slice r := by
  unfold performRequest
  split
  · exact slice_performSetupOperations_other h _
  · exact slice_async_other _ (by exact h)
  · refine (slice_performSetupOperations_other h _).trans ?_
    refine (slice_async_other _ (by exact h)).trans ?_
    simp [slice, h.symm]

theorem slice_perform_other (h : r' ≠ r) : (session.perform r').slice r = session.slice r := by
  unfold perform
  split
  · rfl
  · simp [slice, h]

/-- No block changes the slice of a request other than its own. -/
theorem slice_execute_other {session' : Session} (h : block.request ≠ r)
    (hp : session.processing = none)
    (hnew : session.nextTask ∉ (session.requests r).tasks)
    (htasks : ∀ t ∈ (session.requests block.request).tasks, t ∉ (session.requests r).tasks)
    (hs : session.execute block = some session') : session'.slice r = session.slice r := by
  -- Three blocks need more than their name: one makes a task, one resumes it, and the last ones
  -- finalize
  cases block with
  | didCreateURLRequest r' => exact slice_didCreateURLRequest_other h hnew hs
  | didParseResponse r' handler result =>
    rw [execute, Option.some.injEq] at hs
    subst hs
    unfold didParseResponse
    dsimp only
    split
    · exact slice_responseSerializerDidComplete_other h hp _
    · exact slice_async_other _ (by exact h)
  | perform r' => exact Option.some.inj hs ▸ slice_perform_other h
  | didCreateUploadable r' => exact Option.some.inj hs ▸ slice_write_other h _
  | didFailToCreateUploadable r' error => exact Option.some.inj hs ▸ slice_didFail_other h error
  | didCreateInitialURLRequest r' => exact Option.some.inj hs ▸ slice_write_other h _
  | didFailToCreateURLRequest r' error => exact Option.some.inj hs ▸ slice_didFail_other h error
  | doNotRetry r' => exact Option.some.inj hs ▸ slice_finish_other h hp
  | startImmediately r' => exact Option.some.inj hs ▸ slice_resume_other h htasks
  | processNextResponseSerializer r' => exact Option.some.inj hs ▸ slice_processNext_other h hp
  | didNotRetry r' handler response =>
    exact Option.some.inj hs ▸ slice_responseSerializerDidComplete_other h hp _
  | eventMonitor r' => exact Option.some.inj hs ▸ rfl

/-- Attaching a handler posts blocks for its own request only. -/
theorem slice_appendResponseSerializer_other {handler : Nat} (h : r' ≠ r) :
    (session.appendResponseSerializer r' handler).slice r = session.slice r := by
  unfold appendResponseSerializer
  dsimp only
  split <;> split
  · exact (slice_async_other _ (by exact h)).trans
      ((slice_async_other _ (by exact h)).trans (slice_write_other h _))
  · exact (slice_async_other _ (by exact h)).trans (slice_write_other h _)
  · exact (slice_async_other _ (by exact h)).trans (slice_write_other h _)
  · exact slice_write_other h _

end Session

end ThorChat.Alamofire
