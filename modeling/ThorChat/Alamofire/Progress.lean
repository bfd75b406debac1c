import ThorChat.Alamofire.Delivery

/-!
# A Request Gets Started

Once the handler is attached a request is resumed or about to be, and a task of a resumed request
runs (`Started`). With the count of the tokens this is kept by every step a request can take, so a
request that nothing is under way for has been through to its end.
-/

namespace ThorChat.Alamofire

open ThorChat.Runtime
open ThorChat.Sources

namespace Slice

/-- How far a request has been started. -/
structure Started (r : Nat) (c : Slice) : Prop where
  counted : c.tasks.length = c.request.tasks.length
  proceeding : c.request.state ≠ .suspended ∧ c.request.state ≠ .cancelled
  unfinished : c.request.responseSerializerProcessingFinished = false →
    c.request.state ≠ .finished
  begun : c.request.responseSerializerProcessingFinished = true → c.request.state ≠ .initialized
  /-- Once the handler is attached, a request not resumed yet is about to be. -/
  pending : c.attaching = false → c.request.state = .initialized → .startImmediately r ∈ c.root
  running : c.request.responseSerializerProcessingFinished = false →
    c.request.state = .resumed → ∀ task ∈ c.tasks, task.running = true
  /-- The last events of a task come while it runs. -/
  told : ∀ task ∈ c.tasks, task.completed = true ∨ task.metricsGathered = true →
    task.running = true

variable {r t : Nat} {c c' : Slice} {block : Block} {rest : List Block}

/-! ## What has no say in it -/

/-- Nothing that starts a request has changed, and an attempt to resume it is still in the queue.
-/
theorem Started.frame (h : c.Started r)
    (hstate : c'.request.state = c.request.state)
    (hfinished : c'.request.responseSerializerProcessingFinished =
      c.request.responseSerializerProcessingFinished)
    (hlist : c'.request.tasks = c.request.tasks) (htasks : c'.tasks = c.tasks)
    (hattaching : c'.attaching = c.attaching)
    (hroot : .startImmediately r ∈ c.root → .startImmediately r ∈ c'.root) : c'.Started r := by
  apply Started.mk
  case counted => rw [htasks, hlist, h.counted]
  case proceeding => rw [hstate]; exact h.proceeding
  case unfinished => rw [hstate, hfinished]; exact h.unfinished
  case begun => rw [hstate, hfinished]; exact h.begun
  case pending =>
    rw [hstate, hattaching]
    exact fun ha hinitialized => hroot (h.pending ha hinitialized)
  case running => rw [hstate, hfinished, htasks]; exact h.running
  case told => rw [htasks]; exact h.told

theorem Started.async (h : c.Started r) (block : Block) : Started r (c.async block) :=
  h.frame rfl rfl rfl rfl rfl fun hmem => List.mem_append_left _ hmem

theorem Started.processNextResponseSerializer (h : c.Started r) :
    Started r c.processNextResponseSerializer := by
  unfold Slice.processNextResponseSerializer
  split
  · exact h.frame rfl rfl rfl rfl rfl id
  · exact h.frame rfl rfl rfl rfl rfl id

theorem Started.responseSerializerDidComplete (h : c.Started r)
    (completion : SerializerCompletion) :
    Started r (c.responseSerializerDidComplete completion) :=
  processNextResponseSerializer (h.frame rfl rfl rfl rfl rfl id)

theorem Started.didParseResponse (h : c.Started r) (handler : Nat) (result : AFResult) :
    Started r (c.didParseResponse r handler result) := by
  cases result with
  | success value => exact h.responseSerializerDidComplete _
  | failure error => exact h.async _

theorem Started.finish (h : c.Started r) : Started r c.finish := by
  unfold Slice.finish
  split
  · exact h
  · exact processNextResponseSerializer (h.frame rfl rfl rfl rfl rfl id)

/-- A request that fails before it has a task is not stopped from being resumed. -/
theorem Started.didFail (h : c.Started r) (error : AFError) : Started r (c.didFail r error) := by
  have hframe : Started r { c with request := { c.request with error := some error } } :=
    h.frame rfl rfl rfl rfl rfl id
  exact hframe.async _

/-- The last event of the task leaves the state to the finalization. -/
theorem Started.didCompleteTask (h : c.Started r) (error : Option AFError) :
    Started r (c.didCompleteTask r error) := by
  have hframe : Started r { c with
      request := { c.request with error := c.request.error.or error } } :=
    h.frame rfl rfl rfl rfl rfl id
  unfold Slice.didCompleteTask retryOrFinish
  dsimp only
  split
  · exact hframe.finish
  · exact hframe.async _

/-- The setup starts nothing: the attempt to resume was posted when the handler was attached. -/
theorem Started.performRequest (h : c.Started r) : Started r (c.performRequest r) :=
  h.frame rfl rfl rfl rfl rfl fun hmem => List.mem_append_left _ hmem

/-! ## Tasks -/

/-- A change of the task that leaves it running if it was. -/
theorem Started.retask {task task' : URLSessionTask} (h : c.Started r) (htasks : c.tasks = [task])
    (hrunning : task'.running = task.running)
    (htold : task'.completed = true ∨ task'.metricsGathered = true → task.running = true) :
    Started r { c with tasks := [task'] } := by
  have hcounted := h.counted
  rw [htasks] at hcounted
  exact { h with
    counted := hcounted
    running := by
      intro hfinished hresumed task'' hmem
      rw [List.mem_singleton.mp hmem, hrunning]
      exact h.running hfinished hresumed task (by simp [htasks])
    told := by
      intro task'' hmem
      rw [List.mem_singleton.mp hmem, hrunning]
      exact htold }

/-- A task that was resumed runs. -/
theorem running_resumeTask {task : URLSessionTask} (hmem : task ∈ c.resumeTask.tasks) :
    task.running = true := by
  obtain ⟨task', -, rfl⟩ := List.mem_map.mp hmem
  rfl

/-- A chunk comes to a task that runs. -/
theorem Started.didReceive (h : c.Started r) (data : Data) : Started r (c.didReceive data) :=
  { h with
    counted := by
      rw [Slice.didReceive, List.length_map]
      exact h.counted
    running := by
      intro hfinished hresumed task hmem
      obtain ⟨task', hmem', rfl⟩ := List.mem_map.mp hmem
      exact h.running hfinished hresumed task' hmem'
    told := by
      intro task hmem htold
      obtain ⟨task', hmem', rfl⟩ := List.mem_map.mp hmem
      exact h.told task' hmem' htold }

/-- A task of a request that is resumed already is resumed with it. -/
theorem Started.didCreateURLRequest (h : c.Started r)
    (hs : c.didCreateURLRequest r t = some c') : Started r c' := by
  have hcounted : (c.createTask r t).tasks.length = (c.createTask r t).request.tasks.length := by
    simp [createTask, h.counted]
  -- A new task has been told nothing, so there is nothing that asks it to run
  have htold : ∀ task ∈ (c.createTask r t).tasks,
      task.completed = true ∨ task.metricsGathered = true → task.running = true := by
    intro task hmem htold
    rcases List.mem_append.mp hmem with hold | hnew
    · exact h.told task hold htold
    · rw [List.mem_singleton.mp hnew] at htold
      simp at htold
  unfold Slice.didCreateURLRequest at hs
  rw [if_neg h.proceeding.2] at hs
  split at hs
  · rw [← Option.some.inj hs]
    -- The five states in which the task can find its request
    unfold updateStatesForTask
    split
    · rename_i hstate
      exact { h with
        counted := hcounted
        told := htold
        running := fun _ hresumed => absurd (hstate.symm.trans hresumed) (by simp) }
    · rename_i hstate
      exact { h with
        counted := hcounted
        told := htold
        running := fun _ hresumed => absurd (hstate.symm.trans hresumed) (by simp) }
    · -- The request was resumed before it had a task
      have hresumed : Started r (c.createTask r t).resumeTask :=
        { h with
          counted := by
            rw [resumeTask, List.length_map]
            exact hcounted
          told := fun task hmem _ => running_resumeTask hmem
          running := fun _ _ task hmem => running_resumeTask hmem }
      exact hresumed.async _
    · rename_i hstate
      exact absurd hstate h.proceeding.1
    · rename_i hstate
      exact absurd hstate h.proceeding.2
  · exact absurd hs (by simp)

/-! ## Resuming -/

/-- The attempt to resume: a request that was not started is, and its task with it. -/
theorem Started.resume (h : c.Started r) (hone : c.request.tasks.length ≤ 1)
    (rest : List Block) : Started r (Slice.resume r { c with root := rest }) := by
  have hlength := h.counted
  -- Only a request in its first state can still become resumed
  by_cases hstate : c.request.state = .initialized
  -- A finished request has left its first state
  · have hfinished : c.request.responseSerializerProcessingFinished = false := by
      cases hf : c.request.responseSerializerProcessingFinished with
      | true => exact absurd hstate (h.begun hf)
      | false => rfl
    unfold Slice.resume
    rw [if_pos (show State.canTransitionTo c.request.state .resumed = true by rw [hstate]; rfl)]
    dsimp only
    -- Whichever tasks are resumed with it, they are running now
    have hframe : ∀ tasks : List URLSessionTask, tasks.length = c.tasks.length →
        (∀ task ∈ tasks, task.running = true) →
        Started r (Slice.async (.eventMonitor r) { c with
          root := rest
          tasks := tasks
          request := { c.request with state := .resumed } }) := by
      intro tasks hcount hrunning
      apply Started.async
      exact
        { counted := hcount.trans hlength
          proceeding := by simp
          unfinished := by simp
          begun := by simp
          pending := by simp
          running := fun _ _ => hrunning
          told := fun task hmem _ => hrunning task hmem }
    split
    · rename_i task hlast
      split
      · -- A completed task is running already
        rename_i hcompleted
        have hlast' : c.tasks.getLast? = some task := hlast
        refine hframe c.tasks rfl fun task' hmem => ?_
        -- There is one task at most, so the last one is all there is
        have heq : c.tasks = [task] := by
          obtain ⟨init, hinit⟩ := List.getLast?_eq_some_iff.mp hlast'
          have hinitLength : init.length = 0 := by
            rw [hinit, List.length_append, List.length_singleton] at hlength
            omega
          rw [hinit, List.length_eq_zero_iff.mp hinitLength, List.nil_append]
        rw [heq, List.mem_singleton] at hmem
        exact h.told task' (by simp [heq, hmem]) (Or.inl (hmem ▸ hcompleted))
      · exact Started.async (hframe _ (List.length_map _)
          fun task hmem => running_resumeTask (c := c) hmem) _
    · rename_i hlast
      have hnone : c.tasks = [] := List.getLast?_eq_none_iff.mp hlast
      exact hframe c.tasks rfl (by simp [hnone])
  · -- In any other state the attempt comes to nothing
    have hcannot : State.canTransitionTo c.request.state .resumed = false := by
      have hproceeding := h.proceeding
      cases hs : c.request.state <;> simp_all [State.canTransitionTo]
    unfold Slice.resume
    rw [if_neg (by simp [hcannot])]
    exact { h with pending := fun _ hinitialized => absurd hinitialized hstate }

/-- Any other block leaves the attempt to resume in the queue. -/
theorem Started.pop (h : c.Started r) (hroot : c.root = block :: rest)
    (hblock : block ≠ .startImmediately r) : Started r { c with root := rest } := by
  -- The attempt is somewhere behind the block that was taken off
  have hkept : .startImmediately r ∈ c.root → .startImmediately r ∈ rest := by
    intro hmem
    rw [hroot] at hmem
    exact (List.mem_cons.mp hmem).resolve_left hblock.symm
  exact h.frame rfl rfl rfl rfl rfl hkept

/-- A block of the root queue; only the attempt to resume starts anything. -/
theorem Started.execute (h : c.Started r) (hone : c.request.tasks.length ≤ 1)
    (hroot : c.root = block :: rest)
    (hs : Slice.execute r t block { c with root := rest } = some c') : Started r c' := by
  cases block with
  | startImmediately r' => exact Option.some.inj hs ▸ h.resume hone rest
  | perform r' =>
    have hpop := h.pop hroot (by simp)
    rw [← Option.some.inj hs]
    split
    · exact hpop
    · exact hpop.frame rfl rfl rfl rfl rfl id
  | didCreateUploadable r' =>
    have hpop := h.pop hroot (by simp)
    rw [← Option.some.inj hs]
    exact hpop.frame rfl rfl rfl rfl rfl id
  | didCreateInitialURLRequest r' =>
    have hpop := h.pop hroot (by simp)
    rw [← Option.some.inj hs]
    exact hpop.frame rfl rfl rfl rfl rfl id
  | didFailToCreateUploadable r' error =>
    exact Option.some.inj hs ▸ (h.pop hroot (by simp)).didFail error
  | didCreateURLRequest r' => exact (h.pop hroot (by simp)).didCreateURLRequest hs
  | didFailToCreateURLRequest r' error =>
    exact Option.some.inj hs ▸ (h.pop hroot (by simp)).didFail error
  | doNotRetry r' => exact Option.some.inj hs ▸ (h.pop hroot (by simp)).finish
  | processNextResponseSerializer r' =>
    exact Option.some.inj hs ▸ (h.pop hroot (by simp)).processNextResponseSerializer
  | didParseResponse r' handler result =>
    exact Option.some.inj hs ▸ (h.pop hroot (by simp)).didParseResponse handler result
  | didNotRetry r' handler response =>
    exact Option.some.inj hs ▸ (h.pop hroot (by simp)).responseSerializerDidComplete _
  | eventMonitor r' => exact Option.some.inj hs ▸ h.pop hroot (by simp)

/-! ## The handler and the end -/

/-- The handler is attached, and with it the attempt to resume is posted if the request can be
resumed. -/
theorem Started.responseJSON (h : c.Started r) : Started r (c.responseJSON r) := by
  -- A handler attached to a finished request opens it again, and no other state changes
  have hreopened : c.request.state.reopened ≠ .suspended ∧
      c.request.state.reopened ≠ .cancelled ∧ c.request.state.reopened ≠ .finished ∧
      (c.request.state.reopened = .initialized ↔ c.request.state = .initialized) := by
    have hproceeding := h.proceeding
    cases hs : c.request.state <;> simp_all [State.reopened]
  obtain ⟨hsuspended, hcancelled, hfinished, hinitialized⟩ := hreopened
  have hattached : ∀ root : List Block,
      (c.request.state.reopened.canTransitionTo .resumed = true →
        .startImmediately r ∈ root) →
      Started r { c with
        request := { c.request with
          responseSerializers := c.request.responseSerializers ++ [r]
          state := c.request.state.reopened }
        root := root
        attaching := false
        overtaken := c.processing || c.overtaken } := by
    intro root hroot
    exact
      { counted := h.counted
        proceeding := ⟨hsuspended, hcancelled⟩
        unfinished := fun _ => hfinished
        begun := fun hf => mt hinitialized.mp (h.begun hf)
        pending := by
          intro _ hi
          apply hroot
          rw [show c.request.state.reopened = .initialized from hi]
          rfl
        running := by
          intro hf hresumed
          -- The request was not finished, so it was resumed before
          apply h.running hf
          have hunfinished := h.unfinished hf
          have hreopened : c.request.state.reopened = .resumed := hresumed
          cases hs : c.request.state <;> simp_all [State.reopened]
        told := h.told }
  unfold Slice.responseJSON appendResponseSerializer
  dsimp only
  -- In all four cases the attempt is posted exactly when the request can be resumed
  split <;> split
  · exact hattached _ fun _ => by simp [Slice.async]
  · rename_i hcannot
    exact hattached _ fun hcan => absurd hcan hcannot
  · exact hattached _ fun _ => by simp [Slice.async]
  · rename_i hcannot
    exact hattached _ fun hcan => absurd hcan hcannot

/-- The request is finished, so it was not left unstarted. -/
theorem Started.completeResponseSerializers (h : c.Started r) :
    Started r c.completeResponseSerializers := by
  have hcleanup : ∀ {c : Slice}, c.Started r → Started r c.cleanup := by
    intro c h
    unfold cleanup
    split
    · exact h.frame rfl rfl rfl rfl rfl id
    · exact h
  -- Neither suspended nor cancelled, the request can always be closed
  have hstate : c.request.state.closed = .finished := by
    have hproceeding := h.proceeding
    cases hs : c.request.state <;> simp_all [State.closed, State.canTransitionTo]
  unfold Slice.completeResponseSerializers
  rw [hstate]
  apply hcleanup
  exact
    { counted := h.counted
      proceeding := by simp
      unfinished := by simp
      begun := by simp
      pending := by simp
      running := by simp
      told := h.told }

/-! ## Every step -/

/-- Every step of a request keeps it going. -/
theorem Started.step {serializer : JSONResponseSerializer} (h : c.Started r)
    (hone : c.request.tasks.length ≤ 1) (hs : Step serializer r c c') : c'.Started r := by
  cases hs with
  | responseJSON ha => exact h.responseJSON
  | runRoot hp hroot hexecute => exact h.execute hone hroot hexecute
  | @runRequest n hp hperforms =>
    have hframe : Started r { c with performs := n } := h.frame rfl rfl rfl rfl rfl id
    exact hframe.performRequest
  | @runSerialization _ rest hp hqueue =>
    have hframe : Started r { c with serialization := rest } := h.frame rfl rfl rfl rfl rfl id
    exact hframe.async _
  | completeResponseSerializers hp => exact h.completeResponseSerializers
  | receiveResponse statusCode htasks hopen =>
    exact h.retask htasks rfl fun htold => h.told _ (by simp [htasks]) htold
  | receiveData data htasks hopen => exact h.didReceive data
  | @collectMetrics task hp htasks hrunning hopen =>
    have hretask : Started r { c with tasks := [{ task with metricsGathered := true }] } :=
      h.retask htasks rfl fun _ => hrunning
    unfold didFinishCollecting
    dsimp only
    split
    · exact hretask.didCompleteTask _
    · exact hretask
  | @complete task error hp htasks hrunning hopen =>
    have hretask : Started r
        { c with tasks := [{ task with completed := true, error := error }] } :=
      h.retask htasks rfl fun _ => hrunning
    unfold didCompleteWithError
    dsimp only
    split
    · exact hretask.didCompleteTask _
    · exact hretask

/-- Every step of a request moves its token on and neither loses it nor makes another. -/
theorem Lifecycle.step {serializer : JSONResponseSerializer} (h : c.Lifecycle r 0 0)
    (hstarted : c.Started r) (hs : Step serializer r c c') : c'.Lifecycle r 0 0 := by
  -- The slice and the request count the same tasks
  have htasks : c.request.tasks = [] → c.tasks = [] := by
    intro hnone
    rw [← List.length_eq_zero_iff, hstarted.counted, hnone, List.length_nil]
  cases hs with
  | responseJSON ha => exact h.responseJSON ha
  | runRoot hp hroot hexecute =>
    exact h.execute hp hstarted.proceeding.2 htasks hroot hexecute
  | @runRequest n hp hperforms =>
    have hsetup := h.setup
    have hmaking : c.making = c.root.countP Block.making + (n + 1) := by rw [making, hperforms]
    -- The token is taken off the request queue, and the setup puts it into the root queue
    have hpopped : Lifecycle r 1 0 { c with performs := n } :=
      { h with
        setup := by
          show c.root.countP Block.making + n + c.ending + c.outstanding + c.finishes.toNat + 1 = 1
          omega
        untasked := fun _ => h.untasked (by omega) }
    exact hpopped.performRequest (h.untasked (by omega))
  | runSerialization hp hqueue => exact h.serialize serializer hqueue
  | completeResponseSerializers hp => exact h.completeResponseSerializers hp
  | receiveResponse statusCode htasks hopen =>
    -- A status code is no delivery, so the token stays with the task
    apply h.retask
    simp [outstanding, htasks, URLSessionTask.delivered]
  | receiveData data htasks hopen => exact h.didReceive data
  | collectMetrics hp htasks hrunning hopen => exact h.didFinishCollecting hp htasks hopen
  | complete error hp htasks hrunning hopen => exact h.didCompleteWithError hp htasks hopen error

end Slice

end ThorChat.Alamofire
