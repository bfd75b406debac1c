import ThorChat.Alamofire.Lifecycle

/-!
# A Handler on Its Way

Each operation of a request keeps the count of the tokens (`Lifecycle`), and so does every step
a request can take.
-/

namespace ThorChat.Alamofire

open ThorChat.Runtime
open ThorChat.Sources

namespace Slice

variable {r missing owed : Nat} {c c' : Slice} {block : Block}

/-- There is at most one serializer, the request's own. -/
theorem Lifecycle.serializers_eq (h : c.Lifecycle r missing owed) :
    c.request.responseSerializers = [] ∨ c.request.responseSerializers = [r] := by
  have hlength : c.request.responseSerializers.length ≤ 1 := by
    cases ha : c.attaching with
    | true => simp [(h.attaching ha).1]
    | false =>
      -- The handler is in one place only once it is attached
      have hattached := h.attached ha
      omega
  have hmine := h.serializersMine
  generalize c.request.responseSerializers = serializers at hlength hmine
  -- Two of them would be one too many
  match serializers with
  | [] => exact Or.inl rfl
  | [handler] => exact Or.inr (by rw [hmine handler (by simp)])
  | _ :: _ :: _ => simp at hlength

/-- No completion is stored before the last serializer has run. -/
theorem Lifecycle.completions_eq (h : c.Lifecycle r missing owed) (hp : c.processing = false) :
    c.request.responseSerializerCompletions = [] := by
  have hcompletions := h.completions
  rw [hp] at hcompletions
  simpa using hcompletions

/-- The round goes to the serializer if there is one, and else to the finalization. -/
theorem Lifecycle.processNextResponseSerializer (h : c.Lifecycle r 0 1)
    (hp : c.processing = false) : Lifecycle r 0 0 c.processNextResponseSerializer := by
  have hcompletions := h.completions_eq hp
  rcases h.serializers_eq with hs | hs
  -- No serializer: the handler is not attached yet
  · have hnext : Session.nextResponseSerializer c.request = none := by
      simp [Session.nextResponseSerializer, hs]
    rw [Slice.processNextResponseSerializer, hnext]
    exact h.processNone hp hs
  · have hnext : Session.nextResponseSerializer c.request = some r := by
      simp [Session.nextResponseSerializer, hs, hcompletions]
    rw [Slice.processNextResponseSerializer, hnext]
    exact h.serializeNext hs

/-- The completion is stored, and with every serializer done the request is finalized. -/
theorem Lifecycle.responseSerializerDidComplete (h : c.Lifecycle r 0 1)
    (hp : c.processing = false) (hs : c.request.responseSerializers = [r])
    (response : AFDataResponse) :
    Lifecycle r 0 0 (c.responseSerializerDidComplete (r, response)) := by
  have hcompletions := h.completions_eq hp
  -- As many completions as serializers, so there is no next one
  have hnext : Session.nextResponseSerializer { c.request with
      responseSerializerCompletions :=
        c.request.responseSerializerCompletions ++ [(r, response)] } = none := by
    simp [Session.nextResponseSerializer, hs, hcompletions]
  rw [Slice.responseSerializerDidComplete, Slice.processNextResponseSerializer, hnext]
  exact h.processCompleted hp hs response

/-- The token of the setup is used up, and one for the serializers takes its place. -/
theorem Lifecycle.finish (h : c.Lifecycle r 1 0) (hp : c.processing = false) :
    Lifecycle r 0 0 c.finish := by
  -- The token becomes one on the way through the serialization queue
  obtain ⟨hnot, hfinish⟩ := h.startFinishing
  rw [Slice.finish, if_neg (by simp [hnot])]
  exact hfinish.processNextResponseSerializer hp

/-- With an error the token goes round by the answer of the retrier. -/
theorem Lifecycle.retryOrFinish (h : c.Lifecycle r 1 0) (hp : c.processing = false)
    (error : Option AFError) : Lifecycle r 0 0 (c.retryOrFinish r error) := by
  cases error with
  | none => exact h.finish hp
  | some error =>
    -- The retrier is asked, and `finish` waits for its answer
    apply Lifecycle.push h
    case hmaking => simp [Block.making]
    case hparsed => simp [Block.parsed]

/-- A failure before the task: the token passes on to the answer of the retrier. -/
theorem Lifecycle.didFail (h : c.Lifecycle r 1 0) (error : AFError) :
    Lifecycle r 0 0 (c.didFail r error) := by
  apply Lifecycle.push (h.touch { c.request with error := some error } rfl rfl rfl rfl rfl)
  case hmaking => simp [Block.making]
  case hparsed => simp [Block.parsed]

/-- The token of the delivered task passes on to the finish. -/
theorem Lifecycle.didCompleteTask (h : c.Lifecycle r 1 0) (hp : c.processing = false)
    (error : Option AFError) : Lifecycle r 0 0 (c.didCompleteTask r error) :=
  (h.touch { c.request with error := c.request.error.or error } rfl rfl rfl rfl
    rfl).retryOrFinish hp _

/-- A block without a token. -/
theorem Lifecycle.pushIdle (h : c.Lifecycle r missing owed) (hmaking : block.making = false)
    (hending : block.ending = false) (hserializing : block.serializing = false) :
    Lifecycle r missing owed (c.async block) := by
  apply Lifecycle.push
  case h => simpa [hmaking, hending, hserializing] using h
  case hmaking => simp [hmaking]
  case hparsed =>
    intro handler hparsed
    -- A block without a token carries no result either
    cases block <;> simp_all [Block.parsed, Block.serializing]

/-- A resumed task is as much delivered as it was. -/
theorem Lifecycle.resumeTask (h : c.Lifecycle r missing owed) :
    Lifecycle r missing owed c.resumeTask := by
  apply h.retask
  simp only [outstanding, List.countP_map]
  rfl

/-- Resuming posts only what the event monitor is told. -/
theorem Lifecycle.resume (h : c.Lifecycle r missing owed) :
    Lifecycle r missing owed (c.resume r) := by
  unfold Slice.resume
  split
  · have hresumed : Lifecycle r missing owed (Slice.async (.eventMonitor r)
        { c with request := { c.request with state := .resumed } }) :=
      (h.touch { c.request with state := .resumed } rfl rfl rfl rfl rfl).pushIdle rfl rfl rfl
    dsimp only
    split
    · split
      · exact hresumed
      · exact hresumed.resumeTask.pushIdle rfl rfl rfl
    · exact hresumed
  · exact h

/-- Nor does a new task that is told the state of its request carry a token about. -/
theorem Lifecycle.updateStatesForTask (h : c.Lifecycle r missing owed) :
    Lifecycle r missing owed (c.updateStatesForTask r) := by
  unfold Slice.updateStatesForTask
  split
  · exact h
  · exact h
  · exact h.resumeTask.pushIdle rfl rfl rfl
  · exact h.pushIdle rfl rfl rfl
  · exact h.resumeTask.pushIdle rfl rfl rfl

/-- The token of the block becomes that of the task it makes. -/
theorem Lifecycle.didCreateURLRequest {t : Nat} (h : c.Lifecycle r 1 0)
    (hstate : c.request.state ≠ .cancelled) (hnone : c.request.tasks = []) (htasks : c.tasks = [])
    (hs : c.didCreateURLRequest r t = some c') : Lifecycle r 0 0 c' := by
  unfold Slice.didCreateURLRequest at hs
  rw [if_neg hstate] at hs
  split at hs
  · rw [← Option.some.inj hs]
    exact (h.addTask hnone rfl htasks).updateStatesForTask
  · exact absurd hs (by simp)

/-- A block that ends in `finish`. -/
theorem Lifecycle.pushEnding (h : c.Lifecycle r 1 0) (hmaking : block.making = false)
    (hending : block.ending = true) (hserializing : block.serializing = false) :
    Lifecycle r 0 0 (c.async block) := by
  apply Lifecycle.push
  case h => simpa [hmaking, hending, hserializing] using h
  case hmaking => simp [hmaking]
  case hparsed =>
    intro handler hparsed
    cases block <;> simp_all [Block.parsed, Block.serializing]

/-- The block that will make the task holds its token. -/
theorem Lifecycle.pushCreate (h : c.Lifecycle r 1 0) (hnone : c.request.tasks = []) :
    Lifecycle r 0 0 (c.async (.didCreateURLRequest r)) := by
  apply Lifecycle.push h
  case hmaking => exact fun _ => hnone
  case hparsed => simp [Block.parsed]

/-- What the setup posts carries one token. -/
theorem Lifecycle.performRequest (h : c.Lifecycle r 1 0) (hnone : c.request.tasks = []) :
    Lifecycle r 0 0 (c.performRequest r) := by
  have hfile : ∀ temporaryFile, Lifecycle r 1 0 { c with temporaryFile := temporaryFile } :=
    fun temporaryFile => { h with }
  unfold Slice.performRequest
  generalize (writesTemporaryFile c.request.convertible || c.temporaryFile) = temporaryFile
  replace h := hfile temporaryFile
  generalize hnew : { c with temporaryFile := temporaryFile } = new at h
  have hnewNone : new.request.tasks = [] := hnew ▸ hnone
  have hroot : { c with
      root := c.root ++ Slice.setup r c.request.convertible
      temporaryFile := temporaryFile } =
        { new with root := new.root ++ Slice.setup r c.request.convertible } := by
    rw [← hnew]
  rw [hroot]
  -- Each kind of setup posts blocks without a token first and the one with the token last
  cases c.request.convertible with
  | request error =>
    cases error with
    | some error => exact h.pushEnding rfl rfl rfl
    | none =>
      have hinitial : Lifecycle r 1 0 (new.async (.didCreateInitialURLRequest r)) :=
        h.pushIdle rfl rfl rfl
      have hpushed := hinitial.pushCreate hnewNone
      simpa [async, Slice.setup] using hpushed
  | upload uploadableError error =>
    cases uploadableError with
    | some uploadableError => exact h.pushEnding rfl rfl rfl
    | none =>
      have huploadable : Lifecycle r 1 0 (new.async (.didCreateUploadable r)) :=
        h.pushIdle rfl rfl rfl
      cases error with
      | some error =>
        have hpushed : Lifecycle r 0 0 ((new.async (.didCreateUploadable r)).async
            (.didFailToCreateURLRequest r error)) := huploadable.pushEnding rfl rfl rfl
        simpa [async, Slice.setup] using hpushed
      | none =>
        have hinitial : Lifecycle r 1 0 ((new.async (.didCreateUploadable r)).async
            (.didCreateInitialURLRequest r)) := huploadable.pushIdle rfl rfl rfl
        have hpushed := hinitial.pushCreate hnewNone
        simpa [async, Slice.setup] using hpushed

/-- The token goes over to the request queue. -/
theorem Lifecycle.perform (h : c.Lifecycle r 1 0) (hnone : c.request.tasks = []) :
    Lifecycle r 0 0 { c with performs := c.performs + 1 } := by
  have hsetup := h.setup
  exact { h with
    setup := by
      show c.root.countP Block.making + (c.performs + 1) + c.ending + c.outstanding +
        c.finishes.toNat + 0 = 1
      simp only [making] at hsetup
      omega
    untasked := fun _ => hnone }

/-- A result becomes a completion, or asks the retrier about its failure first. -/
theorem Lifecycle.didParseResponse (h : c.Lifecycle r 0 1) (hp : c.processing = false)
    (hs : c.request.responseSerializers = [r]) (result : AFResult) :
    Lifecycle r 0 0 (c.didParseResponse r r result) := by
  cases result with
  | success value => exact h.responseSerializerDidComplete hp hs _
  | failure error =>
    apply Lifecycle.push h
    case hmaking => simp [Block.making]
    case hparsed =>
      intro handler hparsed
      simp only [Block.parsed, Option.some.injEq] at hparsed
      exact ⟨hparsed.symm, hs⟩

/-- The serializer runs on its queue, and its result comes back to the root queue. -/
theorem Lifecycle.serialize {handler : Nat} {rest : List Nat}
    (serializer : JSONResponseSerializer) (h : c.Lifecycle r 0 0)
    (hqueue : c.serialization = handler :: rest) :
    Lifecycle r 0 0
      (Slice.serialize serializer r handler { c with serialization := rest }) := by
  obtain ⟨rfl, hs⟩ := h.serializationMine handler (by simp [hqueue])
  have hserial := h.serial
  -- The handler is taken off the queue with its token
  have hpopped : Lifecycle handler 0 1 { c with serialization := rest } :=
    { h with
      serial := by
        show c.root.countP Block.serializing + rest.length + c.processing.toNat + 1 = c.due.toNat
        simp only [serializing, hqueue, List.length_cons] at hserial
        omega
      serializationMine := fun handler' hmem =>
        h.serializationMine handler' (by simp [hqueue, show handler' ∈ rest from hmem]) }
  apply Lifecycle.push hpopped
  case hmaking => simp [Block.making]
  case hparsed =>
    intro handler' hparsed
    simp only [Block.parsed, Option.some.injEq] at hparsed
    exact ⟨hparsed.symm, hs⟩

/-- The handler is attached by the main thread, wherever the request is by then. -/
theorem Lifecycle.responseJSON (h : c.Lifecycle r 0 0) (ha : c.attaching = true) :
    Lifecycle r 0 0 (c.responseJSON r) := by
  have hattach := h.attach ha c.request.state.reopened
  unfold Slice.responseJSON appendResponseSerializer
  dsimp only
  split
  · -- The processing has finished: the round that the handler owes is posted
    rename_i hfinished
    rw [hfinished] at hattach
    have hpushed : Lifecycle r 0 0 (async (.processNextResponseSerializer r) { c with
        request := { c.request with
          responseSerializers := c.request.responseSerializers ++ [r]
          state := c.request.state.reopened }
        attaching := false
        overtaken := c.processing || c.overtaken }) := by
      apply Lifecycle.push hattach
      case hmaking => simp [Block.making]
      case hparsed => simp [Block.parsed]
    split
    · exact hpushed.pushIdle rfl rfl rfl
    · exact hpushed
  · -- It has not, and will come to the handler by itself
    rename_i hfinished
    rw [Bool.eq_false_iff.mpr hfinished] at hattach
    split
    · exact Lifecycle.pushIdle hattach rfl rfl rfl
    · exact hattach

/-- The events of the task: its request is told as the second of the two comes. -/
theorem Lifecycle.didFinishCollecting {task : URLSessionTask} (h : c.Lifecycle r 0 0)
    (hp : c.processing = false) (htasks : c.tasks = [task])
    (hopen : task.metricsGathered = false) :
    Lifecycle r 0 0 (c.didFinishCollecting r task) := by
  unfold Slice.didFinishCollecting
  dsimp only
  split
  · rename_i hcompleted
    -- The task was completed before, so this event delivers it and frees its token
    have hretask : Lifecycle r 1 0 { c with tasks := [{ task with metricsGathered := true }] } := by
      apply h.retask
      simp [outstanding, htasks, URLSessionTask.delivered, hopen, hcompleted]
    exact hretask.didCompleteTask hp _
  · rename_i hcompleted
    apply h.retask
    simp [outstanding, htasks, URLSessionTask.delivered, hopen, hcompleted]

/-- As for the metrics, with the error of the task. -/
theorem Lifecycle.didCompleteWithError {task : URLSessionTask} (h : c.Lifecycle r 0 0)
    (hp : c.processing = false) (htasks : c.tasks = [task]) (hopen : task.completed = false)
    (error : Option AFError) : Lifecycle r 0 0 (c.didCompleteWithError r task error) := by
  unfold Slice.didCompleteWithError
  dsimp only
  split
  · rename_i hmetrics
    -- The metrics came before
    have hretask : Lifecycle r 1 0
        { c with tasks := [{ task with completed := true, error := error }] } := by
      apply h.retask
      simp [outstanding, htasks, URLSessionTask.delivered, hopen, hmetrics]
    exact hretask.didCompleteTask hp _
  · rename_i hmetrics
    apply h.retask
    simp [outstanding, htasks, URLSessionTask.delivered, hopen, hmetrics]

/-- A chunk of data delivers nothing yet. -/
theorem Lifecycle.didReceive (h : c.Lifecycle r 0 0) (data : Data) :
    Lifecycle r 0 0 (c.didReceive data) := by
  have hretask : Lifecycle r 0 0 { c with
      tasks := c.tasks.map fun task => { task with received := task.received ++ [data] } } := by
    apply h.retask
    simp only [outstanding, List.countP_map]
    rfl
  exact hretask.touch _ rfl rfl rfl rfl rfl

/-- The round is over, and the temporary file is removed with it. -/
theorem Lifecycle.completeResponseSerializers (h : c.Lifecycle r 0 0) (hp : c.processing = true) :
    Lifecycle r 0 0 c.completeResponseSerializers := by
  have hcleanup : ∀ {c : Slice}, c.Lifecycle r 0 0 → Lifecycle r 0 0 c.cleanup := by
    intro c h
    unfold cleanup
    split
    · exact { h with }
    · exact h
  exact hcleanup (h.complete hp _)

/-- A block of the root queue does what its tokens stand for. -/
theorem Lifecycle.execute {t : Nat} {rest : List Block} (h : c.Lifecycle r 0 0)
    (hp : c.processing = false) (hstate : c.request.state ≠ .cancelled)
    (htasks : c.request.tasks = [] → c.tasks = []) (hroot : c.root = block :: rest)
    (hs : Slice.execute r t block { c with root := rest } = some c') : Lifecycle r 0 0 c' := by
  -- The token of the block is in hand while it runs, and each block passes it on
  have hpop := h.pop hroot
  have hnone : block.making = true → c.request.tasks = [] := by
    intro hmaking
    -- The block itself is a token on the way to a task
    apply h.untasked
    simp only [making, hroot, countP_cons_toNat, hmaking, Bool.toNat_true]
    omega
  cases block with
  | perform r' =>
    rw [← Option.some.inj hs, if_neg (by exact hstate)]
    exact Lifecycle.perform hpop (hnone rfl)
  | didCreateUploadable r' =>
    rw [← Option.some.inj hs]
    exact Lifecycle.touch hpop _ rfl rfl rfl rfl rfl
  | didFailToCreateUploadable r' error =>
    rw [← Option.some.inj hs]
    exact Lifecycle.didFail hpop error
  | didCreateInitialURLRequest r' =>
    rw [← Option.some.inj hs]
    exact Lifecycle.touch hpop _ rfl rfl rfl rfl rfl
  | didCreateURLRequest r' =>
    exact Lifecycle.didCreateURLRequest hpop hstate (hnone rfl) (htasks (hnone rfl)) hs
  | didFailToCreateURLRequest r' error =>
    rw [← Option.some.inj hs]
    exact Lifecycle.didFail hpop error
  | doNotRetry r' =>
    rw [← Option.some.inj hs]
    exact Lifecycle.finish hpop hp
  | startImmediately r' =>
    rw [← Option.some.inj hs]
    exact Lifecycle.resume hpop
  | processNextResponseSerializer r' =>
    rw [← Option.some.inj hs]
    exact Lifecycle.processNextResponseSerializer hpop hp
  | didParseResponse r' handler result =>
    -- The result is of the one handler, whose serializer is still in the list
    have hmem : Block.didParseResponse r' handler result ∈ c.root := by simp [hroot]
    obtain ⟨rfl, hserializers⟩ := h.parsedMine _ hmem handler rfl
    rw [← Option.some.inj hs]
    exact Lifecycle.didParseResponse hpop hp hserializers result
  | didNotRetry r' handler response =>
    have hmem : Block.didNotRetry r' handler response ∈ c.root := by simp [hroot]
    obtain ⟨rfl, hserializers⟩ := h.parsedMine _ hmem handler rfl
    rw [← Option.some.inj hs]
    exact Lifecycle.responseSerializerDidComplete hpop hp hserializers response
  | eventMonitor r' =>
    rw [← Option.some.inj hs]
    exact hpop

end Slice

end ThorChat.Alamofire
