import ThorChat.Alamofire.Outcome
import ThorChat.Alamofire.Simulation

/-!
# What Holds of Every Request

The invariants of a request together (`Sound`), with the temporary file of an upload, which lies
there no longer than until the request is finished. They hold of a request just made and are kept
by every step it can take, so they hold of every request in every state of a session.
-/

namespace ThorChat.Alamofire

open ThorChat.Runtime
open ThorChat.Sources

namespace Slice

/-! ## The temporary file -/

/-- What hardly any step changes. -/
def record (c : Slice) : Bool × Bool × Bool × Convertible × HTTPMethod :=
  (c.made, c.temporaryFile, c.request.responseSerializerProcessingFinished,
    c.request.convertible, c.request.method)

/-- The file belongs to a form, and the request is not finished. -/
def Filed (c : Slice) : Prop :=
  c.temporaryFile = true →
    c.request.responseSerializerProcessingFinished = false ∧
      writesTemporaryFile c.request.convertible = true

variable {serializer : JSONResponseSerializer} {r t : Nat} {c c' : Slice} {block : Block}
variable {rest : List Block}

theorem record_processNextResponseSerializer :
    c.processNextResponseSerializer.record = c.record := by
  unfold processNextResponseSerializer
  split <;> rfl

theorem record_responseSerializerDidComplete (completion : SerializerCompletion) :
    (c.responseSerializerDidComplete completion).record = c.record :=
  record_processNextResponseSerializer

theorem record_didParseResponse {handler : Nat} (result : AFResult) :
    (c.didParseResponse r handler result).record = c.record := by
  cases result with
  | success value => exact record_responseSerializerDidComplete _
  | failure error => rfl

theorem record_finish : c.finish.record = c.record := by
  unfold finish
  split
  · rfl
  · exact record_processNextResponseSerializer

theorem record_didCompleteTask (error : Option AFError) :
    (c.didCompleteTask r error).record = c.record := by
  unfold didCompleteTask retryOrFinish
  dsimp only
  -- An error asks the retry policy first, which only posts a block
  split
  · exact record_finish
  · rfl

theorem record_resume : (c.resume r).record = c.record := by
  unfold resume
  split
  · dsimp only
    split
    · split <;> rfl
    · rfl
  · rfl

theorem record_updateStatesForTask : (c.updateStatesForTask r).record = c.record := by
  unfold updateStatesForTask
  split <;> rfl

/-- No block of the root queue touches the record. -/
theorem record_execute (hs : c.execute r t block = some c') : c'.record = c.record := by
  cases block with
  | perform r' =>
    rw [← Option.some.inj hs]
    split <;> rfl
  | didCreateUploadable r' => exact Option.some.inj hs ▸ rfl
  | didFailToCreateUploadable r' error => exact Option.some.inj hs ▸ rfl
  | didCreateInitialURLRequest r' => exact Option.some.inj hs ▸ rfl
  -- The one block that can trap: the request may have a task already
  | didCreateURLRequest r' =>
    simp only [execute, didCreateURLRequest] at hs
    split at hs
    · exact Option.some.inj hs ▸ rfl
    · split at hs
      · rw [← Option.some.inj hs, record_updateStatesForTask]
        rfl
      · exact absurd hs (by simp)
  | didFailToCreateURLRequest r' error => exact Option.some.inj hs ▸ rfl
  | doNotRetry r' => exact Option.some.inj hs ▸ record_finish
  | startImmediately r' => exact Option.some.inj hs ▸ record_resume
  | processNextResponseSerializer r' =>
    exact Option.some.inj hs ▸ record_processNextResponseSerializer
  | didParseResponse r' handler result => exact Option.some.inj hs ▸ record_didParseResponse result
  | didNotRetry r' handler response =>
    exact Option.some.inj hs ▸ record_responseSerializerDidComplete _
  | eventMonitor r' => exact Option.some.inj hs ▸ rfl

/-- Attaching a handler, even to a finished request, leaves the record alone. -/
theorem record_responseJSON : (c.responseJSON r).record = c.record := by
  unfold responseJSON appendResponseSerializer
  dsimp only
  split <;> split <;> rfl

/-- Only performing a request and finishing it touch the record. -/
theorem record_step (hs : Step serializer r c c') :
    c'.record = c.record ∨
      (∃ n, c.performs = n + 1 ∧ c' = performRequest r { c with performs := n }) ∨
      (c.processing = true ∧ c' = c.completeResponseSerializers) := by
  cases hs with
  | responseJSON ha => exact Or.inl record_responseJSON
  | runRoot hp hroot hexecute => exact Or.inl ((record_execute hexecute).trans rfl)
  | runRequest hp hperforms => exact Or.inr (Or.inl ⟨_, hperforms, rfl⟩)
  | runSerialization hp hqueue => exact Or.inl rfl
  | completeResponseSerializers hp => exact Or.inr (Or.inr ⟨hp, rfl⟩)
  | receiveResponse statusCode htasks hopen => exact Or.inl rfl
  | receiveData data htasks hopen => exact Or.inl rfl
  -- The second of the two last events of the task completes it
  | collectMetrics hp htasks hrunning hopen =>
    refine Or.inl ?_
    unfold didFinishCollecting
    dsimp only
    split
    · exact record_didCompleteTask _
    · rfl
  | complete error hp htasks hrunning hopen =>
    refine Or.inl ?_
    unfold didCompleteWithError
    dsimp only
    split
    · exact record_didCompleteTask _
    · rfl

/-- What a request was made from never changes. -/
theorem made_from_step (hs : Step serializer r c c') :
    c'.request.method = c.request.method ∧ c'.request.convertible = c.request.convertible := by
  -- A step that keeps the record keeps these two fields of it
  rcases record_step hs with hrecord | ⟨n, -, rfl⟩ | ⟨-, rfl⟩
  · simp only [record, Prod.mk.injEq] at hrecord
    exact ⟨hrecord.2.2.2.2, hrecord.2.2.2.1⟩
  · exact ⟨rfl, rfl⟩
  · unfold completeResponseSerializers cleanup
    split <;> exact ⟨rfl, rfl⟩

/-- A finished request has been prepared to the end: it has its task, or its setup failed. -/
theorem Prepared.finished (h : c.Prepared r) (hlife : c.Lifecycle r 0 0)
    (hf : c.finishes = true) :
    (writesTemporaryFile c.request.convertible = true → c.request.uploadable = true) ∧
      (∀ error, c.request.convertible.setupError = some error →
        c.request.tasks = [] ∧ c.request.error = some error) ∧
      (c.request.convertible.setupError = none →
        c.request.tasks ≠ [] ∧ c.request.requests = [c.request.method] ∧
          c.request.error = c.tasks.findSome? URLSessionTask.told) ∧
      c.request.data = collected (c.tasks.flatMap (·.received)) := by
  -- A block of the setup still to come would keep the request unfinished
  have hpreparing : c.preparing = [] := by
    by_contra hsome
    rw [hlife.unfinished_of_preparing h hsome] at hf
    exact absurd hf (by simp)
  cases h with
  -- Not even performed yet
  | waiting hqueue hu hr he hd =>
    have hmaking := making_of_waiting hqueue
    rw [hlife.unfinished (by omega)] at hf
    exact absurd hf (by simp)
  | performed done hp hqueue hu hr ht he hd =>
    rw [hpreparing, List.append_nil] at hqueue
    subst hqueue
    rw [hpreparing] at he
    refine ⟨?file, ?failed, ?created, hd⟩
    case file =>
      intro hwrites
      rw [hu]
      -- By what the request is made from, and by what goes wrong on the way
      rcases hc : c.request.convertible with (_ | e) | ⟨_ | e, _ | e'⟩ <;>
        simp_all [setup, writesTemporaryFile]
    case failed =>
      intro error herror
      rw [herror] at he
      refine ⟨not_not.mp (mt ht.mpr ?_), he⟩
      rcases hc : c.request.convertible with (_ | e) | ⟨_ | e, _ | e'⟩ <;>
        simp_all [setup, Convertible.setupError]
    case created =>
      intro herror
      rw [herror] at he
      refine ⟨ht.mp ?_, hr.1 ?_, he⟩ <;>
        rcases hc : c.request.convertible with (_ | e) | ⟨_ | e, _ | e'⟩ <;>
          simp_all [setup, Convertible.setupError]

/-- The file belongs to an unfinished form after every step: performing the request writes it, and
finishing the request removes it. -/
theorem Filed.step (h : c.Filed) (hlife : c.Lifecycle r 0 0) (hprepared : c.Prepared r)
    (hs : Step serializer r c c') : c'.Filed := by
  rcases record_step hs with hrecord | ⟨n, hperforms, rfl⟩ | ⟨hp, rfl⟩
  · simp only [record, Prod.mk.injEq] at hrecord
    obtain ⟨-, hfile, hfinished, hconvertible, -⟩ := hrecord
    unfold Filed
    rw [hfile, hfinished, hconvertible]
    exact h
  -- Performing the request may write the file, while it is not finished
  · intro hfile
    have hf := hlife.unfinished (by rw [making, hperforms]; omega)
    rw [finishes, Bool.or_eq_false_iff] at hf
    refine ⟨hf.2, ?_⟩
    simp only [performRequest, Bool.or_eq_true] at hfile
    exact hfile.elim id fun hold => (h hold).2
  · -- The processing is a token, so the request has been finished and prepared
    have hdue : c.due = true := hlife.due_eq_true (by simp [serializing, hp])
    have hf : c.finishes = true := finishes_of_due hdue
    have hupload := (hprepared.finished hlife hf).1
    unfold completeResponseSerializers cleanup
    split
    -- The cleanup removes the file of an upload
    · simp [Filed]
    · rename_i hnot
      intro hfile
      exact absurd (hupload (h hfile).2) hnot

/-! ## All together -/

/-- What holds of a request in every state of a session. -/
structure Sound (serializer : JSONResponseSerializer) (r : Nat) (c : Slice) : Prop where
  made : c.made = true
  lifecycle : c.Lifecycle r 0 0
  started : c.Started r
  prepared : c.Prepared r
  answered : c.Answered serializer
  filed : c.Filed

/-- A request just made has nothing behind it but the block that performs it. -/
theorem Sound.fresh (serializer : JSONResponseSerializer) (r : Nat) (method : HTTPMethod)
    (convertible : Convertible) : (Slice.fresh r method convertible).Sound serializer r := by
  have hlifecycle : (Slice.fresh r method convertible).Lifecycle r 0 0 := by
    constructor <;> simp [Slice.fresh, unmade, making, ending, outstanding, finishes,
      serializing, due, Block.making, Block.ending, Block.serializing, Block.parsed]
  have hstarted : (Slice.fresh r method convertible).Started r := by
    constructor <;> simp [Slice.fresh, unmade]
  -- Nothing has been posted, nobody has been answered
  apply Sound.mk rfl hlifecycle hstarted
  case prepared =>
    exact .waiting (Or.inl ⟨by simp [preparing, Slice.fresh, Block.preparing], rfl⟩) rfl rfl rfl rfl
  case answered =>
    apply Answered.quiet <;> simp [Slice.fresh, unmade, Block.parsed]
  case filed => simp [Filed, Slice.fresh, unmade]

/-- Every step a request can take keeps the invariants; each of them uses those before it. -/
theorem Sound.step (h : c.Sound serializer r) (hs : Step serializer r c c') :
    c'.Sound serializer r := by
  -- Only the making of a request makes it
  have hmade : c'.made = c.made := by
    rcases record_step hs with hrecord | ⟨n, -, rfl⟩ | ⟨-, rfl⟩
    · exact congrArg Prod.fst hrecord
    · rfl
    · unfold completeResponseSerializers cleanup
      split <;> rfl
  exact
    { made := hmade.trans h.made
      lifecycle := h.lifecycle.step h.started hs
      started := h.started.step h.lifecycle.oneTask hs
      prepared := h.prepared.step h.lifecycle h.started hs
      answered := h.answered.step h.lifecycle h.started h.prepared hs
      filed := h.filed.step h.lifecycle h.prepared hs }

/-- Nothing can happen to a request that was not made. -/
theorem not_step_unmade : ¬ Step serializer r unmade c := by
  intro hs
  cases hs with
  | responseJSON ha => exact absurd ha (by simp [unmade])
  | runRoot hp hroot hexecute => exact absurd hroot (by simp [unmade])
  | runRequest hp hperforms => exact absurd hperforms (by simp [unmade])
  | runSerialization hp hqueue => exact absurd hqueue (by simp [unmade])
  | completeResponseSerializers hp => exact absurd hp (by simp [unmade])
  | receiveResponse statusCode htasks hopen => exact absurd htasks (by simp [unmade])
  | receiveData data htasks hopen => exact absurd htasks (by simp [unmade])
  | collectMetrics hp htasks hrunning hopen => exact absurd htasks (by simp [unmade])
  | complete error hp htasks hrunning hopen => exact absurd htasks (by simp [unmade])

end Slice

end ThorChat.Alamofire
