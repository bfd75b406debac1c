import ThorChat.Alamofire.Preparation

/-!
# What a Handler Is Called With

By the time a serializer runs, the request has been told everything it is going to be told. So
the response that is put together then is the one that is posted in the end (`Answered`), and the
temporary file of an upload is gone by that time (`Filed`).
-/

namespace ThorChat.Alamofire

open ThorChat.Runtime
open ThorChat.Sources

namespace Slice

/-- The response a handler would be called with now. -/
def answer (serializer : JSONResponseSerializer) (c : Slice) : AFDataResponse where
  statusCode := c.statusCode
  data := c.request.data
  result := serializer.serialize c.request.requests.getLast? c.statusCode c.request.data
    c.request.error

/-- Every result on its way is the one the request would have now. -/
structure Answered (serializer : JSONResponseSerializer) (c : Slice) : Prop where
  parsed : ∀ r handler result, .didParseResponse r handler result ∈ c.root →
    result = (c.answer serializer).result
  notRetried : ∀ r handler response, .didNotRetry r handler response ∈ c.root →
    response = c.answer serializer
  stored : ∀ entry ∈ c.request.responseSerializerCompletions, entry.2 = c.answer serializer
  posted : ∀ response ∈ c.posted, response = c.answer serializer

variable {serializer : JSONResponseSerializer} {r t : Nat} {c c' : Slice} {block : Block}
variable {rest : List Block}

/-- Nothing new is on its way, and the request would have the same result. -/
theorem Answered.frame (h : c.Answered serializer)
    (hanswer : c'.answer serializer = c.answer serializer)
    (hroot : ∀ block ∈ c'.root, block ∈ c.root ∨ block.parsed = none)
    (hstored : c'.request.responseSerializerCompletions = c.request.responseSerializerCompletions)
    (hposted : c'.posted = c.posted) : c'.Answered serializer := by
  apply Answered.mk
  case parsed =>
    intro r handler result hmem
    rw [hanswer]
    -- A block that is new carries no result, so the one with the result is old
    rcases hroot _ hmem with hold | hnew
    · exact h.parsed r handler result hold
    · simp [Block.parsed] at hnew
  case notRetried =>
    intro r handler response hmem
    rw [hanswer]
    rcases hroot _ hmem with hold | hnew
    · exact h.notRetried r handler response hold
    · simp [Block.parsed] at hnew
  case stored =>
    rw [hstored, hanswer]
    exact h.stored
  case posted =>
    rw [hposted, hanswer]
    exact h.posted

/-- Nothing at all is on its way. -/
theorem Answered.quiet (hroot : ∀ block ∈ c.root, block.parsed = none)
    (hstored : c.request.responseSerializerCompletions = []) (hposted : c.posted = []) :
    c.Answered serializer := by
  apply Answered.mk
  case parsed =>
    intro r handler result hmem
    exact absurd (hroot _ hmem) (by simp [Block.parsed])
  case notRetried =>
    intro r handler response hmem
    exact absurd (hroot _ hmem) (by simp [Block.parsed])
  case stored => simp [hstored]
  case posted => simp [hposted]

/-! ## Before the request is finished -/

/-- Before `finish` is called no serializer is under way. -/
theorem Lifecycle.quiet (h : c.Lifecycle r 0 0) (hf : c.finishes = false) :
    (∀ block ∈ c.root, block.parsed = none) ∧
      c.request.responseSerializerCompletions = [] ∧ c.posted = [] := by
  have hserial := h.serial
  simp only [finishes, Bool.or_eq_false_iff] at hf
  have hdue : c.due = false := by simp [due, hf.1, hf.2]
  simp only [hdue, Bool.toNat_false, serializing] at hserial
  -- With nothing due the count of serializers under way is zero, and the queues are part of it
  have hprocessing : c.processing = false := by
    cases hp : c.processing with
    | true => simp [hp] at hserial
    | false => rfl
  refine ⟨?_, h.completions_eq hprocessing, ?_⟩
  · intro block hmem
    have hcount : c.root.countP Block.serializing = 0 := by omega
    have hnot := List.countP_eq_zero.mp hcount block hmem
    -- Of the blocks only those of a serializer under way carry a result
    cases block <;> simp_all [Block.parsed, Block.serializing]
  -- Each of the handlers is waiting or posted, and the only one there is waits
  · cases ha : c.attaching with
    | true => exact (h.attaching ha).2.1
    | false =>
      have hattached := h.attached ha
      rcases h.serializers_eq with hs | hs
      · have hpf := h.cleared ha hs
        rw [hf.2] at hpf
        exact absurd hpf (by simp)
      · rw [hs, List.length_singleton] at hattached
        exact List.length_eq_zero_iff.mp (by omega)

/-- A token on its way to `finish` has not come there. -/
theorem Lifecycle.unfinished (h : c.Lifecycle r 0 0)
    (htoken : 0 < c.making + c.ending + c.outstanding) : c.finishes = false := by
  -- There is one token in all, and finishing takes it
  have hsetup := h.setup
  cases hf : c.finishes with
  | true =>
    rw [hf, Bool.toNat_true] at hsetup
    omega
  | false => rfl

/-- A block that makes the task counts as a token. -/
theorem making_pos (hmem : block ∈ c.root) (hmaking : block.making = true) : 0 < c.making := by
  have hcount : 0 < c.root.countP Block.making := List.countP_pos_iff.mpr ⟨block, hmem, hmaking⟩
  rw [making]
  omega

/-- A block that ends the request counts as a token. -/
theorem ending_pos (hmem : block ∈ c.root) (hending : block.ending = true) : 0 < c.ending :=
  List.countP_pos_iff.mpr ⟨block, hmem, hending⟩

/-- A task that was not delivered counts as a token. -/
theorem outstanding_eq_one {task : URLSessionTask} (htasks : c.tasks = [task])
    (hopen : task.delivered = false) : c.outstanding = 1 := by
  simp [outstanding, htasks, hopen]

/-- While anything is left of the preparation the request is not finished. -/
theorem Lifecycle.unfinished_of_preparing (h : c.Lifecycle r 0 0) (hprepared : c.Prepared r)
    (hpreparing : c.preparing ≠ []) : c.finishes = false := by
  have hsub : ∀ block ∈ c.preparing, block ∈ c.root := fun block hmem =>
    (List.mem_filter.mp hmem).1
  apply h.unfinished
  cases hprepared with
  | waiting hqueue hu hr he hd =>
    have hmaking := making_of_waiting hqueue
    omega
  | performed done hp hqueue hu hr ht he hd =>
    -- What is left of the setup always has its last block, which is the token
    obtain ⟨block, hmem, hmaking | hending⟩ := setup_last hqueue hpreparing
    · have hpos := making_pos (hsub block hmem) hmaking
      omega
    · have hpos := ending_pos (hsub block hmem) hending
      omega

/-! ## Operations -/

/-- A block that carries no result may be posted. -/
theorem Answered.async (h : c.Answered serializer) (hblock : block.parsed = none) :
    Answered serializer (c.async block) := by
  have hroot : ∀ block' ∈ c.root ++ [block], block' ∈ c.root ∨ block'.parsed = none := by
    intro block' hmem
    rcases List.mem_append.mp hmem with hold | hnew
    · exact Or.inl hold
    · exact Or.inr (List.mem_singleton.mp hnew ▸ hblock)
  exact h.frame rfl hroot rfl rfl

/-- Running a block takes a result off the queue and adds none. -/
theorem Answered.pop (h : c.Answered serializer) (hroot : c.root = block :: rest) :
    Answered serializer { c with root := rest } := by
  apply Answered.mk
  case parsed =>
    exact fun r handler result hmem =>
      h.parsed r handler result (by rw [hroot]; exact List.mem_cons_of_mem _ hmem)
  case notRetried =>
    exact fun r handler response hmem =>
      h.notRetried r handler response (by rw [hroot]; exact List.mem_cons_of_mem _ hmem)
  case stored => exact h.stored
  case posted => exact h.posted

theorem Answered.processNextResponseSerializer (h : c.Answered serializer) :
    Answered serializer c.processNextResponseSerializer := by
  unfold Slice.processNextResponseSerializer
  split
  · exact h.frame rfl (fun _ => Or.inl) rfl rfl
  · exact h.frame rfl (fun _ => Or.inl) rfl rfl

/-- A completion that was right when it was put together is stored and stays right. -/
theorem Answered.responseSerializerDidComplete {completion : SerializerCompletion}
    (h : c.Answered serializer) (hcompletion : completion.2 = c.answer serializer) :
    Answered serializer (c.responseSerializerDidComplete completion) := by
  have hstored : Answered serializer { c with
      request := { c.request with
        responseSerializerCompletions :=
          c.request.responseSerializerCompletions ++ [completion] } } :=
    { h with
      stored := by
        intro entry hmem
        rcases List.mem_append.mp hmem with hold | hnew
        · exact h.stored entry hold
        · exact List.mem_singleton.mp hnew ▸ hcompletion }
  exact hstored.processNextResponseSerializer

/-- A parsed result becomes a completion at once, or is posted with its answer first if it is a
failure. -/
theorem Answered.didParseResponse {handler : Nat} {result : AFResult}
    (h : c.Answered serializer) (hresult : result = (c.answer serializer).result) :
    Answered serializer (c.didParseResponse r handler result) := by
  have hresponse : AFDataResponse.mk c.statusCode c.request.data result =
      c.answer serializer := by
    rw [hresult]
    rfl
  cases result with
  | success value => exact h.responseSerializerDidComplete hresponse
  -- A failure goes through the root queue once more, for a retrier to be asked
  | failure error =>
    exact
      { h with
        parsed := by
          intro r' handler' result' hmem
          rcases List.mem_append.mp hmem with hold | hnew
          · exact h.parsed r' handler' result' hold
          · simp at hnew
        notRetried := by
          intro r' handler' response hmem
          rcases List.mem_append.mp hmem with hold | hnew
          · exact h.notRetried r' handler' response hold
          · simp only [List.mem_singleton, Block.didNotRetry.injEq] at hnew
            exact hnew.2.2.trans hresponse }

/-- The serializer reads the request as it is now, and that is the response of `answer`. -/
theorem Answered.serialize {handler : Nat} {rest : List Nat} (h : c.Answered serializer) :
    Answered serializer
      (Slice.serialize serializer r handler { c with serialization := rest }) :=
  { h with
    parsed := by
      intro r' handler' result hmem
      rcases List.mem_append.mp hmem with hold | hnew
      · exact h.parsed r' handler' result hold
      · simp only [List.mem_singleton, Block.didParseResponse.injEq] at hnew
        exact hnew.2.2
    notRetried := by
      intro r' handler' response hmem
      rcases List.mem_append.mp hmem with hold | hnew
      · exact h.notRetried r' handler' response hold
      · simp at hnew }

theorem Answered.finish (h : c.Answered serializer) : Answered serializer c.finish := by
  unfold Slice.finish
  split
  · exact h
  · exact processNextResponseSerializer (h.frame rfl (fun _ => Or.inl) rfl rfl)

theorem Answered.retryOrFinish (h : c.Answered serializer) (error : Option AFError) :
    Answered serializer (c.retryOrFinish r error) := by
  cases error with
  | none => exact h.finish
  | some error => exact h.async rfl

/-- Running is no part of the response. -/
theorem Answered.resumeTask (h : c.Answered serializer) : Answered serializer c.resumeTask := by
  have hstatus : c.resumeTask.statusCode = c.statusCode := by
    simp only [statusCode, Slice.resumeTask, List.getLast?_map, Option.bind_map]
    rfl
  have hanswer : c.resumeTask.answer serializer = c.answer serializer := by
    simp only [answer, hstatus]
    rfl
  exact h.frame hanswer (fun _ => Or.inl) rfl rfl

theorem Answered.resume (h : c.Answered serializer) : Answered serializer (c.resume r) := by
  unfold Slice.resume
  split
  -- The state of the request is no part of the response, and a resumed task has the same data
  · have hresumed : Answered serializer
        { c with request := { c.request with state := .resumed } } :=
      h.frame rfl (fun _ => Or.inl) rfl rfl
    have hposted : Answered serializer (Slice.async (.eventMonitor r)
        { c with request := { c.request with state := .resumed } }) := hresumed.async rfl
    dsimp only
    split
    · split
      · exact hposted
      · exact hposted.resumeTask.async rfl
    · exact hposted
  · exact h

/-- A further handler changes neither the response nor what is on its way. -/
theorem Answered.responseJSON (h : c.Answered serializer) :
    Answered serializer (c.responseJSON r) := by
  have happended : Answered serializer { c with
      request := { c.request with
        responseSerializers := c.request.responseSerializers ++ [r]
        state := c.request.state.reopened } } := h.frame rfl (fun _ => Or.inl) rfl rfl
  have hattached : Answered serializer (c.appendResponseSerializer r r) := by
    unfold appendResponseSerializer
    dsimp only
    split <;> split
    · exact (happended.async rfl).async rfl
    · exact happended.async rfl
    · exact happended.async rfl
    · exact happended
  exact hattached.frame rfl (fun _ => Or.inl) rfl rfl

/-- The stored completions are posted as they are. -/
theorem Answered.completeResponseSerializers (h : c.Answered serializer) :
    Answered serializer c.completeResponseSerializers := by
  have hcleanup : ∀ {c : Slice}, c.Answered serializer → Answered serializer c.cleanup := by
    intro c h
    unfold cleanup
    split
    · exact h.frame rfl (fun _ => Or.inl) rfl rfl
    · exact h
  apply hcleanup
  exact
    { h with
      stored := by simp
      posted := by
        intro response hmem
        rcases List.mem_append.mp hmem with hold | hnew
        · exact h.posted response hold
        · obtain ⟨entry, hentry, rfl⟩ := List.mem_map.mp hnew
          exact h.stored entry hentry }

/-! ## Every step -/

/-- Before `finish` is called the response may still change. -/
theorem Answered.unfinished (hlife : c.Lifecycle r 0 0) (hf : c.finishes = false)
    (hroot : ∀ block ∈ c'.root, block ∈ c.root)
    (hstored : c'.request.responseSerializerCompletions = c.request.responseSerializerCompletions)
    (hposted : c'.posted = c.posted) : c'.Answered serializer := by
  obtain ⟨hquiet, hnone, hnil⟩ := hlife.quiet hf
  exact Answered.quiet (fun block hmem => hquiet block (hroot block hmem)) (hstored.trans hnone)
    (hposted.trans hnil)

/-- A block of the root queue. Those of the preparation change what the response is made of, but
while they are left nothing is on its way. -/
theorem Answered.execute (h : c.Answered serializer) (hlife : c.Lifecycle r 0 0)
    (hprepared : c.Prepared r) (hstate : c.request.state ≠ .cancelled)
    (hroot : c.root = block :: rest)
    (hs : Slice.execute r t block { c with root := rest } = some c') : c'.Answered serializer := by
  have hpop := h.pop hroot
  have hsub : ∀ block' ∈ rest, block' ∈ c.root := fun block' hmem => by simp [hroot, hmem]
  have hfirst : block ∈ c.root := by simp [hroot]
  -- The token of the preparation is still on its way
  have hunfinished : block.preparing = true → c.finishes = false := by
    intro hblock
    apply hlife.unfinished_of_preparing hprepared
    rw [preparing_cons hroot hblock]
    simp
  cases block with
  | perform r' =>
    rw [← Option.some.inj hs, if_neg (by exact hstate)]
    exact hpop.frame rfl (fun _ => Or.inl) rfl rfl
  | didCreateUploadable r' =>
    rw [← Option.some.inj hs]
    exact hpop.frame rfl (fun _ => Or.inl) rfl rfl
  | didCreateInitialURLRequest r' =>
    rw [← Option.some.inj hs]
    exact Answered.unfinished hlife (hunfinished rfl) hsub rfl rfl
  | didFailToCreateUploadable r' error =>
    have hfail : Answered serializer
        { c with root := rest, request := { c.request with error := some error } } :=
      Answered.unfinished hlife (hunfinished rfl) hsub rfl rfl
    exact Option.some.inj hs ▸ hfail.async rfl
  | didFailToCreateURLRequest r' error =>
    have hfail : Answered serializer
        { c with root := rest, request := { c.request with error := some error } } :=
      Answered.unfinished hlife (hunfinished rfl) hsub rfl rfl
    exact Option.some.inj hs ▸ hfail.async rfl
  | didCreateURLRequest r' =>
    have hcreated : Answered serializer (createTask r t { c with root := rest }) :=
      Answered.unfinished hlife (hunfinished rfl) hsub rfl rfl
    simp only [Slice.execute, Slice.didCreateURLRequest] at hs
    rw [if_neg (by exact hstate)] at hs
    split at hs
    · rw [← Option.some.inj hs]
      unfold updateStatesForTask
      split
      · exact hcreated
      · exact hcreated
      · exact hcreated.resumeTask.async rfl
      · exact hcreated.async rfl
      · exact hcreated.resumeTask.async rfl
    · exact absurd hs (by simp)
  -- From here on the response stays, and the blocks only carry it along
  | doNotRetry r' => exact Option.some.inj hs ▸ hpop.finish
  | startImmediately r' => exact Option.some.inj hs ▸ hpop.resume
  | processNextResponseSerializer r' =>
    exact Option.some.inj hs ▸ hpop.processNextResponseSerializer
  | didParseResponse r' handler result =>
    exact Option.some.inj hs ▸ hpop.didParseResponse (h.parsed r' handler result hfirst)
  | didNotRetry r' handler response =>
    exact Option.some.inj hs ▸
      hpop.responseSerializerDidComplete (h.notRetried r' handler response hfirst)
  | eventMonitor r' => exact Option.some.inj hs ▸ hpop

/-- Every step of a request keeps its answers right: one that changes the response comes before
the request is finished. -/
theorem Answered.step (h : c.Answered serializer) (hlife : c.Lifecycle r 0 0)
    (hstarted : c.Started r) (hprepared : c.Prepared r) (hs : Step serializer r c c') :
    c'.Answered serializer := by
  -- A task that was not delivered holds the token, so its events come before `finish`
  have htask : ∀ {task : URLSessionTask}, c.tasks = [task] → task.delivered = false →
      c.finishes = false := by
    intro task htasks hopen
    apply hlife.unfinished
    rw [outstanding_eq_one htasks hopen]
    omega
  cases hs with
  | responseJSON ha => exact h.responseJSON
  | runRoot hp hroot hexecute =>
    exact h.execute hlife hprepared hstarted.proceeding.2 hroot hexecute
  | @runRequest n hp hperforms =>
    -- The blocks of a setup carry no result
    have hposts : ∀ block ∈ c.root ++ setup r c.request.convertible,
        block ∈ c.root ∨ block.parsed = none := by
      intro block hmem
      rcases List.mem_append.mp hmem with hold | hnew
      · exact Or.inl hold
      · refine Or.inr ?_
        rcases hc : c.request.convertible with (_ | e) | ⟨_ | e, _ | e'⟩ <;> rw [hc] at hnew <;>
          simp only [setup, List.mem_cons, List.not_mem_nil, or_false] at hnew <;>
          rcases hnew with rfl | rfl | rfl <;> rfl
    exact h.frame rfl hposts rfl rfl
  | runSerialization hp hqueue => exact h.serialize
  | completeResponseSerializers hp => exact h.completeResponseSerializers
  | receiveResponse statusCode htasks hopen =>
    have hf := htask htasks (by simp [URLSessionTask.delivered, hopen])
    exact Answered.unfinished hlife hf (fun _ => id) rfl rfl
  | receiveData data htasks hopen =>
    have hf := htask htasks (by simp [URLSessionTask.delivered, hopen])
    exact Answered.unfinished hlife hf (fun _ => id) rfl rfl
  | @collectMetrics task hp htasks hrunning hopen =>
    have hf := htask htasks (by simp [URLSessionTask.delivered, hopen])
    unfold Slice.didFinishCollecting
    dsimp only
    split
    -- The event that delivers the task changes the response first and finishes the request then
    · apply Answered.retryOrFinish
      exact Answered.unfinished hlife hf (fun _ => id) rfl rfl
    · exact Answered.unfinished hlife hf (fun _ => id) rfl rfl
  | @complete task error hp htasks hrunning hopen =>
    have hf := htask htasks (by simp [URLSessionTask.delivered, hopen])
    unfold Slice.didCompleteWithError
    dsimp only
    split
    · apply Answered.retryOrFinish
      exact Answered.unfinished hlife hf (fun _ => id) rfl rfl
    · exact Answered.unfinished hlife hf (fun _ => id) rfl rfl

end Slice

end ThorChat.Alamofire
