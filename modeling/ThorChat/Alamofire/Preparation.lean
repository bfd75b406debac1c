import ThorChat.Alamofire.Progress

/-!
# What a Request Has Been Through

The setup of a request posts its blocks in one order, and the root queue runs them in that order
(`Prepared`). So an upload has its uploadable before its task is made, and by the time a request
is finished its task has been told all it is going to be told, or its creation has failed.
-/

namespace ThorChat.Alamofire

open ThorChat.Runtime
open ThorChat.Sources

/-- The blocks that prepare a request. -/
def Block.preparing : Block → Bool
  | .perform _ => true
  | .didCreateUploadable _ => true
  | .didFailToCreateUploadable _ _ => true
  | .didCreateInitialURLRequest _ => true
  | .didCreateURLRequest _ => true
  | .didFailToCreateURLRequest _ _ => true
  | _ => false

/-- What goes wrong on the way to the task. -/
def Convertible.setupError : Convertible → Option AFError
  | .request error => error
  | .upload (some error) _ => some error
  | .upload none error => error

/-- The data of the chunks received. -/
def collected (chunks : List Data) : Option Data :=
  if chunks.isEmpty then none else some chunks.flatten

/-- A chunk more: the first one sets the data, and the next are appended to it. -/
theorem collected_concat (chunks : List Data) (data : Data) :
    collected (chunks ++ [data]) = match collected chunks with
      | none => some data
      | some mutableData => some (mutableData ++ data) := by
  cases chunks <;> simp [collected]

/-- The error a task is completed with, once the request has been told. -/
def URLSessionTask.told (task : URLSessionTask) : Option AFError :=
  if task.delivered then task.error else none

namespace Slice

/-- What is left of the preparation of a request. -/
def preparing (c : Slice) : List Block := c.root.filter Block.preparing

/-- A request waits to be performed, or the setup has posted its blocks and the first of them,
`done`, have been run. -/
inductive Prepared (r : Nat) (c : Slice) : Prop where
  | waiting
    (hqueue : c.preparing = [.perform r] ∧ c.performs = 0 ∨
      c.preparing = [] ∧ c.performs = 1)
    (huploadable : c.request.uploadable = false) (hrequests : c.request.requests = [])
    (herror : c.request.error = none) (hdata : c.request.data = none)
  | performed (done : List Block) (hperforms : c.performs = 0)
    (hqueue : done ++ c.preparing = setup r c.request.convertible)
    (huploadable : c.request.uploadable = true ↔ .didCreateUploadable r ∈ done)
    (hrequests : (.didCreateInitialURLRequest r ∈ done → c.request.requests = [c.request.method]) ∧
      (.didCreateInitialURLRequest r ∉ done → c.request.requests = []))
    (htasks : .didCreateURLRequest r ∈ done ↔ c.request.tasks ≠ [])
    (herror : c.request.error = match c.request.convertible.setupError with
      | some error => if c.preparing.isEmpty then some error else none
      | none => c.tasks.findSome? URLSessionTask.told)
    (hdata : c.request.data = collected (c.tasks.flatMap (·.received)))

variable {r t : Nat} {c c' : Slice} {block : Block} {rest : List Block}

/-- The part of a request that the preparation is about. -/
def preparation (request : Request) :=
  (request.method, request.convertible, request.uploadable, request.requests, request.tasks,
    request.error, request.data)

/-- What a task has brought its request. -/
def brought (task : URLSessionTask) : Option AFError × List Data := (task.told, task.received)

/-- The preparation reads only a part of the request, its own blocks and what the tasks brought.
-/
theorem Prepared.frame (h : c.Prepared r)
    (hrequest : preparation c'.request = preparation c.request)
    (hpreparing : c'.preparing = c.preparing) (hperforms : c'.performs = c.performs)
    (hbrought : c'.tasks.map brought = c.tasks.map brought) : c'.Prepared r := by
  simp only [preparation, Prod.mk.injEq] at hrequest
  obtain ⟨hmethod, hconvertible, huploadable, hrequests, htasks, herror, hdata⟩ := hrequest
  -- The error and the data of the request are functions of the pairs, so equal pairs carry them
  -- over
  have htold : c'.tasks.findSome? URLSessionTask.told = c.tasks.findSome? URLSessionTask.told := by
    have hmap := congrArg (List.findSome? Prod.fst) hbrought
    rw [List.findSome?_map, List.findSome?_map] at hmap
    exact hmap
  have hreceived : c'.tasks.flatMap (·.received) = c.tasks.flatMap (·.received) := by
    have hmap := congrArg (List.flatMap Prod.snd) hbrought
    rw [List.flatMap_map, List.flatMap_map] at hmap
    exact hmap
  cases h with
  | waiting hqueue hu hr he hd =>
    apply Prepared.waiting
    case hqueue => rwa [hpreparing, hperforms]
    case huploadable => rwa [huploadable]
    case hrequests => rwa [hrequests]
    case herror => rwa [herror]
    case hdata => rwa [hdata]
  | performed done hp hqueue hu hr ht he hd =>
    apply Prepared.performed done
    case hperforms => rwa [hperforms]
    case hqueue => rwa [hpreparing, hconvertible]
    case huploadable => rwa [huploadable]
    case hrequests => rwa [hrequests, hmethod]
    case htasks => rwa [htasks]
    case herror => rwa [herror, hconvertible, hpreparing, htold]
    case hdata => rwa [hdata, hreceived]

/-! ## What has no say in it -/

/-- A block of another kind is not part of the preparation. -/
theorem preparing_async (hblock : block.preparing = false) :
    (c.async block).preparing = c.preparing := by
  simp [preparing, Slice.async, hblock]

theorem Prepared.async (h : c.Prepared r) (hblock : block.preparing = false) :
    Prepared r (c.async block) :=
  h.frame rfl (preparing_async hblock) rfl rfl

theorem Prepared.processNextResponseSerializer (h : c.Prepared r) :
    Prepared r c.processNextResponseSerializer := by
  unfold Slice.processNextResponseSerializer
  split
  · exact h.frame rfl rfl rfl rfl
  · exact h.frame rfl rfl rfl rfl

theorem Prepared.responseSerializerDidComplete (h : c.Prepared r)
    (completion : SerializerCompletion) :
    Prepared r (c.responseSerializerDidComplete completion) :=
  processNextResponseSerializer (h.frame rfl rfl rfl rfl)

theorem Prepared.didParseResponse (h : c.Prepared r) (handler : Nat) (result : AFResult) :
    Prepared r (c.didParseResponse r handler result) := by
  cases result with
  | success value => exact h.responseSerializerDidComplete _
  | failure error => exact h.async rfl

theorem Prepared.finish (h : c.Prepared r) : Prepared r c.finish := by
  unfold Slice.finish
  split
  · exact h
  · exact processNextResponseSerializer (h.frame rfl rfl rfl rfl)

theorem Prepared.retryOrFinish (h : c.Prepared r) (error : Option AFError) :
    Prepared r (c.retryOrFinish r error) := by
  cases error with
  | none => exact h.finish
  | some error => exact h.async rfl

/-- A resumed task has brought nothing new. -/
theorem brought_resumeTask : c.resumeTask.tasks.map brought = c.tasks.map brought := by
  simp only [Slice.resumeTask, List.map_map]
  rfl

theorem Prepared.resumeTask (h : c.Prepared r) : Prepared r c.resumeTask :=
  h.frame rfl rfl rfl brought_resumeTask

/-- Resuming changes the state of the request and starts its task; the preparation is about
neither. -/
theorem Prepared.resume (h : c.Prepared r) : Prepared r (c.resume r) := by
  unfold Slice.resume
  split
  · have hresumed : Prepared r
        { c with request := { c.request with state := .resumed } } := h.frame rfl rfl rfl rfl
    have hposted : Prepared r (Slice.async (.eventMonitor r)
        { c with request := { c.request with state := .resumed } }) := hresumed.async rfl
    dsimp only
    split
    · split
      · exact hposted
      · exact hposted.resumeTask.async rfl
    · exact hposted
  · exact h

/-- Being told the state of its request changes nothing that a task has brought. -/
theorem Prepared.updateStatesForTask (h : c.Prepared r) :
    Prepared r (c.updateStatesForTask r) := by
  unfold Slice.updateStatesForTask
  split
  · exact h
  · exact h
  · exact h.resumeTask.async rfl
  · exact h.async rfl
  · exact h.resumeTask.async rfl

/-- A handler may be attached before, during and after the preparation. -/
theorem Prepared.responseJSON (h : c.Prepared r) : Prepared r (c.responseJSON r) := by
  have happended : Prepared r { c with
      request := { c.request with
        responseSerializers := c.request.responseSerializers ++ [r]
        state := c.request.state.reopened } } := h.frame rfl rfl rfl rfl
  have hattached : Prepared r (c.appendResponseSerializer r r) := by
    unfold appendResponseSerializer
    dsimp only
    -- Whether the request is finished and whether it is resumed are independent of each other
    split <;> split
    · exact (happended.async rfl).async rfl
    · exact happended.async rfl
    · exact happended.async rfl
    · exact happended
  exact hattached.frame rfl rfl rfl rfl

/-- Finalizing comes after the preparation and clears only what the handlers left. -/
theorem Prepared.completeResponseSerializers (h : c.Prepared r) :
    Prepared r c.completeResponseSerializers := by
  have hcleanup : ∀ {c : Slice}, c.Prepared r → Prepared r c.cleanup := by
    intro c h
    unfold cleanup
    split
    · exact h.frame rfl rfl rfl rfl
    · exact h
  exact hcleanup (h.frame rfl rfl rfl rfl)

/-! ## The preparation itself -/

/-- A request without a task that is performed, or about to be. -/
theorem making_of_waiting (hqueue : c.preparing = [.perform r] ∧ c.performs = 0 ∨
    c.preparing = [] ∧ c.performs = 1) : 0 < c.making := by
  rcases hqueue with ⟨hpreparing, -⟩ | ⟨-, hperforms⟩
  · have hmem : Block.perform r ∈ c.root := by
      have hmem : Block.perform r ∈ c.preparing := by simp [hpreparing]
      exact (List.mem_filter.mp hmem).1
    have hcount : 0 < c.root.countP Block.making := List.countP_pos_iff.mpr ⟨_, hmem, rfl⟩
    rw [making]
    omega
  · rw [making]
    omega

/-! ## The order of the setup -/

section Setup

variable {convertible : Convertible} {done later : List Block} {r' : Nat} {error : AFError}

/-- The task is created last, after everything it needs. -/
theorem setup_didCreateURLRequest
    (h : done ++ .didCreateURLRequest r' :: later = setup r convertible) :
    r' = r ∧ later = [] ∧ convertible.setupError = none ∧
      .didCreateInitialURLRequest r ∈ done ∧ .didCreateURLRequest r ∉ done ∧
      (writesTemporaryFile convertible = true → .didCreateUploadable r ∈ done) := by
  -- A setup posts three blocks at most: the convertible fixes which, and `done` where it is cut
  rcases convertible with (_ | e) | ⟨_ | e, _ | e'⟩ <;>
    rcases done with _ | ⟨a, _ | ⟨b, _ | ⟨d, done⟩⟩⟩ <;>
    simp_all [setup, Convertible.setupError, writesTemporaryFile]

/-- A failure is the end of the setup. -/
theorem setup_didFail (h : done ++ block :: later = setup r convertible)
    (hblock : (∃ r', block = .didFailToCreateURLRequest r' error) ∨
      ∃ r', block = .didFailToCreateUploadable r' error) :
    later = [] ∧ convertible.setupError = some error := by
  rcases hblock with ⟨r', rfl⟩ | ⟨r', rfl⟩ <;>
    rcases convertible with (_ | e) | ⟨_ | e, _ | e'⟩ <;>
    rcases done with _ | ⟨a, _ | ⟨b, _ | ⟨d, done⟩⟩⟩ <;>
    simp_all [setup, Convertible.setupError]

/-- The uploadable of an upload is not the last thing it needs. -/
theorem setup_didCreateUploadable
    (h : done ++ .didCreateUploadable r' :: later = setup r convertible) :
    r' = r ∧ later ≠ [] := by
  rcases convertible with (_ | e) | ⟨_ | e, _ | e'⟩ <;>
    rcases done with _ | ⟨a, _ | ⟨b, _ | ⟨d, done⟩⟩⟩ <;> simp_all [setup]

/-- The request is made once, and the task after it. -/
theorem setup_didCreateInitialURLRequest
    (h : done ++ .didCreateInitialURLRequest r' :: later = setup r convertible) :
    r' = r ∧ later ≠ [] ∧ .didCreateInitialURLRequest r ∉ done := by
  rcases convertible with (_ | e) | ⟨_ | e, _ | e'⟩ <;>
    rcases done with _ | ⟨a, _ | ⟨b, _ | ⟨d, done⟩⟩⟩ <;> simp_all [setup]

/-- Performing a request is what posts the setup, and no part of it. -/
theorem setup_not_perform (h : done ++ .perform r' :: later = setup r convertible) : False := by
  rcases convertible with (_ | e) | ⟨_ | e, _ | e'⟩ <;>
    rcases done with _ | ⟨a, _ | ⟨b, _ | ⟨d, done⟩⟩⟩ <;> simp_all [setup]

/-- The last block of a setup carries the token. -/
theorem setup_last (h : done ++ later = setup r convertible) (hlater : later ≠ []) :
    ∃ block ∈ later, block.making = true ∨ block.ending = true := by
  rcases convertible with (_ | e) | ⟨_ | e, _ | e'⟩ <;>
    rcases done with _ | ⟨a, _ | ⟨b, _ | ⟨d, done⟩⟩⟩ <;>
    simp_all [setup, Block.making, Block.ending]

/-- Once the task is created nothing is left to prepare. -/
theorem setup_done (h : done ++ later = setup r convertible)
    (hdone : .didCreateURLRequest r ∈ done) : later = [] ∧ convertible.setupError = none := by
  -- The block that made the task is the last, so nothing comes after the cut
  obtain ⟨before, after, rfl⟩ := List.append_of_mem hdone
  rw [List.append_assoc, List.cons_append] at h
  obtain ⟨-, hlater, herror, -⟩ := setup_didCreateURLRequest h
  exact ⟨(List.append_eq_nil_iff.mp hlater).2, herror⟩

end Setup

/-! ## The blocks of the preparation -/

/-- A block of the preparation at the head of the queue is the first that is left. -/
theorem preparing_cons (hroot : c.root = block :: rest) (hblock : block.preparing = true) :
    c.preparing = block :: rest.filter Block.preparing := by
  rw [preparing, hroot, List.filter_cons_of_pos hblock]

/-- Any other block leaves the preparation alone. -/
theorem Prepared.pop (h : c.Prepared r) (hroot : c.root = block :: rest)
    (hblock : block.preparing = false) : Prepared r { c with root := rest } := by
  have hpreparing : Slice.preparing { c with root := rest } = c.preparing := by
    rw [preparing, preparing, hroot, List.filter_cons_of_neg (by simp [hblock])]
  exact h.frame rfl hpreparing rfl rfl

/-- A block of the setup: the request has been performed, and the blocks before this one run. -/
theorem Prepared.split (h : c.Prepared r) (hroot : c.root = block :: rest)
    (hblock : block.preparing = true) (hperform : ∀ r', block ≠ .perform r') :
    ∃ done, c.performs = 0 ∧
      done ++ block :: rest.filter Block.preparing = setup r c.request.convertible ∧
      (c.request.uploadable = true ↔ .didCreateUploadable r ∈ done) ∧
      ((.didCreateInitialURLRequest r ∈ done → c.request.requests = [c.request.method]) ∧
        (.didCreateInitialURLRequest r ∉ done → c.request.requests = [])) ∧
      (.didCreateURLRequest r ∈ done ↔ c.request.tasks ≠ []) ∧
      c.request.error = (match c.request.convertible.setupError with
        | some _ => none
        | none => c.tasks.findSome? URLSessionTask.told) ∧
      c.request.data = collected (c.tasks.flatMap (·.received)) := by
  have hpreparing := preparing_cons hroot hblock
  -- A request that only waits has no block of the setup at the head of its queue
  cases h with
  | waiting hqueue hu hr he hd =>
    rcases hqueue with ⟨hone, -⟩ | ⟨hnone, -⟩
    · rw [hpreparing] at hone
      exact absurd (List.cons.inj hone).1 (hperform r)
    · rw [hpreparing] at hnone
      exact absurd hnone (by simp)
  | performed done hp hqueue hu hr ht he hd =>
    rw [hpreparing] at hqueue he
    exact ⟨done, hp, hqueue, hu, hr, ht, he, hd⟩

/-- The request goes from the root queue to the request queue. -/
theorem Prepared.perform {r' : Nat} (h : c.Prepared r) (hroot : c.root = .perform r' :: rest) :
    Prepared r { c with root := rest, performs := c.performs + 1 } := by
  have hpreparing := preparing_cons hroot rfl
  cases h with
  | waiting hqueue hu hr he hd =>
    rcases hqueue with ⟨hone, hperforms⟩ | ⟨hnone, -⟩
    · rw [hpreparing] at hone
      exact .waiting (Or.inr ⟨(List.cons.inj hone).2, by rw [hperforms]⟩) hu hr he hd
    · rw [hpreparing] at hnone
      exact absurd hnone (by simp)
  | performed done hp hqueue hu hr ht he hd =>
    rw [hpreparing] at hqueue
    exact (setup_not_perform hqueue).elim

/-- The request is performed, and the setup posts its blocks. -/
theorem Prepared.performRequest {n : Nat} (h : c.Prepared r) (hperforms : c.performs = n + 1)
    (hnone : c.request.tasks = []) (htasks : c.tasks = []) :
    Prepared r (performRequest r { c with performs := n }) := by
  cases h with
  | performed done hp hqueue hu hr ht he hd =>
    rw [hperforms] at hp
    exact absurd hp (by simp)
  | waiting hqueue hu hr he hd =>
    rcases hqueue with ⟨-, hzero⟩ | ⟨hpreparing, hone⟩
    · rw [hperforms] at hzero
      exact absurd hzero (by simp)
    -- Everything a setup posts is part of the preparation
    · have hsetup : ∀ convertible, (setup r convertible).filter Block.preparing =
          setup r convertible := by
        intro convertible
        rcases convertible with (_ | e) | ⟨_ | e, _ | e'⟩ <;> rfl
      have hqueue : Slice.preparing (Slice.performRequest r { c with performs := n }) =
          setup r c.request.convertible := by
        rw [preparing] at hpreparing
        simp [preparing, Slice.performRequest, hpreparing, hsetup]
      have hsome : (setup r c.request.convertible).isEmpty = false := by
        rcases c.request.convertible with (_ | e) | ⟨_ | e, _ | e'⟩ <;> rfl
      -- Nothing of the setup has been run yet, and the error of the setup counts only when it has
      apply Prepared.performed []
      case hperforms =>
        show n = 0
        omega
      case hqueue => exact hqueue
      case huploadable => simpa [Slice.performRequest] using hu
      case hrequests => simpa [Slice.performRequest] using hr
      case htasks => simpa [Slice.performRequest] using hnone
      case herror =>
        rw [hqueue, hsome]
        simp only [Slice.performRequest, he, htasks]
        split <;> rfl
      case hdata => simpa [Slice.performRequest, htasks, collected] using hd

/-- The form of an upload was built. -/
theorem Prepared.didCreateUploadable {r' : Nat} (h : c.Prepared r)
    (hroot : c.root = .didCreateUploadable r' :: rest) :
    Prepared r { c with root := rest, request := { c.request with uploadable := true } } := by
  obtain ⟨done, hp, hqueue, hu, hr, ht, he, hd⟩ := h.split hroot rfl (by simp)
  obtain ⟨rfl, hlater⟩ := setup_didCreateUploadable hqueue
  apply Prepared.performed (done ++ [.didCreateUploadable r'])
  case hperforms => exact hp
  case hqueue => simpa [preparing] using hqueue
  case huploadable => simp
  case hrequests => simpa using hr
  case htasks => simpa using ht
  case herror => simpa [preparing, hlater] using he
  case hdata => exact hd

/-- The request has its `URLRequest`. -/
theorem Prepared.didCreateInitialURLRequest {r' : Nat} (h : c.Prepared r)
    (hroot : c.root = .didCreateInitialURLRequest r' :: rest) :
    Prepared r { c with
      root := rest
      request := { c.request with requests := c.request.requests ++ [c.request.method] } } := by
  obtain ⟨done, hp, hqueue, hu, hr, ht, he, hd⟩ := h.split hroot rfl (by simp)
  obtain ⟨rfl, hlater, hfirst⟩ := setup_didCreateInitialURLRequest hqueue
  apply Prepared.performed (done ++ [.didCreateInitialURLRequest r'])
  case hperforms => exact hp
  case hqueue => simpa [preparing] using hqueue
  case huploadable => simpa using hu
  case hrequests => simp [hr.2 hfirst]
  case htasks => simpa using ht
  case herror => simpa [preparing, hlater] using he
  case hdata => exact hd

/-- The error of the setup becomes the error of the request, which has no task. -/
theorem Prepared.didFail {error : AFError} (h : c.Prepared r) (hroot : c.root = block :: rest)
    (hblock : (∃ r', block = .didFailToCreateURLRequest r' error) ∨
      ∃ r', block = .didFailToCreateUploadable r' error) :
    Prepared r (didFail r error { c with root := rest }) := by
  have hpreparing : block.preparing = true := by
    rcases hblock with ⟨r', rfl⟩ | ⟨r', rfl⟩ <;> rfl
  obtain ⟨done, hp, hqueue, hu, hr, ht, he, hd⟩ := h.split hroot hpreparing
    (by rcases hblock with ⟨r', rfl⟩ | ⟨r', rfl⟩ <;> simp)
  obtain ⟨hlater, herror⟩ := setup_didFail hqueue hblock
  have hfail : Prepared r { c with
      root := rest
      request := { c.request with error := some error } } := by
    -- A failure is none of the blocks that the other fields look for in `done`
    have hother : .didCreateUploadable r ≠ block ∧ .didCreateInitialURLRequest r ≠ block ∧
        .didCreateURLRequest r ≠ block := by
      rcases hblock with ⟨r', rfl⟩ | ⟨r', rfl⟩ <;> simp
    apply Prepared.performed (done ++ [block])
    case hperforms => exact hp
    case hqueue => simpa [preparing] using hqueue
    case huploadable => simpa [hother.1] using hu
    case hrequests => simpa [hother.2.1] using hr
    case htasks => simpa [hother.2.2] using ht
    case herror => simp [preparing, hlater, herror]
    case hdata => exact hd
  exact hfail.async rfl

/-- The task is created, with everything there that it needs. -/
theorem Prepared.didCreateURLRequest {r' : Nat} (h : c.Prepared r)
    (hroot : c.root = .didCreateURLRequest r' :: rest) (hstate : c.request.state ≠ .cancelled)
    (htasks : c.request.tasks = [] → c.tasks = []) :
    ∃ c', Slice.didCreateURLRequest r t { c with root := rest } = some c' ∧ Prepared r c' := by
  obtain ⟨done, hp, hqueue, hu, hr, ht, he, hd⟩ := h.split hroot rfl (by simp)
  obtain ⟨rfl, hlater, herror, hinitial, hfirst, hupload⟩ := setup_didCreateURLRequest hqueue
  have hnone : c.request.tasks = [] := not_not.mp (mt ht.mpr hfirst)
  -- The `fatalError` is for an upload without its uploadable, which this one has made before
  have hcan : Session.canCreateTask c.request = true := by
    unfold Session.canCreateTask
    cases hc : c.request.convertible with
    | request error => rfl
    | upload uploadableError error =>
      cases uploadableError with
      | some uploadableError => simp [hc, Convertible.setupError] at herror
      | none => exact hu.mpr (hupload (by rw [hc]; rfl))
  have hcreated : Prepared r' (createTask r' t { c with root := rest }) := by
    apply Prepared.performed (done ++ [.didCreateURLRequest r'])
    case hperforms => exact hp
    case hqueue => simpa [preparing, createTask] using hqueue
    case huploadable => simpa [createTask] using hu
    case hrequests => simpa [createTask] using hr
    case htasks => simp [createTask]
    case herror =>
      rw [herror, htasks hnone] at he
      simp [createTask, herror, he, htasks hnone, URLSessionTask.told]
    case hdata =>
      rw [htasks hnone] at hd
      simp [createTask, hd, htasks hnone]
  refine ⟨_, ?_, hcreated.updateStatesForTask⟩
  unfold Slice.didCreateURLRequest
  rw [if_neg (by exact hstate), if_pos (by exact hcan)]

/-! ## The task -/

/-- The tasks of a prepared request are changed, and what they brought with them. -/
theorem Prepared.retask {tasks : List URLSessionTask} {error : Option AFError}
    {data : Option Data} (h : c.Prepared r) (hlife : c.Lifecycle r 0 0) (hstarted : c.Started r)
    (htasks : c.tasks ≠ []) (herror : c.request.error = c.tasks.findSome? URLSessionTask.told →
      error = tasks.findSome? URLSessionTask.told)
    (hdata : c.request.data = collected (c.tasks.flatMap (·.received)) →
      data = collected (tasks.flatMap (·.received))) :
    Prepared r { c with
      tasks := tasks
      request := { c.request with error := error, data := data } } := by
  have hlist : c.request.tasks ≠ [] := by
    intro hnone
    apply htasks
    rw [← List.length_eq_zero_iff, hstarted.counted, hnone, List.length_nil]
  -- A request with a task has been performed, and its setup had no error, or it would have no task
  cases h with
  | waiting hqueue hu hr he hd =>
    exact absurd (hlife.untasked (making_of_waiting hqueue)) hlist
  | performed done hp hqueue hu hr ht he hd =>
    have hnoError := (setup_done hqueue (ht.mpr hlist)).2
    rw [hnoError] at he
    apply Prepared.performed done
    case hperforms => exact hp
    case hqueue => exact hqueue
    case huploadable => exact hu
    case hrequests => exact hr
    case htasks => exact ht
    case herror =>
      rw [hnoError]
      exact herror he
    case hdata => exact hdata hd

/-- A chunk received by the task is appended to the data of the request. -/
theorem Prepared.didReceive {task : URLSessionTask} (h : c.Prepared r)
    (hlife : c.Lifecycle r 0 0) (hstarted : c.Started r) (htasks : c.tasks = [task])
    (data : Data) : Prepared r (c.didReceive data) := by
  apply h.retask hlife hstarted (by simp [htasks])
  case herror =>
    intro he
    rw [htasks] at he ⊢
    exact he
  case hdata =>
    intro hd
    simp only [htasks, List.map_cons, List.map_nil, List.flatMap_cons, List.flatMap_nil,
      List.append_nil] at hd ⊢
    rw [hd]
    exact (collected_concat task.received data).symm

/-- If the task was completed before, its error is told to the request now. -/
theorem Prepared.didFinishCollecting {task : URLSessionTask} (h : c.Prepared r)
    (hlife : c.Lifecycle r 0 0) (hstarted : c.Started r) (htasks : c.tasks = [task])
    (hopen : task.metricsGathered = false) : Prepared r (c.didFinishCollecting r task) := by
  unfold Slice.didFinishCollecting Slice.didCompleteTask
  dsimp only
  split
  -- Both events are in, so the error of the task is told
  · rename_i hcompleted
    apply Prepared.retryOrFinish
    apply h.retask hlife hstarted (by simp [htasks])
    case herror =>
      intro he
      simp [he, htasks, URLSessionTask.told, URLSessionTask.delivered, hopen, hcompleted]
    case hdata => exact fun hd => by simpa [htasks] using hd
  · rename_i hcompleted
    apply h.retask hlife hstarted (by simp [htasks])
    case herror =>
      intro he
      simpa [htasks, URLSessionTask.told, URLSessionTask.delivered, hopen, hcompleted] using he
    case hdata => exact fun hd => by simpa [htasks] using hd

/-- The error of a task is told once the metrics are in, now or by the metrics. -/
theorem Prepared.didCompleteWithError {task : URLSessionTask} (h : c.Prepared r)
    (hlife : c.Lifecycle r 0 0) (hstarted : c.Started r) (htasks : c.tasks = [task])
    (hopen : task.completed = false) (error : Option AFError) :
    Prepared r (c.didCompleteWithError r task error) := by
  unfold Slice.didCompleteWithError Slice.didCompleteTask
  dsimp only
  split
  -- Both events are in, so the error of the task is told
  · rename_i hmetrics
    apply Prepared.retryOrFinish
    apply h.retask hlife hstarted (by simp [htasks])
    case herror =>
      intro he
      simp [he, htasks, URLSessionTask.told, URLSessionTask.delivered, hopen, hmetrics]
    case hdata => exact fun hd => by simpa [htasks] using hd
  · rename_i hmetrics
    apply h.retask hlife hstarted (by simp [htasks])
    case herror =>
      intro he
      simpa [htasks, URLSessionTask.told, URLSessionTask.delivered, hopen, hmetrics] using he
    case hdata => exact fun hd => by simpa [htasks] using hd

/-! ## Every step -/

/-- A block of the root queue never traps, for the setup is run in the order in which it was
posted. -/
theorem Prepared.execute (h : c.Prepared r) (hstate : c.request.state ≠ .cancelled)
    (htasks : c.request.tasks = [] → c.tasks = []) (hroot : c.root = block :: rest) :
    ∃ c', Slice.execute r t block { c with root := rest } = some c' ∧ Prepared r c' := by
  cases block with
  | perform r' =>
    refine ⟨_, rfl, ?_⟩
    rw [if_neg (by exact hstate)]
    exact h.perform hroot
  | didCreateUploadable r' => exact ⟨_, rfl, h.didCreateUploadable hroot⟩
  | didFailToCreateUploadable r' error =>
    exact ⟨_, rfl, h.didFail hroot (Or.inr ⟨r', rfl⟩)⟩
  | didCreateInitialURLRequest r' => exact ⟨_, rfl, h.didCreateInitialURLRequest hroot⟩
  | didCreateURLRequest r' => exact h.didCreateURLRequest hroot hstate htasks
  | didFailToCreateURLRequest r' error =>
    exact ⟨_, rfl, h.didFail hroot (Or.inl ⟨r', rfl⟩)⟩
  | doNotRetry r' => exact ⟨_, rfl, (h.pop hroot rfl).finish⟩
  | startImmediately r' => exact ⟨_, rfl, (h.pop hroot rfl).resume⟩
  | processNextResponseSerializer r' =>
    exact ⟨_, rfl, (h.pop hroot rfl).processNextResponseSerializer⟩
  | didParseResponse r' handler result =>
    exact ⟨_, rfl, (h.pop hroot rfl).didParseResponse handler result⟩
  | didNotRetry r' handler response =>
    exact ⟨_, rfl, (h.pop hroot rfl).responseSerializerDidComplete _⟩
  | eventMonitor r' => exact ⟨_, rfl, h.pop hroot rfl⟩

/-- Every step of a request keeps the order of its setup. -/
theorem Prepared.step {serializer : JSONResponseSerializer} (h : c.Prepared r)
    (hlife : c.Lifecycle r 0 0) (hstarted : c.Started r) (hs : Step serializer r c c') :
    c'.Prepared r := by
  have htasks : c.request.tasks = [] → c.tasks = [] := by
    intro hnone
    rw [← List.length_eq_zero_iff, hstarted.counted, hnone, List.length_nil]
  cases hs with
  | responseJSON ha => exact h.responseJSON
  | @runRoot _ _ _ t hp hroot hexecute =>
    obtain ⟨new, hnew, hprepared⟩ := h.execute (t := t) hstarted.proceeding.2 htasks hroot
    exact Option.some.inj (hnew.symm.trans hexecute) ▸ hprepared
  | runRequest hp hperforms =>
    -- The request queue still holds the request, and a request with a task has left it
    have hnone := hlife.untasked (by rw [making, hperforms]; omega)
    exact h.performRequest hperforms hnone (htasks hnone)
  | @runSerialization _ rest hp hqueue =>
    have hframe : Prepared r { c with serialization := rest } := h.frame rfl rfl rfl rfl
    exact hframe.async rfl
  | completeResponseSerializers hp => exact h.completeResponseSerializers
  | @receiveResponse task statusCode htasks hopen =>
    -- A status code is no part of what a task has brought
    have hbrought : [{ task with statusCode := some statusCode }].map brought =
        c.tasks.map brought := by
      rw [htasks]
      rfl
    exact h.frame rfl rfl rfl hbrought
  | receiveData data htasks hopen => exact h.didReceive hlife hstarted htasks data
  | collectMetrics hp htasks hrunning hopen =>
    exact h.didFinishCollecting hlife hstarted htasks hopen
  | complete error hp htasks hrunning hopen =>
    exact h.didCompleteWithError hlife hstarted htasks hopen error

end Slice

end ThorChat.Alamofire
