import Mathlib.Logic.Relation
import ThorChat.Alamofire.Invariant

/-!
# Every Run of a Session

Whatever requests the main thread makes, and in whatever order the queues, the URL session and
the main thread take their turns:

- the session never traps, and its task map is exactly the tasks its requests wait for;
- each request is on its own, as if there was no other;
- a handler runs at most once, and when nothing is left to do it has run, unless the main thread
  attached it while the request was being finalized;
- it is called with what its own task received, and the temporary files are gone.
-/

namespace ThorChat.Alamofire

open ThorChat.Library
open ThorChat.Runtime
open ThorChat.Sources

namespace Session

variable {serializer : JSONResponseSerializer} {session session' : Session} {r t : Nat}

/-! ## The invariant -/

/-- What holds in every state of a session. -/
structure Sound (serializer : JSONResponseSerializer) (session : Session) : Prop where
  consistent : session.registry.Consistent
  requests : ∀ r, session.slice r = .unmade ∨ (session.slice r).Sound serializer r

/-- A new session has no request and no task. -/
theorem Sound.initial (serializer : JSONResponseSerializer) : initial.Sound serializer := by
  apply Sound.mk
  case consistent =>
    constructor <;> simp [registry, Session.initial, Registry.live, RequestTaskMap.empty]
  case requests =>
    intro r
    left
    have hmade : r.blt 0 = false := by
      rw [Bool.eq_false_iff, ne_eq, Nat.blt_eq]
      exact Nat.not_lt_zero r
    simp [slice, Session.initial, Slice.unmade, hmade]

/-- A number that no request has yet stands for nothing. -/
theorem Sound.unmade (h : session.Sound serializer) (hr : session.nextRequest ≤ r) :
    session.slice r = .unmade := by
  rcases h.requests r with hunmade | hsound
  · exact hunmade
  · have hmade : r.blt session.nextRequest = true := hsound.made
    rw [Nat.blt_eq] at hmade
    omega

/-- A request that was made has a sound slice. -/
theorem Sound.of_made (h : session.Sound serializer) (hr : r < session.nextRequest) :
    (session.slice r).Sound serializer r := by
  rcases h.requests r with hunmade | hsound
  · have hmade : r.blt session.nextRequest = false := congrArg Slice.made hunmade
    rw [Bool.eq_false_iff, ne_eq, Nat.blt_eq] at hmade
    exact absurd hr hmade
  · exact hsound

/-- What a step relies on follows from what holds of every request. -/
theorem Sound.regular (h : session.Sound serializer) : Regular session := by
  apply Regular.mk h.consistent (h.unmade (Nat.le_refl _))
  case mine =>
    intro r entry hentry
    rcases h.requests r with hunmade | hsound
    · have hnone : (session.requests r).responseSerializerCompletions = [] :=
        congrArg (fun c : Slice => c.request.responseSerializerCompletions) hunmade
      exact absurd hentry (by simp [hnone])
    · exact hsound.lifecycle.completionsMine entry hentry
  case uncancelled =>
    intro r
    rcases h.requests r with hunmade | hsound
    · have hstate : (session.requests r).state = .initialized :=
        congrArg (fun c : Slice => c.request.state) hunmade
      simp [hstate]
    · exact hsound.started.proceeding.2
  -- The block on its way is a token, and a request with such a token has no task
  case untasked =>
    intro r hmem
    rcases h.requests r with hunmade | hsound
    · exact congrArg (fun c : Slice => c.request.tasks) hunmade
    · apply hsound.lifecycle.untasked
      have hroot : Block.didCreateURLRequest r ∈ (session.slice r).root := by
        simp [slice, hmem, Block.request]
      exact Slice.making_pos hroot rfl

/-- Every step of a session keeps it sound. -/
theorem Sound.step {e : Event} (h : session.Sound serializer)
    (hs : session.step serializer e = some session') : session'.Sound serializer := by
  obtain ⟨hconsistent, ⟨method, convertible, hself, hother⟩ | hfollows⟩ :=
    step_follows h.regular hs
  · refine ⟨hconsistent, fun r => ?_⟩
    -- The new request starts sound, and the others were not touched
    by_cases hr : r = session.nextRequest
    · rw [hr, hself]
      exact Or.inr (Slice.Sound.fresh serializer _ method convertible)
    · rw [hother r hr]
      exact h.requests r
  · refine ⟨hconsistent, fun r => ?_⟩
    -- A request stays where it is, or takes a step of its own, which keeps it sound
    rcases hfollows r with hsame | hstep
    · rw [hsame]
      exact h.requests r
    · rcases h.requests r with hunmade | hsound
      · rw [hunmade] at hstep
        exact absurd hstep Slice.not_step_unmade
      · exact Or.inr (hsound.step hstep)

/-- A session is sound in every run. -/
theorem sound_of_reachable (h : Reachable (step serializer) initial session) :
    session.Sound serializer :=
  h.invariant (Sound.initial serializer) fun _ _ _ hsound hs => hsound.step hs

/-! ## No trap -/

/-- The first block of the root queue can be run: a task is only created with what it needs. -/
theorem Sound.execute_isSome {block : Block} {rest : List Block} (h : session.Sound serializer)
    (hroot : session.rootQueue = block :: rest) :
    (({ session with rootQueue := rest } : Session).execute block).isSome := by
  have hregular := h.regular
  have hpop := popRoot_moved hroot
  have hslice : (session.slice block.request).root = block ::
      rest.filter fun other => other.request = block.request := by simp [slice, hroot]
  -- Running the block on the session and on the slice of its request traps alike
  have hself : (({ session with rootQueue := rest } : Session).execute block).map
      (slice block.request) = (({ session with rootQueue := rest } : Session).slice
        block.request).execute block.request session.nextTask block := by
    apply slice_execute_self rfl
    · intro heq
      exact hregular.untasked block.request (by simp [hroot, ← heq])
    · intro t ht
      obtain ⟨hlt, hreq⟩ := hregular.consistent.owned block.request t ht
      exact tasks_eq hregular.consistent hlt hreq
  rcases h.requests block.request with hunmade | hsound
  · rw [hunmade] at hslice
    exact absurd hslice (by simp [Slice.unmade])
  · have htasks : (session.slice block.request).request.tasks = [] →
        (session.slice block.request).tasks = [] := by
      intro hnone
      rw [← List.length_eq_zero_iff, hsound.started.counted, hnone, List.length_nil]
    -- The setup was run in its order, so the slice has what the block needs
    obtain ⟨c, hc, -⟩ := hsound.prepared.execute (t := session.nextTask)
      hsound.started.proceeding.2 htasks hslice
    rw [hpop.1, hc] at hself
    rw [← Option.isSome_map (f := slice block.request), hself]
    rfl

/-- The events of the queues and of the URL session never trap. -/
theorem Sound.stepRoot_isSome (h : session.Sound serializer) (hp : session.processing = none)
    (e : Event) : (session.stepRoot serializer e).isSome := by
  have hconsistent := h.consistent
  -- The map is asked about a task only in its callbacks, and by then the task is live
  cases e with
  | runRoot =>
    simp only [stepRoot]
    split
    · rename_i hroot
      exact h.execute_isSome hroot
    · rfl
  | runRequest =>
    simp only [stepRoot]
    split <;> rfl
  | runSerialization =>
    simp only [stepRoot]
    split <;> rfl
  | receiveData t data =>
    simp only [stepRoot]
    split
    · rename_i hcond
      simp only [Bool.and_eq_true, Bool.not_eq_true'] at hcond
      have hlive := live_of_open hconsistent hcond.1 (Or.inl hcond.2)
      obtain ⟨new, hnew, -⟩ := didReceive_spec hconsistent hlive rfl data
      simp [hnew]
    · rfl
  | collectMetrics t =>
    simp only [stepRoot]
    split
    · rename_i hcond
      simp only [Bool.and_eq_true, Bool.not_eq_true'] at hcond
      have hlive := live_of_open hconsistent hcond.1 (Or.inr hcond.2)
      obtain ⟨new, hnew, -⟩ := didFinishCollecting_spec hconsistent hlive rfl hp hcond.2
      simp [hnew]
    · rfl
  | complete t error =>
    simp only [stepRoot]
    split
    · rename_i hcond
      simp only [Bool.and_eq_true, Bool.not_eq_true'] at hcond
      have hlive := live_of_open hconsistent hcond.1 (Or.inl hcond.2)
      obtain ⟨new, hnew, -⟩ := didCompleteWithError_spec hconsistent hlive rfl hp hcond.2 error
      simp [hnew]
    · rfl
  | _ => rfl

/-- No event traps in a sound session. -/
theorem Sound.step_isSome (h : session.Sound serializer) (e : Event) :
    (session.step serializer e).isSome := by
  have hroot : ∀ e, (if session.processing.isSome then some session
      else session.stepRoot serializer e).isSome := by
    intro e
    split
    · rfl
    · rename_i hp
      exact h.stepRoot_isSome (by simpa using hp) e
  cases e with
  | completeResponseSerializers =>
    simp only [Session.step]
    split <;> rfl
  | receiveResponse t statusCode =>
    simp only [Session.step]
    split <;> rfl
  | runRoot => exact hroot _
  | runRequest => exact hroot _
  | runSerialization => exact hroot _
  | receiveData t data => exact hroot _
  | collectMetrics t => exact hroot _
  | complete t error => exact hroot _
  | _ => rfl

/-- **No trap**: no sequence of events makes the session or its task map fail. -/
theorem session_never_traps (serializer : JSONResponseSerializer) (es : List Event) :
    ∃ session, run (step serializer) initial es = some session := by
  have hrun : ∀ session : Session, session.Sound serializer →
      ∃ session', run (step serializer) session es = some session' := by
    -- On the events, from any sound session
    induction es with
    | nil => exact fun session _ => ⟨session, rfl⟩
    | cons e es ih =>
      intro session h
      obtain ⟨session', hs⟩ := Option.isSome_iff_exists.mp (h.step_isSome e)
      rw [run_cons hs]
      exact ih session' (h.step hs)
  exact hrun initial (Sound.initial serializer)

/-! ## A run -/

/-- Every body is read as `null`. -/
def nullSerializer : JSONResponseSerializer where
  jsonObject _ := .success .null
  inputDataNilOrZeroLength := { _code := 0, localizedDescription := "" }

/-- An upload from the first call to its handler, with the data in two chunks. -/
def uploadRun : List Event :=
  [.request .post (.upload none none), .responseJSON, .runRoot, .runRoot, .runRequest, .runRoot,
    .runRoot, .runRoot, .runRoot, .receiveResponse 0 200, .receiveData 0 [110, 117],
    .receiveData 0 [108, 108], .complete 0 none, .collectMetrics 0, .runRoot, .runSerialization,
    .runRoot, .completeResponseSerializers, .runMain]

/-- The session after the upload. -/
def uploaded : Session := (run (step nullSerializer) initial uploadRun).getD initial

theorem uploaded_reachable : Reachable (step nullSerializer) initial uploaded := ⟨uploadRun, rfl⟩

/-! ## The task map -/

/-- **The task map**: in every state it holds exactly the tasks that are not delivered, each with
its own request, in both directions. -/
theorem requestTaskMap_exact (h : Reachable (step serializer) initial session) (r t : Nat) :
    (session.requestTaskMap.requestsToTasks r = some t ↔
      t < session.nextTask ∧ (session.tasks t).request = r ∧
        (session.tasks t).delivered = false) ∧
    (session.requestTaskMap.tasksToRequests t = some r ↔
      session.requestTaskMap.requestsToTasks r = some t) := by
  have hconsistent := (sound_of_reachable h).consistent
  have hforward : session.requestTaskMap.requestsToTasks r = some t ↔
      t < session.nextTask ∧ (session.tasks t).request = r ∧
        (session.tasks t).delivered = false := by
    rw [show session.requestTaskMap.requestsToTasks r = some t ↔
      t ∈ (session.requests r).tasks ∧ session.registry.live t = true from
        hconsistent.requestsToTasks r t, live_iff]
    constructor
    · rintro ⟨hmem, hlt, hopen⟩
      exact ⟨hlt, (hconsistent.owned r t hmem).2, hopen⟩
    · rintro ⟨hlt, hr, hopen⟩
      exact ⟨by simp [tasks_eq hconsistent hlt hr], hlt, hopen⟩
  refine ⟨hforward, ?_⟩
  rw [hforward, show session.requestTaskMap.tasksToRequests t =
    if session.registry.live t then some (session.tasks t).request else none from
      hconsistent.tasksToRequests t]
  -- A task that is not live is in neither direction
  by_cases hlive : session.registry.live t = true
  · have hopen := live_iff.mp hlive
    simp [hlive, hopen.1, hopen.2]
  · rw [if_neg hlive]
    simp only [reduceCtorEq, false_iff]
    rintro ⟨hlt, -, hopen⟩
    exact hlive (live_iff.mpr ⟨hlt, hopen⟩)

theorem requestTaskMap_uploaded : uploaded.requestTaskMap.requestsToTasks 0 ≠ some 0 :=
  fun hsome => Bool.noConfusion
    ((requestTaskMap_exact uploaded_reachable 0 0).1.mp hsome).2.2

/-! ## One request among others -/

/-- The request was not made, or it is where it could be if it were alone. -/
def Alone (serializer : JSONResponseSerializer) (r : Nat) (session : Session) : Prop :=
  session.slice r = .unmade ∨
    Relation.ReflTransGen (Slice.Step serializer r)
      (.fresh r (session.requests r).method (session.requests r).convertible) (session.slice r)

/-- A step of the session is a step of this request alone, or leaves it where it is. -/
theorem Alone.step {e : Event} (h : Alone serializer r session)
    (hsound : session.Sound serializer) (hs : session.step serializer e = some session') :
    Alone serializer r session' := by
  -- A request that stays where it is keeps what it was made with
  have hsame : session'.slice r = session.slice r → Alone serializer r session' := by
    intro hslice
    have hrequest : session'.requests r = session.requests r := congrArg Slice.request hslice
    rw [Alone, hslice, hrequest]
    exact h
  obtain ⟨-, ⟨method, convertible, hself, hother⟩ | hfollows⟩ := step_follows hsound.regular hs
  · by_cases hr : r = session.nextRequest
    · subst hr
      have hrequest : session'.requests session.nextRequest =
          { method := method, convertible := convertible } := congrArg Slice.request hself
      right
      rw [hself, hrequest]
    · exact hsame (hother r hr)
  · rcases hfollows r with hslice | hstep
    · exact hsame hslice
    · right
      obtain ⟨hmethod, hconvertible⟩ := Slice.made_from_step hstep
      -- A number not given out yet takes no step
      rcases h with hunmade | hreach
      · rw [hunmade] at hstep
        exact absurd hstep Slice.not_step_unmade
      · rw [slice_request, slice_request] at hmethod hconvertible
        rw [hmethod, hconvertible]
        exact hreach.tail hstep

/-- **Every request on its own**: whatever the other requests do, a request is where it could be
if it were alone. -/
theorem slice_reachable (h : Reachable (step serializer) initial session)
    (hr : r < session.nextRequest) :
    Relation.ReflTransGen (Slice.Step serializer r)
      (.fresh r (session.requests r).method (session.requests r).convertible)
      (session.slice r) := by
  have hsound := sound_of_reachable h
  -- Both together are kept by every step: being sound is what lets a request step alone
  have hkept : session.Sound serializer ∧ Alone serializer r session := by
    refine h.invariant (I := fun session => session.Sound serializer ∧ Alone serializer r session)
      ⟨Sound.initial serializer, ?_⟩ ?_
    · exact Or.inl ((Sound.initial serializer).unmade (Nat.zero_le r))
    · exact fun _ _ _ hinv hs => ⟨hinv.1.step hs, hinv.2.step hinv.1 hs⟩
  rcases hkept.2 with hunmade | hreach
  · have hmade := (hsound.of_made hr).made
    rw [hunmade] at hmade
    exact absurd hmade (by simp [Slice.unmade])
  · exact hreach

theorem slice_uploaded :
    Relation.ReflTransGen (Slice.Step nullSerializer 0) (.fresh 0 .post (.upload none none))
      (uploaded.slice 0) :=
  slice_reachable uploaded_reachable (show 0 < 1 by decide)

/-! ## Once -/

/-- The responses posted for a request are the calls made and the calls still to make. -/
theorem posted_length : (session.called.filter fun entry => entry.1 = r).length +
    (session.mainQueue.filter fun entry => entry.1 = r).length =
      (session.slice r).posted.length := by
  simp [slice]

/-- **At most once**: in no run is the handler of a request called twice. -/
theorem handler_called_at_most_once (h : Reachable (step serializer) initial session) (r : Nat) :
    (session.called.filter fun entry => entry.1 = r).length +
      (session.mainQueue.filter fun entry => entry.1 = r).length ≤ 1 := by
  rw [posted_length]
  rcases (sound_of_reachable h).requests r with hunmade | hsound
  · simp [hunmade, Slice.unmade]
  -- Before the handler is attached nothing is posted, and after it the handler is in one place
  · cases ha : (session.slice r).attaching with
    | true => simp [(hsound.lifecycle.attaching ha).2.1]
    | false =>
      have hattached := hsound.lifecycle.attached ha
      omega

theorem uploaded_called_at_most_once :
    (uploaded.called.filter fun entry => entry.1 = 0).length +
      (uploaded.mainQueue.filter fun entry => entry.1 = 0).length ≤ 1 :=
  handler_called_at_most_once uploaded_reachable 0

/-- Nothing is left to do, and the URL session has delivered every task it was given to run. -/
structure Quiescent (session : Session) : Prop where
  rootQueue : session.rootQueue = []
  requestQueue : session.requestQueue = []
  serializationQueue : session.serializationQueue = []
  processing : session.processing = none
  attaching : session.attaching = none
  mainQueue : session.mainQueue = []
  tasks : ∀ t, (session.tasks t).running = true → (session.tasks t).delivered = true

/-- A request nothing is under way for has been finished. -/
theorem Quiescent.finished (hq : session.Quiescent)
    (hsound : (session.slice r).Sound serializer r) :
    (session.slice r).request.responseSerializerProcessingFinished = true ∧
      (session.slice r).request.responseSerializers = [] := by
  have hroot : (session.slice r).root = [] := by simp [slice, hq.rootQueue]
  have hperforms : (session.slice r).performs = 0 := by simp [slice, hq.requestQueue]
  have hserialization : (session.slice r).serialization = [] := by
    simp [slice, hq.serializationQueue]
  have hprocessing : (session.slice r).processing = false := by simp [slice, hq.processing]
  have hattaching : (session.slice r).attaching = false := by simp [slice, hq.attaching]
  have hserial := hsound.lifecycle.serial
  have hsetup := hsound.lifecycle.setup
  simp only [Slice.serializing, hroot, hserialization, hprocessing, List.countP_nil,
    List.length_nil, Bool.toNat_false] at hserial
  -- With every queue empty there is no round under way, so none is due
  have hdue : (session.slice r).due = false := by
    cases hd : (session.slice r).due with
    | true => simp [hd] at hserial
    | false => rfl
  simp only [Slice.due, Bool.or_eq_false_iff] at hdue
  cases hf : (session.slice r).request.responseSerializerProcessingFinished with
  | true =>
    rw [hf, Bool.true_and, Bool.not_eq_false', List.isEmpty_iff] at hdue
    exact ⟨rfl, hdue.2⟩
  | false =>
    -- Otherwise the token is the task, which runs as the request is resumed
    have hresumed : (session.slice r).request.state = .resumed := by
      have hproceeding := hsound.started.proceeding
      have hunfinished := hsound.started.unfinished hf
      have hpending := hsound.started.pending hattaching
      cases hstate : (session.slice r).request.state <;> simp_all
    have hdelivered : (session.slice r).outstanding = 0 := by
      rw [Slice.outstanding, List.countP_eq_zero]
      intro task hmem
      have hrunning := hsound.started.running hf hresumed task hmem
      obtain ⟨t, -, rfl⟩ := List.mem_map.mp hmem
      simp [hq.tasks t hrunning]
    simp only [Slice.making, Slice.ending, Slice.finishes, hroot, hperforms, hdelivered, hdue.1, hf,
      List.countP_nil, Bool.or_false, Bool.toNat_false] at hsetup
    exact absurd hsetup (by simp)

/-- With nothing left on the main queue all that was posted has been called. -/
theorem Quiescent.called_length (hq : session.Quiescent) :
    (session.called.filter fun entry => entry.1 = r).length =
      (session.slice r).posted.length := by
  rw [← posted_length, hq.mainQueue, List.filter_nil, List.length_nil, Nat.add_zero]

/-- What is posted in the end for a request. -/
theorem Quiescent.posted_length (hq : session.Quiescent)
    (hsound : (session.slice r).Sound serializer r) :
    (session.slice r).posted.length = if r ∈ session.overtaken then 0 else 1 := by
  have hattached := hsound.lifecycle.attached (by simp [slice, hq.attaching])
  rw [(hq.finished hsound).2, show (session.slice r).processing = false by
    simp [slice, hq.processing]] at hattached
  -- The handler is in one place: posted, or overtaken
  by_cases hovertaken : r ∈ session.overtaken
  · have hflag : (session.slice r).overtaken = true := by simp [slice, hovertaken]
    rw [hflag] at hattached
    rw [if_pos hovertaken]
    simpa using hattached
  · have hflag : (session.slice r).overtaken = false := by simp [slice, hovertaken]
    rw [hflag] at hattached
    rw [if_neg hovertaken]
    simpa using hattached

/-- **Exactly once**: when nothing is left to do, the handler of every request has been called,
unless it was attached while the request was being finalized; then it never is. -/
theorem handler_called_once (h : Reachable (step serializer) initial session)
    (hq : session.Quiescent) (hr : r < session.nextRequest) :
    (session.called.filter fun entry => entry.1 = r).length =
      if r ∈ session.overtaken then 0 else 1 := by
  rw [hq.called_length]
  exact hq.posted_length ((sound_of_reachable h).of_made hr)

/-- The upload has come to its end. -/
theorem uploaded_quiescent : uploaded.Quiescent where
  rootQueue := rfl
  requestQueue := rfl
  serializationQueue := rfl
  processing := rfl
  attaching := rfl
  mainQueue := rfl
  tasks := by
    intro t hrunning
    -- Only the one task was made
    have hlt : t < 1 := (sound_of_reachable uploaded_reachable).consistent.idle t hrunning
    obtain rfl : t = 0 := by omega
    rfl

theorem uploaded_called_once : (uploaded.called.filter fun entry => entry.1 = 0).length = 1 :=
  handler_called_once uploaded_reachable uploaded_quiescent (show 0 < 1 by decide)

/-- A request whose creation fails can be finalized before the main thread attaches the handler. -/
example (error : AFError) :
    (run (step nullSerializer) initial
      [.request .get (.request (some error)), .runRoot, .runRequest, .runRoot, .runRoot,
        .responseJSON, .completeResponseSerializers, .runRoot]).map
      (fun session => (session.called, session.overtaken)) = some ([], [0]) := rfl

/-- A posted response is the one the finished request has. -/
theorem finishes_of_posted (hsound : (session.slice r).Sound serializer r)
    {response : AFDataResponse} (hmem : response ∈ (session.slice r).posted) :
    (session.slice r).finishes = true ∧ response = (session.slice r).answer serializer := by
  refine ⟨?_, hsound.answered.posted response hmem⟩
  -- Before `finish` nothing has been posted
  by_contra hf
  rw [(hsound.lifecycle.quiet (Bool.eq_false_iff.mpr hf)).2.2] at hmem
  exact absurd hmem (by simp)

/-- **What a handler is called with**: the error that kept the request from getting a task, or
what its one task brought: the last status, all the data in the order it came, and the error or
the result of reading the data. -/
theorem response_of_task (h : Reachable (step serializer) initial session)
    {response : AFDataResponse} (hmem : (r, response) ∈ session.called ++ session.mainQueue) :
    (∀ error, (session.requests r).convertible.setupError = some error →
      response = { statusCode := none, data := none, result := .failure error }) ∧
    ((session.requests r).convertible.setupError = none →
      ∃ t, (session.requests r).tasks = [t] ∧ (session.tasks t).delivered = true ∧
        response =
          { statusCode := (session.tasks t).statusCode
            data := collected (session.tasks t).received
            result := serializer.serialize (some (session.requests r).method)
              (session.tasks t).statusCode (collected (session.tasks t).received)
              (session.tasks t).error }) := by
  have hposted : response ∈ (session.slice r).posted := by
    simp only [slice, List.mem_map, List.mem_filter]
    exact ⟨(r, response), ⟨hmem, by simp⟩, rfl⟩
  rcases (sound_of_reachable h).requests r with hunmade | hsound
  · rw [hunmade] at hposted
    exact absurd hposted (by simp [Slice.unmade])
  obtain ⟨hf, hanswer⟩ := finishes_of_posted hsound hposted
  obtain ⟨-, hfailed, hcreated, hdata⟩ := hsound.prepared.finished hsound.lifecycle hf
  -- Either the setup failed, and there is no task, or there is one and it brought everything
  constructor
  · intro error herror
    obtain ⟨hnone, herr⟩ := hfailed error herror
    have htasks : (session.slice r).tasks = [] := by
      rw [← List.length_eq_zero_iff, hsound.started.counted, hnone, List.length_nil]
    rw [htasks] at hdata
    rw [hanswer]
    simp only [Slice.answer, Slice.statusCode, htasks, hdata, herr]
    rfl
  · intro hnoError
    obtain ⟨hsome, hrequests, herr⟩ := hcreated hnoError
    obtain ⟨t, ht⟩ := List.exists_mem_of_ne_nil _ hsome
    obtain ⟨hlt, hreq⟩ := (sound_of_reachable h).consistent.owned r t ht
    have hlist : (session.requests r).tasks = [t] :=
      tasks_eq (sound_of_reachable h).consistent hlt hreq
    have htasks : (session.slice r).tasks = [session.tasks t] := by simp [slice, hlist]
    -- A task not delivered would hold the only token, but the request has used it to finish
    have hdelivered : (session.tasks t).delivered = true := by
      by_contra hopen
      have hunfinished := hsound.lifecycle.unfinished (by
        rw [Slice.outstanding_eq_one htasks (Bool.eq_false_iff.mpr hopen)]
        omega)
      rw [hf] at hunfinished
      exact absurd hunfinished (by simp)
    refine ⟨t, hlist, hdelivered, ?_⟩
    rw [htasks] at hdata herr
    rw [hanswer]
    simp only [Slice.answer, Slice.statusCode, htasks, hdata, herr, hrequests]
    simp [URLSessionTask.told, hdelivered]

theorem response_of_upload :
    ∃ t, (uploaded.requests 0).tasks = [t] ∧ (uploaded.tasks t).delivered = true ∧
      AFDataResponse.mk (some 200) (some [110, 117, 108, 108]) (.success .null) =
        { statusCode := (uploaded.tasks t).statusCode
          data := collected (uploaded.tasks t).received
          result := nullSerializer.serialize (some (uploaded.requests 0).method)
            (uploaded.tasks t).statusCode (collected (uploaded.tasks t).received)
            (uploaded.tasks t).error } :=
  (response_of_task uploaded_reachable (List.Mem.head _)).2 rfl

end Session

end ThorChat.Alamofire
