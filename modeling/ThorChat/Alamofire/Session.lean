import ThorChat.Alamofire.RequestTaskMap
import ThorChat.Alamofire.ResponseSerialization
import ThorChat.Library.Transition

/-!
# The Life of a Request inside Alamofire

`Session.swift`, `Request.swift` and `SessionDelegate.swift`, as far as the default session takes
a request of the app: no interceptor, no validation, immediate start, and nobody suspends,
resumes or cancels a request by hand. Requests and tasks are numbered in the order of their
creation, and a response handler carries the number of its request.

## What runs where

The root queue is serial; the request queue and the serialization queue target it, and
`URLSession` calls its delegate on it. So one block runs at a time, the first of any of these
queues, and the blocks it posts go to the end of theirs. The main thread runs beside them: it
makes a request, attaches the handler to it, and runs the completions that were posted to it.

The mutable state of a request is under a lock, so a block is one step as long as it takes the
lock once. `processNextResponseSerializer` takes it twice when no serializer is left, and the
main thread can attach its handler in between; the second time is a step of its own.
-/

namespace ThorChat.Alamofire

open ThorChat.Runtime
open ThorChat.Sources

/-! ## Requests and tasks -/

/-- `Request.State`. -/
inductive State where
  | initialized
  | resumed
  | suspended
  | cancelled
  | finished
  deriving DecidableEq, Repr

/-- `canTransitionTo(_:)`. -/
def State.canTransitionTo : State → State → Bool
  | .initialized, _ => true
  | _, .initialized => false
  | .cancelled, _ => false
  | .finished, _ => false
  | .resumed, .cancelled => true
  | .suspended, .cancelled => true
  | .resumed, .suspended => true
  | .suspended, .resumed => true
  | .suspended, .suspended => false
  | .resumed, .resumed => false
  | _, .finished => true

/-- A finished request is taken up again. -/
def State.reopened : State → State
  | .finished => .resumed
  | state => state

/-- A request is finished if it can be. -/
def State.closed (state : State) : State :=
  if state.canTransitionTo .finished then .finished else state

/-- What a request is made from, with the errors thrown on the way to its `URLRequest`. -/
inductive Convertible where
  /-- `DataRequest`: `asURLRequest()` or `validate()` may throw. -/
  | request (error : Option AFError)
  /-- `UploadRequest` of a multipart form, which is written to a temporary file:
  `createUploadable()` may throw, or `validate()` after it. -/
  | upload (uploadableError error : Option AFError)

/-- A response serializer is known by its handler, a completion by the handler and the response
it is called with. -/
abbrev SerializerCompletion := Nat × AFDataResponse

/-- `DataRequest` and `UploadRequest`. -/
structure Request where
  method : HTTPMethod
  convertible : Convertible
  state : State := .initialized
  /-- The HTTP methods of the `URLRequest`s created. -/
  requests : List HTTPMethod := []
  /-- `uploadable` is not nil. -/
  uploadable : Bool := false
  tasks : List Nat := []
  data : Option Data := none
  error : Option AFError := none
  responseSerializers : List Nat := []
  responseSerializerCompletions : List SerializerCompletion := []
  responseSerializerProcessingFinished : Bool := false
  isFinishing : Bool := false

/-- `URLSessionTask`. -/
structure URLSessionTask where
  /-- The request the task was created for (a history variable). -/
  request : Nat
  running : Bool := false
  /-- The status code of `response`. -/
  statusCode : Option Int := none
  /-- The data delivered so far, in order (a history variable). -/
  received : List Data := []
  /-- The task is completed, and its delegate has been told. -/
  completed : Bool := false
  /-- The error it is completed with (a history variable). -/
  error : Option AFError := none
  metricsGathered : Bool := false

/-! ## Queues -/

/-- The blocks posted to the root queue, each with the request it belongs to. -/
inductive Block where
  /-- `perform(_:)`. -/
  | perform (request : Nat)
  | didCreateUploadable (request : Nat)
  | didFailToCreateUploadable (request : Nat) (error : AFError)
  | didCreateInitialURLRequest (request : Nat)
  | didCreateURLRequest (request : Nat)
  | didFailToCreateURLRequest (request : Nat) (error : AFError)
  /-- The answer `.doNotRetry` to `retryOrFinish(error:)`. -/
  | doNotRetry (request : Nat)
  /-- The attempt to resume that `appendResponseSerializer` posts. -/
  | startImmediately (request : Nat)
  | processNextResponseSerializer (request : Nat)
  /-- A response serializer has its result. -/
  | didParseResponse (request handler : Nat) (result : AFResult)
  /-- The answer `.doNotRetry` to the error of a response serializer. -/
  | didNotRetry (request handler : Nat) (response : AFDataResponse)
  /-- `didResume`, `didResumeTask` and the like, which tell the event monitor only. -/
  | eventMonitor (request : Nat)

/-- `Session` with the queues and the main thread. -/
structure Session where
  requests : Nat → Request
  nextRequest : Nat
  tasks : Nat → URLSessionTask
  nextTask : Nat
  requestTaskMap : RequestTaskMap
  /-- The completion closures that wait for metrics: the request they found and the error. -/
  waitingCompletions : Nat → Option (Option Nat × Option AFError)
  /-- The requests whose multipart form lies in the temporary directory. -/
  temporaryFiles : List Nat
  rootQueue : List Block
  requestQueue : List Nat
  /-- The serializers to run: request and handler. -/
  serializationQueue : List (Nat × Nat)
  /-- The request whose `processNextResponseSerializer` found no serializer left and is between
  its two critical sections. -/
  processing : Option Nat
  /-- The request the main thread has made and attaches the handler to next. -/
  attaching : Option Nat
  mainQueue : List SerializerCompletion
  /-- The completions the main thread has run (a history variable). -/
  called : List SerializerCompletion
  /-- The requests whose handler was attached between the two critical sections (a history
  variable). -/
  overtaken : List Nat

namespace Session

/-- The default session before its first request. -/
def initial : Session where
  requests _ := { method := .get, convertible := .request none }
  nextRequest := 0
  tasks _ := { request := 0 }
  nextTask := 0
  requestTaskMap := .empty
  waitingCompletions _ := none
  temporaryFiles := []
  rootQueue := []
  requestQueue := []
  serializationQueue := []
  processing := none
  attaching := none
  mainQueue := []
  called := []
  overtaken := []

/-- `rootQueue.async`. -/
def async (block : Block) (session : Session) : Session :=
  { session with rootQueue := session.rootQueue ++ [block] }

/-- Change the mutable state of a request. -/
def write (r : Nat) (f : Request → Request) (session : Session) : Session :=
  { session with requests := Function.update session.requests r (f (session.requests r)) }

/-- Change a task. -/
def writeTask (t : Nat) (f : URLSessionTask → URLSessionTask) (session : Session) : Session :=
  { session with tasks := Function.update session.tasks t (f (session.tasks t)) }

/-! ## Response serializers -/

/-- `nextResponseSerializer()`. -/
def nextResponseSerializer (request : Request) : Option Nat :=
  request.responseSerializers[request.responseSerializerCompletions.length]?

/-- `processNextResponseSerializer()`, as far as the second time it takes the lock. -/
def processNextResponseSerializer (r : Nat) (session : Session) : Session :=
  match nextResponseSerializer (session.requests r) with
  | some handler =>
    { session with serializationQueue := session.serializationQueue ++ [(r, handler)] }
  -- The lock was given back: what is left to do takes it a second time
  | none => { session with processing := some r }

/-- `cleanup()`: the temporary file of an upload is removed. -/
def cleanup (r : Nat) (session : Session) : Session :=
  if (session.requests r).uploadable then
    { session with temporaryFiles := session.temporaryFiles.filter (· ≠ r) }
  else session

/-- The rest of `processNextResponseSerializer()`: the serializers are cleared and all
completions are called, which posts them to the main queue. -/
def completeResponseSerializers (r : Nat) (session : Session) : Session :=
  let completions := (session.requests r).responseSerializerCompletions
  let session := session.write r fun request =>
    { request with
      responseSerializers := []
      responseSerializerCompletions := []
      state := request.state.closed
      responseSerializerProcessingFinished := true
      isFinishing := false }
  ({ session with mainQueue := session.mainQueue ++ completions, processing := none }).cleanup r

/-- `responseSerializerDidComplete(completion:)`. -/
def responseSerializerDidComplete (r : Nat) (completion : SerializerCompletion)
    (session : Session) : Session :=
  (session.write r fun request =>
    { request with
      responseSerializerCompletions :=
        request.responseSerializerCompletions ++ [completion] }).processNextResponseSerializer r

/-- `appendResponseSerializer(_:)`. -/
def appendResponseSerializer (r handler : Nat) (session : Session) : Session :=
  -- One critical section: the tests read what was written here
  let session := session.write r fun request =>
    { request with
      responseSerializers := request.responseSerializers ++ [handler]
      state := request.state.reopened }
  let session :=
    if (session.requests r).responseSerializerProcessingFinished then
      session.async (.processNextResponseSerializer r)
    else session
  if (session.requests r).state.canTransitionTo .resumed then
    session.async (.startImmediately r)
  else session

/-- The status code of the response of the last task. -/
def statusCode (r : Nat) (session : Session) : Option Int :=
  (session.requests r).tasks.getLast?.bind fun t => (session.tasks t).statusCode

/-- The closure that `response(queue:responseSerializer:completionHandler:)` appends, up to what
it posts. -/
def serialize (serializer : JSONResponseSerializer) (r handler : Nat) (session : Session) :
    Session :=
  let request := session.requests r
  let result := serializer.serialize request.requests.getLast? (session.statusCode r)
    request.data request.error
  session.async (.didParseResponse r handler result)

/-- What that closure posts: the response is put together, and a failure asks for a retry. -/
def didParseResponse (r handler : Nat) (result : AFResult) (session : Session) : Session :=
  let response : AFDataResponse :=
    { statusCode := session.statusCode r, data := (session.requests r).data, result := result }
  match result with
  | .success _ => session.responseSerializerDidComplete r (handler, response)
  | .failure _ => session.async (.didNotRetry r handler response)

/-! ## Finishing -/

/-- `finish(error:)`, which is only called without an error. -/
def finish (r : Nat) (session : Session) : Session :=
  if (session.requests r).isFinishing then session
  else (session.write r fun request =>
    { request with isFinishing := true }).processNextResponseSerializer r

/-- `retryOrFinish(error:)`: without a retrier the answer is posted. -/
def retryOrFinish (r : Nat) (error : Option AFError) (session : Session) : Session :=
  match error with
  | none => session.finish r
  -- The delegate asks no retrier, but it answers on the root queue
  | some _ => session.async (.doNotRetry r)

/-- `didFailToCreateURLRequest(with:)` and `didFailToCreateUploadable(with:)`. -/
def didFail (r : Nat) (error : AFError) (session : Session) : Session :=
  (session.write r fun request => { request with error := some error }).retryOrFinish r
    (some error)

/-- `didCompleteTask(_:with:)`; there are no validators. -/
def didCompleteTask (r : Nat) (error : Option AFError) (session : Session) : Session :=
  let session := session.write r fun request => { request with error := request.error.or error }
  session.retryOrFinish r (session.requests r).error

/-! ## Starting -/

/-- `task.resume()`. -/
def resumeTask (t : Nat) (session : Session) : Session :=
  session.writeTask t fun task => { task with running := true }

/-- `resume()`. -/
def resume (r : Nat) (session : Session) : Session :=
  if (session.requests r).state.canTransitionTo .resumed then
    let session :=
      (session.write r fun request => { request with state := .resumed }).async (.eventMonitor r)
    -- The attempt can come before the request has a task
    match (session.requests r).tasks.getLast? with
    | some t =>
      if (session.tasks t).completed then session
      else (session.resumeTask t).async (.eventMonitor r)
    | none => session
  else session

/-- `updateStatesForTask(_:request:)`; a suspended or cancelled task does not run. -/
def updateStatesForTask (t r : Nat) (session : Session) : Session :=
  match (session.requests r).state with
  | .initialized => session
  | .finished => session
  | .resumed => (session.resumeTask t).async (.eventMonitor r)
  | .suspended => session.async (.eventMonitor r)
  | .cancelled => (session.resumeTask t).async (.eventMonitor r)

/-- `task(for:using:)` is a `fatalError` for an upload without its uploadable. -/
def canCreateTask (request : Request) : Bool :=
  match request.convertible with
  | .request _ => true
  | .upload _ _ => request.uploadable

/-- The task is created and associated with its request, which is told. -/
def createTask (r : Nat) (session : Session) : Session :=
  { session with
    nextTask := session.nextTask + 1
    tasks := Function.update session.tasks session.nextTask { request := r }
    -- The map is told before the request is
    requestTaskMap := session.requestTaskMap.associate r session.nextTask }.write r
      fun request => { request with tasks := request.tasks ++ [session.nextTask] }

/-- `didCreateURLRequest(_:for:)` of the session. -/
def didCreateURLRequest (r : Nat) (session : Session) : Option Session :=
  if (session.requests r).state = .cancelled then some session
  else if canCreateTask (session.requests r) then
    some ((session.createTask r).updateStatesForTask session.nextTask r)
  else none

/-- `performSetupOperations(for:convertible:)`, given what the `URLRequest` throws. -/
def performSetupOperations (r : Nat) (error : Option AFError) (session : Session) : Session :=
  match error with
  | some error => session.async (.didFailToCreateURLRequest r error)
  | none =>
    let session := session.async (.didCreateInitialURLRequest r)
    -- Without an adapter the request is used as it is
    if (session.requests r).state = .cancelled then session
    else session.async (.didCreateURLRequest r)

/-- `performDataRequest(_:)` and `performUploadRequest(_:)`. -/
def performRequest (r : Nat) (session : Session) : Session :=
  match (session.requests r).convertible with
  | .request error => session.performSetupOperations r error
  | .upload (some error) _ => session.async (.didFailToCreateUploadable r error)
  | .upload none error =>
    -- The form is written to its file on this queue, before the request hears of it
    let session := { session with temporaryFiles := r :: session.temporaryFiles }
    (session.async (.didCreateUploadable r)).performSetupOperations r error

/-- `perform(_:)`, the block it posts. -/
def perform (r : Nat) (session : Session) : Session :=
  if (session.requests r).state = .cancelled then session
  else { session with requestQueue := session.requestQueue ++ [r] }

/-- Run a block of the root queue. -/
def execute (block : Block) (session : Session) : Option Session :=
  match block with
  | .perform r => some (session.perform r)
  | .didCreateUploadable r =>
    some (session.write r fun request => { request with uploadable := true })
  | .didFailToCreateUploadable r error => some (session.didFail r error)
  | .didCreateInitialURLRequest r =>
    some (session.write r fun request =>
      { request with requests := request.requests ++ [request.method] })
  | .didCreateURLRequest r => session.didCreateURLRequest r
  | .didFailToCreateURLRequest r error => some (session.didFail r error)
  | .doNotRetry r => some (session.finish r)
  | .startImmediately r => some (session.resume r)
  | .processNextResponseSerializer r => some (session.processNextResponseSerializer r)
  | .didParseResponse r handler result => some (session.didParseResponse r handler result)
  | .didNotRetry r handler response =>
    some (session.responseSerializerDidComplete r (handler, response))
  | .eventMonitor _ => some session

/-! ## The delegate of the URL session -/

/-- `urlSession(_:dataTask:didReceive:)`; an unknown task fails an assertion. -/
def didReceive (t : Nat) (data : Data) (session : Session) : Option Session :=
  (session.requestTaskMap.tasksToRequests t).map fun r =>
    (session.writeTask t fun task => { task with received := task.received ++ [data] }).write r
      fun request => { request with
        data := match request.data with
          | none => some data
          | some mutableData => some (mutableData ++ data) }

/-- A completion closure: the request it found is told. -/
def complete (completion : Option Nat × Option AFError) (session : Session) : Session :=
  match completion.1 with
  | some r => session.didCompleteTask r completion.2
  | none => session

/-- `waitingCompletions[task] = completion`. -/
def await (t : Nat) (completion : Option (Option Nat × Option AFError)) (session : Session) :
    Session :=
  { session with
    waitingCompletions := Function.update session.waitingCompletions t completion }

/-- `didGatherMetricsForTask(_:)` and `didCompleteTask(_:)`: the map is left changed. -/
def setMap (map : RequestTaskMap) (session : Session) : Session :=
  { session with requestTaskMap := map }

/-- `urlSession(_:task:didFinishCollecting:)`. -/
def didFinishCollecting (t : Nat) (session : Session) : Option Session :=
  let session := session.writeTask t fun task => { task with metricsGathered := true }
  (session.requestTaskMap.disassociateIfNecessaryAfterGatheringMetricsForTask t).map
    fun (didDisassociate, map) =>
      let session := session.setMap map
      if didDisassociate then
        match session.waitingCompletions t with
        | some completion => (session.complete completion).await t none
        | none => session.await t none
      else session

/-- `urlSession(_:task:didCompleteWithError:)`. -/
def didCompleteWithError (t : Nat) (error : Option AFError) (session : Session) :
    Option Session :=
  let completion := (session.requestTaskMap.tasksToRequests t, error)
  let session := session.writeTask t fun task => { task with completed := true, error := error }
  (session.requestTaskMap.disassociateIfNecessaryAfterCompletingTask t).map
    fun (didDisassociate, map) =>
      let session := session.setMap map
      if didDisassociate then session.complete completion
      else session.await t (some completion)

/-! ## Steps -/

/-- `request(_:method:parameters:…)` or `upload(multipartFormData:…)` on the main thread. -/
def request (method : HTTPMethod) (convertible : Convertible) (session : Session) : Session :=
  let r := session.nextRequest
  ({ session with
    requests := Function.update session.requests r { method := method, convertible := convertible }
    nextRequest := r + 1
    attaching := some r }).async (.perform r)

/-- `.responseJSON` on the request just made. -/
def responseJSON (r : Nat) (session : Session) : Session :=
  let session := session.appendResponseSerializer r r
  { session with
    attaching := none
    overtaken := if session.processing = some r then r :: session.overtaken
      else session.overtaken }

end Session

/-- What can happen next. -/
inductive Event where
  /-- The main thread makes a request … -/
  | request (method : HTTPMethod) (convertible : Convertible)
  /-- … attaches the handler to it … -/
  | responseJSON
  /-- … or runs the next completion posted to it. -/
  | runMain
  | runRoot
  | runRequest
  | runSerialization
  /-- The second critical section of `processNextResponseSerializer`. -/
  | completeResponseSerializers
  /-- The server's header arrives. -/
  | receiveResponse (task : Nat) (statusCode : Int)
  | receiveData (task : Nat) (data : Data)
  | collectMetrics (task : Nat)
  | complete (task : Nat) (error : Option AFError)

namespace Session

/-- The queues on the main thread's side. -/
def stepMain (session : Session) : Event → Session
  | .request method convertible =>
    if session.attaching.isSome then session else session.request method convertible
  | .responseJSON =>
    match session.attaching with
    | some r => session.responseJSON r
    | none => session
  | .runMain =>
    match session.attaching, session.mainQueue with
    | none, completion :: rest =>
      { session with mainQueue := rest, called := session.called ++ [completion] }
    | _, _ => session
  | _ => session

/-- A step while no block is under way. The URL session only calls its delegate about a running
task, with data before the task is completed, and with each of the other events once. -/
def stepRoot (serializer : JSONResponseSerializer) (session : Session) : Event → Option Session
  | .runRoot =>
    match session.rootQueue with
    | block :: rest => ({ session with rootQueue := rest }).execute block
    | [] => some session
  | .runRequest =>
    match session.requestQueue with
    | r :: rest => some (({ session with requestQueue := rest }).performRequest r)
    | [] => some session
  | .runSerialization =>
    match session.serializationQueue with
    | (r, handler) :: rest =>
      some (({ session with serializationQueue := rest }).serialize serializer r handler)
    | [] => some session
  | .receiveData t data =>
    if (session.tasks t).running && !(session.tasks t).completed then session.didReceive t data
    else some session
  | .collectMetrics t =>
    if (session.tasks t).running && !(session.tasks t).metricsGathered then
      session.didFinishCollecting t
    else some session
  | .complete t error =>
    if (session.tasks t).running && !(session.tasks t).completed then
      session.didCompleteWithError t error
    else some session
  | _ => some session

/-- Handle one event. -/
def step (serializer : JSONResponseSerializer) (session : Session) (e : Event) : Option Session :=
  match e with
  | .request _ _ | .responseJSON | .runMain => some (session.stepMain e)
  | .completeResponseSerializers =>
    match session.processing with
    | some r => some (session.completeResponseSerializers r)
    | none => some session
  | .receiveResponse t statusCode =>
    if (session.tasks t).running && !(session.tasks t).completed then
      some (session.writeTask t fun task => { task with statusCode := some statusCode })
    else some session
  | e => if session.processing.isSome then some session else session.stepRoot serializer e

end Session

end ThorChat.Alamofire
