import ThorChat.Alamofire.Slice

/-!
# A Request by Itself

The operations of a session on the slice of the one request they are about, and the steps a
slice can take (`Slice.Step`). What holds of every request in every interleaving is proved here,
where no other request is in sight.
-/

namespace ThorChat.Alamofire

open ThorChat.Runtime
open ThorChat.Sources

namespace Slice

/-- A request that was not made. -/
def unmade : Slice where
  made := false
  request := { method := .get, convertible := .request none }
  tasks := []
  root := []
  performs := 0
  serialization := []
  processing := false
  attaching := false
  posted := []
  overtaken := false
  temporaryFile := false

/-- A request just made. -/
def fresh (r : Nat) (method : HTTPMethod) (convertible : Convertible) : Slice :=
  { unmade with
    made := true
    request := { method := method, convertible := convertible }
    root := [.perform r]
    attaching := true }

/-! ## Operations -/

def async (block : Block) (c : Slice) : Slice := { c with root := c.root ++ [block] }

def processNextResponseSerializer (c : Slice) : Slice :=
  match Session.nextResponseSerializer c.request with
  | some handler => { c with serialization := c.serialization ++ [handler] }
  | none => { c with processing := true }

def cleanup (c : Slice) : Slice :=
  if c.request.uploadable then { c with temporaryFile := false } else c

def completeResponseSerializers (c : Slice) : Slice :=
  cleanup { c with
    request := { c.request with
      responseSerializers := []
      responseSerializerCompletions := []
      state := c.request.state.closed
      responseSerializerProcessingFinished := true
      isFinishing := false }
    posted := c.posted ++ c.request.responseSerializerCompletions.map (·.2)
    processing := false }

def responseSerializerDidComplete (completion : SerializerCompletion) (c : Slice) : Slice :=
  processNextResponseSerializer { c with
    request := { c.request with
      responseSerializerCompletions :=
        c.request.responseSerializerCompletions ++ [completion] } }

def statusCode (c : Slice) : Option Int := c.tasks.getLast?.bind (·.statusCode)

def serialize (serializer : JSONResponseSerializer) (r handler : Nat) (c : Slice) : Slice :=
  c.async (.didParseResponse r handler
    (serializer.serialize c.request.requests.getLast? c.statusCode c.request.data c.request.error))

def didParseResponse (r handler : Nat) (result : AFResult) (c : Slice) : Slice :=
  let response : AFDataResponse :=
    { statusCode := c.statusCode, data := c.request.data, result := result }
  match result with
  | .success _ => c.responseSerializerDidComplete (handler, response)
  | .failure _ => c.async (.didNotRetry r handler response)

def finish (c : Slice) : Slice :=
  if c.request.isFinishing then c
  else processNextResponseSerializer { c with request := { c.request with isFinishing := true } }

def retryOrFinish (r : Nat) (error : Option AFError) (c : Slice) : Slice :=
  match error with
  | none => c.finish
  | some _ => c.async (.doNotRetry r)

def didFail (r : Nat) (error : AFError) (c : Slice) : Slice :=
  async (.doNotRetry r) { c with request := { c.request with error := some error } }

def didCompleteTask (r : Nat) (error : Option AFError) (c : Slice) : Slice :=
  let c := { c with request := { c.request with error := c.request.error.or error } }
  c.retryOrFinish r c.request.error

def resumeTask (c : Slice) : Slice :=
  { c with tasks := c.tasks.map fun task => { task with running := true } }

def resume (r : Nat) (c : Slice) : Slice :=
  if c.request.state.canTransitionTo .resumed then
    let c := async (.eventMonitor r) { c with request := { c.request with state := .resumed } }
    match c.tasks.getLast? with
    | some task => if task.completed then c else c.resumeTask.async (.eventMonitor r)
    | none => c
  else c

def updateStatesForTask (r : Nat) (c : Slice) : Slice :=
  match c.request.state with
  | .initialized => c
  | .finished => c
  | .resumed => c.resumeTask.async (.eventMonitor r)
  | .suspended => c.async (.eventMonitor r)
  | .cancelled => c.resumeTask.async (.eventMonitor r)

/-- The new task has number `t`. -/
def createTask (r t : Nat) (c : Slice) : Slice :=
  { c with
    request := { c.request with tasks := c.request.tasks ++ [t] }
    tasks := c.tasks ++ [{ request := r }] }

def didCreateURLRequest (r t : Nat) (c : Slice) : Option Slice :=
  if c.request.state = .cancelled then some c
  else if Session.canCreateTask c.request then some ((c.createTask r t).updateStatesForTask r)
  else none

/-- What setting up a request posts, given what goes wrong on the way. -/
def setup (r : Nat) : Convertible → List Block
  | .request (some error) => [.didFailToCreateURLRequest r error]
  | .request none => [.didCreateInitialURLRequest r, .didCreateURLRequest r]
  | .upload (some error) _ => [.didFailToCreateUploadable r error]
  | .upload none (some error) => [.didCreateUploadable r, .didFailToCreateURLRequest r error]
  | .upload none none =>
    [.didCreateUploadable r, .didCreateInitialURLRequest r, .didCreateURLRequest r]

/-- The form of an upload is written to a temporary file. -/
def writesTemporaryFile : Convertible → Bool
  | .upload none _ => true
  | _ => false

/-- `performRequest` of a request that is not cancelled. -/
def performRequest (r : Nat) (c : Slice) : Slice :=
  { c with
    root := c.root ++ setup r c.request.convertible
    temporaryFile := writesTemporaryFile c.request.convertible || c.temporaryFile }

def execute (r t : Nat) (block : Block) (c : Slice) : Option Slice :=
  match block with
  | .perform _ => some (if c.request.state = .cancelled then c
    else { c with performs := c.performs + 1 })
  | .didCreateUploadable _ =>
    some { c with request := { c.request with uploadable := true } }
  | .didFailToCreateUploadable _ error => some (c.didFail r error)
  | .didCreateInitialURLRequest _ =>
    some { c with request := { c.request with
      requests := c.request.requests ++ [c.request.method] } }
  | .didCreateURLRequest _ => c.didCreateURLRequest r t
  | .didFailToCreateURLRequest _ error => some (c.didFail r error)
  | .doNotRetry _ => some c.finish
  | .startImmediately _ => some (c.resume r)
  | .processNextResponseSerializer _ => some c.processNextResponseSerializer
  | .didParseResponse _ handler result => some (c.didParseResponse r handler result)
  | .didNotRetry _ handler response =>
    some (c.responseSerializerDidComplete (handler, response))
  | .eventMonitor _ => some c

def didReceive (data : Data) (c : Slice) : Slice :=
  { c with
    tasks := c.tasks.map fun task => { task with received := task.received ++ [data] }
    request := { c.request with
      data := match c.request.data with
        | none => some data
        | some mutableData => some (mutableData ++ data) } }

def didFinishCollecting (r : Nat) (task : URLSessionTask) (c : Slice) : Slice :=
  let c := { c with tasks := [{ task with metricsGathered := true }] }
  if task.completed then c.didCompleteTask r task.error else c

def didCompleteWithError (r : Nat) (task : URLSessionTask) (error : Option AFError) (c : Slice) :
    Slice :=
  let c := { c with tasks := [{ task with completed := true, error := error }] }
  if task.metricsGathered then c.didCompleteTask r error else c

def appendResponseSerializer (r handler : Nat) (c : Slice) : Slice :=
  let c : Slice := { c with
    request := { c.request with
      responseSerializers := c.request.responseSerializers ++ [handler]
      state := c.request.state.reopened } }
  let c := if c.request.responseSerializerProcessingFinished then
      c.async (.processNextResponseSerializer r)
    else c
  if c.request.state.canTransitionTo .resumed then c.async (.startImmediately r) else c

def responseJSON (r : Nat) (c : Slice) : Slice :=
  { c.appendResponseSerializer r r with
    attaching := false
    overtaken := c.processing || c.overtaken }

/-! ## Steps -/

/-- What can happen to request `r`. The root queue only runs while nothing is between the two
critical sections. -/
inductive Step (serializer : JSONResponseSerializer) (r : Nat) : Slice → Slice → Prop where
  | responseJSON {c : Slice} (h : c.attaching = true) : Step serializer r c (c.responseJSON r)
  | runRoot {c c' : Slice} {block : Block} {rest : List Block} {t : Nat}
    (hp : c.processing = false) (hroot : c.root = block :: rest)
    (h : execute r t block { c with root := rest } = some c') : Step serializer r c c'
  | runRequest {c : Slice} {n : Nat} (hp : c.processing = false) (h : c.performs = n + 1) :
    Step serializer r c (performRequest r { c with performs := n })
  | runSerialization {c : Slice} {handler : Nat} {rest : List Nat} (hp : c.processing = false)
    (h : c.serialization = handler :: rest) :
    Step serializer r c (serialize serializer r handler { c with serialization := rest })
  | completeResponseSerializers {c : Slice} (h : c.processing = true) :
    Step serializer r c c.completeResponseSerializers
  | receiveResponse {c : Slice} {task : URLSessionTask} (statusCode : Int) (h : c.tasks = [task])
    (hopen : task.completed = false) :
    Step serializer r c { c with tasks := [{ task with statusCode := some statusCode }] }
  | receiveData {c : Slice} {task : URLSessionTask} (data : Data) (h : c.tasks = [task])
    (hopen : task.completed = false) : Step serializer r c (c.didReceive data)
  | collectMetrics {c : Slice} {task : URLSessionTask} (hp : c.processing = false)
    (h : c.tasks = [task]) (hrunning : task.running = true)
    (hopen : task.metricsGathered = false) : Step serializer r c (c.didFinishCollecting r task)
  | complete {c : Slice} {task : URLSessionTask} (error : Option AFError)
    (hp : c.processing = false) (h : c.tasks = [task]) (hrunning : task.running = true)
    (hopen : task.completed = false) : Step serializer r c (c.didCompleteWithError r task error)

end Slice

end ThorChat.Alamofire
