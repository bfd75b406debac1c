import Mathlib.Logic.Function.Basic

/-!
# The Map between Requests and Tasks

`RequestTaskMap.swift`: the requests of a session with the `URLSessionTask` each is waiting for.
A task is forgotten as soon as it is completed and its metrics are gathered, whichever comes
second. Requests and tasks are numbered; `none` as a result is a `fatalError`.
-/

namespace ThorChat.Alamofire

/-- `RequestTaskMap.Events`. -/
structure Events where
  completed : Bool
  metricsGathered : Bool
  deriving DecidableEq, Repr

/-- `RequestTaskMap`. -/
structure RequestTaskMap where
  tasksToRequests : Nat → Option Nat
  requestsToTasks : Nat → Option Nat
  taskEvents : Nat → Option Events

namespace RequestTaskMap

/-- `RequestTaskMap()`. -/
def empty : RequestTaskMap := ⟨fun _ => none, fun _ => none, fun _ => none⟩

/-- `requestTaskMap[request] = task`. -/
def associate (map : RequestTaskMap) (request task : Nat) : RequestTaskMap where
  requestsToTasks := Function.update map.requestsToTasks request (some task)
  tasksToRequests := Function.update map.tasksToRequests task (some request)
  taskEvents := Function.update map.taskEvents task (some ⟨false, false⟩)

/-- `requestTaskMap[task] = nil`. -/
def remove (map : RequestTaskMap) (task : Nat) : Option RequestTaskMap :=
  (map.tasksToRequests task).map fun request =>
    { tasksToRequests := Function.update map.tasksToRequests task none
      requestsToTasks := Function.update map.requestsToTasks request none
      taskEvents := Function.update map.taskEvents task none }

/-- `disassociateIfNecessaryAfterGatheringMetricsForTask(_:)`: whether the task was removed. -/
def disassociateIfNecessaryAfterGatheringMetricsForTask (map : RequestTaskMap) (task : Nat) :
    Option (Bool × RequestTaskMap) :=
  (map.taskEvents task).bind fun events =>
    match events.completed, events.metricsGathered with
    | _, true => none
    | false, false =>
      some (false, { map with
        taskEvents := Function.update map.taskEvents task (some ⟨false, true⟩) })
    | true, false => (map.remove task).map fun map => (true, map)

/-- `disassociateIfNecessaryAfterCompletingTask(_:)`, where metrics are available. -/
def disassociateIfNecessaryAfterCompletingTask (map : RequestTaskMap) (task : Nat) :
    Option (Bool × RequestTaskMap) :=
  (map.taskEvents task).bind fun events =>
    match events.completed, events.metricsGathered with
    | true, _ => none
    | false, false =>
      some (false, { map with
        taskEvents := Function.update map.taskEvents task (some ⟨true, false⟩) })
    | false, true => (map.remove task).map fun map => (true, map)

end RequestTaskMap

end ThorChat.Alamofire
