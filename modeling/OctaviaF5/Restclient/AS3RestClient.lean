import OctaviaF5.Restclient.LogResponse

/-! `AS3RestClient` and `AS3ExternalContainerRestClient` (as3restclient.py). One structure
models both classes; `cls` selects the overrides of the container client (`get_url`, `post`,
`patch`, `delete`). The `task_watcher`, a `ThreadPoolExecutor(max_workers=1)`, runs the waits
`post` submits one after another on its one worker, and a wait that `fut.result` gives up on
goes on running: its queue is `World.waits`, and the worker runs one pass of the loop of
`wait_for_task_finished` per poll it completes. `time.sleep` and the durations the metrics
observe are not modelled: the world says how many polls the worker completes before
`ASYNC_TIMEOUT`, and between the caller's calls. -/
namespace OctaviaF5

/-- `AS3_PATH`. -/
def as3Path : String := "/mgmt/shared/appsvcs"

/-- `AS3_DECLARE_PATH`. -/
def as3DeclarePath : String := as3Path ++ "/declare"

/-- `AS3_INFO_PATH`. -/
def as3InfoPath : String := as3Path ++ "/info"

/-- `AS3_TASKS_PATH.format(task_id)`. -/
def as3TasksPath (taskId : JsonValue) : String := as3Path ++ "/task/" ++ taskId.pyStr

/-- The class of a client: the container client keeps `parse.urlsplit(as3_url)`, a web URL
of the AS3 container as `bigip_url` is one of the device. -/
inductive ClientClass where
  | as3RestClient
  | externalContainer (as3Url : Bigip.Target)

/-- A client instance: its class, the session's target and `auth`, whether `__init__` made a
`task_watcher` (whose queue of waits is `World.waits`), and how many `log_response` hooks
`debug_enable` appended. -/
structure AS3RestClient where
  cls : ClientClass
  bigip : Bigip.Target
  auth : Auth
  taskWatcher : Bool
  debugHooks : Nat

namespace AS3RestClient

/-- `AS3RestClient(bigip_url, auth=auth, async_mode=async_mode)`. -/
def init (bigip : Bigip.Target) (auth : Auth) (asyncMode : Bool) : AS3RestClient :=
  ⟨.as3RestClient, bigip, auth, asyncMode, 0⟩

/-- `AS3ExternalContainerRestClient(bigip_url, as3_url, auth=auth, async_mode=async_mode)`. -/
def initExternalContainer (bigip as3Url : Bigip.Target) (auth : Auth) (asyncMode : Bool) :
    AS3RestClient :=
  ⟨.externalContainer as3Url, bigip, auth, asyncMode, 0⟩

/-- `self.hostname`. -/
def hostname (c : AS3RestClient) : Option String := c.bigip.hostname

/-- `get_url`; the container client sends the paths under `AS3_PATH` to its AS3 container. -/
def getUrl (c : AS3RestClient) (url : String) : String :=
  match c.cls with
  | .as3RestClient => c.bigip.getUrl url
  | .externalContainer as3 =>
    if as3Path.data.isPrefixOf url.data then as3.getUrl url else c.bigip.getUrl url

/-- `'{}/{}'.format(self.get_url(AS3_DECLARE_PATH), ','.join(tenants))`, the URL of the
declarations of `tenants` that `post` and `delete` address. -/
def declareUrl (c : AS3RestClient) (tenants : List String) : String :=
  c.getUrl as3DeclarePath ++ "/" ++ ",".intercalate tenants

/-- `self.hooks['response']`. -/
def hooks (c : AS3RestClient) : List (Response → PyM Unit) :=
  List.replicate c.debugHooks LogResponse.logResponse

/-- The request the session prepares: the session's `auth` goes with every request. -/
def request (c : AS3RestClient) (method url : String) (body : Option Body) : Request :=
  ⟨method, url, body, c.auth⟩

/-- A request through the session. -/
def send (c : AS3RestClient) (method url : String) (body : Option Body) : PyM Response :=
  sessionRequest c.hooks (c.request method url body)

/-- `BigIPRestClient.get(path)` (bigip_restclient): a GET of `get_url(path)`. -/
def get (c : AS3RestClient) (path : String) : PyM Response := c.send "GET" (c.getUrl path) none

/-- `debug_enable`. -/
def debugEnable (c : AS3RestClient) : PyM AS3RestClient := do
  logDebug "Installing AS3 debug hook for '%s'" [(c.hostname.elim JsonValue.null .str).pyStr]
  pure { c with debugHooks := c.debugHooks + 1 }

theorem exec_debugEnable (c : AS3RestClient) (w : World) :
    c.debugEnable.exec w = (.ok { c with debugHooks := c.debugHooks + 1 }, { w with
      log := w.log ++ [⟨.debug, "Installing AS3 debug hook for '%s'",
        [(c.hostname.elim JsonValue.null .str).pyStr]⟩] }) := rfl

/-- The hooks do not change the requests a client makes. -/
@[simp] theorem request_debugHooks (c : AS3RestClient) (k : Nat) (method url : String)
    (body : Option Body) :
    ({ c with debugHooks := k } : AS3RestClient).request method url body =
      c.request method url body := rfl

/-! ### Task polling -/

/-- `task.ok and all(res['code'] != 0 for res in task.json()['results'])`, short-circuiting
as Python does. -/
def taskFinished (task : Response) : Except PyError Bool :=
  if task.ok then do
    let results ← (← task.json).getItem "results"
    (← results.iter).allM fun res => do pure (← res.getItem "code").neZero
  else pure false

/-- One pass of the `while True` loop of `wait_for_task_finished`: the GET of the task, which
the loop returns when its test is true. -/
def pollTask (c : AS3RestClient) (taskId : JsonValue) : PyM (Option Response) := do
  let task ← c.get (as3TasksPath taskId)
  if ← PyM.lift (taskFinished task) then pure (some task) else pure none

/-- `wait_for_task_finished(task_id)`, for at most `polls` polls. `none`: it is still polling. -/
def waitForTaskFinished (c : AS3RestClient) (taskId : JsonValue) : Nat → PyM (Option Response)
  | 0 => pure none
  | polls + 1 => do
    match ← c.pollTask taskId with
    | some task => pure (some task)
    | none => c.waitForTaskFinished taskId polls

/-! ### The task watcher -/

/-- `self.task_watcher.submit(self.wait_for_task_finished, task_id)`: the wait joins the end of
the queue. The caller's future is known by the number of waits ahead of it. -/
def submit (taskId : JsonValue) : PyM Nat := do
  let w ← PyM.read
  PyM.update fun w => { w with waits := w.waits ++ [taskId] }
  pure w.waits.length

/-- The wait the worker runs ends: it leaves the queue. -/
def dequeue : PyM Unit := PyM.update fun w => { w with waits := w.waits.tail }

/-- The worker completes one poll: the first wait of the queue runs one pass of its loop. A
pass that returns the task, or raises, ends the wait, whose future then holds that outcome.
`none`: no wait ended. -/
def workerStep (c : AS3RestClient) : PyM (Option (Except PyError Response)) := do
  match (← PyM.read).waits with
  | [] => pure none
  | taskId :: _ =>
    match ← PyM.attempt (c.pollTask taskId) with
    | .ok none => pure none
    | .ok (some task) => do dequeue; pure (some (.ok task))
    | .error e => do dequeue; pure (some (.error e))

/-- The polls the worker completes while the caller is between calls. -/
def workerPolls (c : AS3RestClient) : Nat → PyM Unit
  | 0 => pure ()
  | polls + 1 => do
    let _ ← c.workerStep
    c.workerPolls polls

/-- `fut.result(timeout=ASYNC_TIMEOUT)` on the future of a wait with `ahead` waits before it,
while the worker completes at most `polls` polls: the task, or the exception, the wait ended
with, and `TimeoutError` when it has not ended; the wait then stays in the queue. -/
def awaitWait (c : AS3RestClient) : Nat → Nat → PyM Response
  | _, 0 => throw .timeoutError
  | ahead, polls + 1 => do
    let ended ← c.workerStep
    match ended, ahead with
    | some outcome, 0 => PyM.lift outcome
    | some _, ahead + 1 => c.awaitWait ahead polls
    | none, ahead => c.awaitWait ahead polls

/-! ### Metrics -/

/-- `Summary.observe` of the operation's duration summary. -/
def observe (m : Metric) : PyM Unit := PyM.update fun w => { w with metrics := w.metrics.observe m }

/-- `Counter.inc` of the operation's exception counter. -/
def countException (m : Metric) : PyM Unit :=
  PyM.update fun w => { w with metrics := w.metrics.count m }

/-- `@count_exceptions()` over `@time()`: every call is observed, and a call that raises is
counted before its exception propagates. -/
def instrumented {α : Type} (m : Metric) (body : PyM α) : PyM α :=
  PyM.tryExcept (fun _ => true) (do let a ← body; observe m; pure a)
    fun e => do observe m; countException m; throw e

/-- The decorators change only the metrics: the outcome and the rest of the world are the
body's. -/
theorem exec_instrumented {α : Type} (m : Metric) (body : PyM α) (w : World) :
    (instrumented m body).exec w =
      match body.exec w with
      | (.ok a, w') => (.ok a, { w' with metrics := w'.metrics.observe m })
      | (.error e, w') => (.error e, { w' with metrics := (w'.metrics.observe m).count m }) := by
  simp only [instrumented, PyM.exec_tryExcept, PyM.exec_bind]
  rcases body.exec w with ⟨_ | _, _⟩ <;> rfl

@[simp] theorem exec_instrumented_fst {α : Type} (m : Metric) (body : PyM α) (w : World) :
    ((instrumented m body).exec w).1 = (body.exec w).1 := by
  rw [exec_instrumented]
  rcases body.exec w with ⟨_ | _, _⟩ <;> rfl

@[simp] theorem exec_instrumented_sent {α : Type} (m : Metric) (body : PyM α) (w : World) :
    ((instrumented m body).exec w).2.sent = (body.exec w).2.sent := by
  rw [exec_instrumented]
  rcases body.exec w with ⟨_ | _, _⟩ <;> rfl

@[simp] theorem exec_instrumented_waits {α : Type} (m : Metric) (body : PyM α) (w : World) :
    ((instrumented m body).exec w).2.waits = (body.exec w).2.waits := by
  rw [exec_instrumented]
  rcases body.exec w with ⟨_ | _, _⟩ <;> rfl

/-! ### Operations -/

/-- The body of `AS3RestClient.post` (lines 110-119). A failed asynchronous submission falls
off the end of the function, which returns `None`. -/
def postBody (c : AS3RestClient) (tenants : List String) (payload : JsonValue) :
    PyM (Option Response) := do
  let url := c.declareUrl tenants
  if c.taskWatcher then
    let asyncUrl ← PyM.lift (Parse.withQuery url "async=true")
    let r ← c.send "POST" asyncUrl (Body.ofJson? payload)
    if r.ok then
      let taskId ← PyM.lift (do (← r.json).getItem "id")
      let ahead ← submit taskId
      let w ← PyM.read
      some <$> c.awaitWait ahead (w.deadline w.sent.length)
    else pure none
  else some <$> c.send "POST" url (Body.ofJson? payload)

/-- The container client's `post` stamps an `AS3` declaration with the device and the
session's credentials (lines 165-171). -/
def stamp (c : AS3RestClient) : Payload → Payload
  | .as3 d =>
    let d := d.setBigipTargetHost c.hostname
    .as3 (match c.auth with
      | .token t => d.setTargetTokens (.obj [(Bigip.bigipTokenHeader, .str t)])
      | .basic username password => (d.setTargetUsername username).setTargetPassphrase password
      | .none => d)
  | .other dict => .other dict

/-- `post(tenants, payload)`. -/
def post (c : AS3RestClient) (tenants : List String) (payload : Payload) :
    PyM (Option Response) :=
  match c.cls with
  | .as3RestClient => instrumented .post (c.postBody tenants payload.toDict)
  | .externalContainer _ => instrumented .post (c.postBody tenants (c.stamp payload).toDict)

/-- `patch(tenants, patch_body)`; the container client posts `AS3(action='patch')`. -/
def patch (c : AS3RestClient) (tenants : List String) (patchBody : JsonValue) :
    PyM (Option Response) :=
  match c.cls with
  | .as3RestClient =>
    instrumented .patch
      (some <$> c.send "PATCH" (c.getUrl as3DeclarePath) (Body.ofJson? patchBody))
  | .externalContainer _ =>
    c.post tenants (.as3 (AS3.make [("action", .str "patch"), ("patchBody", patchBody)]))

/-- `raise exceptions.DeleteAllTenenatsException()`, as lines 131 and 182 spell it. -/
def deleteAllTenantsRaise : PyError := Exceptions.raiseNamed "DeleteAllTenenatsException"

/-- `delete(tenants)`; the container client posts `AS3(action='remove')`. -/
def delete (c : AS3RestClient) (tenants : List String) : PyM (Option Response) :=
  match c.cls with
  | .as3RestClient =>
    instrumented .delete (if tenants.isEmpty then throw deleteAllTenantsRaise
      else some <$> c.send "DELETE" (c.declareUrl tenants) none)
  | .externalContainer _ =>
    if tenants.isEmpty then throw deleteAllTenantsRaise
    else c.post tenants (.as3 (AS3.make [("action", .str "remove")]))

/-- `info()`: `dict(device=self.hostname, **info.json())` after `raise_for_status()`. -/
def info (c : AS3RestClient) : PyM JsonValue := do
  let r ← c.get as3InfoPath
  if r.ok then
    match ← PyM.lift r.json with
    | .obj fields =>
      if fields.any (·.1 == "device") then
        throw (.typeError "dict() got multiple values for keyword argument 'device'")
      else pure (.obj (("device", c.hostname.elim .null .str) :: fields))
    | v => throw (.typeError ("dict() argument after ** must be a mapping, not " ++ v.typeName))
  else throw (.httpError r.reply.statusCode)

end AS3RestClient
end OctaviaF5
