import OctaviaF5.Python.JsonDumps

/-! The process the client runs in, as far as the client can observe or change it: the
appliance, which answers the `n`-th request the process sends with `replies n`; how many polls
the task watcher's worker completes before a wait times out and between the caller's calls; the
waits the worker holds; the requests on the wire; the log records written; and the prometheus
metrics. Computations run in `PyM`, where a raised exception leaves the effects already made in
place, as in Python. -/
namespace OctaviaF5

/-- What `json.loads` makes of a text: a value, `ValueError` for a text that is not JSON, or
`RecursionError` for one nested deeper than the interpreter's recursion limit. -/
inductive Decoded where
  | value (v : JsonValue)
  | invalid
  | tooDeep

/-- A body on the wire: its text, and what `json.loads` makes of it. -/
structure Body where
  text : String
  json : Decoded

/-- The body `requests` sends for `json=v`: `json.dumps(v)`, which `json.loads` inverts. -/
def Body.ofJson (v : JsonValue) : Body := ⟨JsonValue.dumps .compact v, .value v⟩

/-- `requests` sends a `json=` body unless the value is `None`. -/
def Body.ofJson? : JsonValue → Option Body
  | .null => none
  | v => some (Body.ofJson v)

/-- The `auth` object of a BIG-IP session (`bigip_auth`): a token, or a basic-auth principal. -/
inductive Auth where
  | none
  | token (token : String)
  | basic (username password : String)

/-- A request as the client hands it to the session: the method, the URL before `requests`
prepares it (`Request.target` is what goes on the wire), the body, and the session's `auth`. -/
structure Request where
  method : String
  url : String
  body : Option Body
  auth : Auth

/-- What the appliance sends back. Header lookup ignores the case of names. -/
structure Reply where
  statusCode : Nat
  headers : List (String × String)
  body : Body

/-- `Response.is_redirect`: a redirect status with a `Location` header, which `requests`
follows. -/
def Reply.isRedirect (r : Reply) : Bool :=
  [301, 302, 303, 307, 308].contains r.statusCode &&
    r.headers.any fun h => h.1.data.map Char.toLower = "location".data

/-- A `requests.Response`: the reply and the request it answers; `r.url` is the request's. -/
structure Response where
  reply : Reply
  request : Request

namespace Response

/-- `r.ok`: `raise_for_status` raises for the codes from 400 to 599. -/
def ok (r : Response) : Bool := !(400 ≤ r.reply.statusCode && r.reply.statusCode < 600)

/-- `r.json()`. -/
def json (r : Response) : Except PyError JsonValue :=
  match r.reply.body.json with
  | .value v => .ok v
  | .invalid => .error (.valueError "Expecting value")
  | .tooDeep => .error .recursionError

theorem json_error_ofRequest {r : Response} {e : PyError} (h : r.json = .error e) :
    e.OfRequest := by
  unfold json at h
  split at h <;> cases h <;> trivial

/-- `r.headers.get(name)` on the case-insensitive header dict. -/
def header (r : Response) (name : String) : Option String :=
  (r.reply.headers.find? fun h => h.1.data.map Char.toLower = name.data.map Char.toLower).map
    (·.2)

end Response

/-- Log levels the client writes at. -/
inductive Level where
  | debug
  | error
  deriving DecidableEq, Repr

/-- `LOG.<level>(msg, *args)`: the format string and its arguments, as passed. -/
structure LogRecord where
  level : Level
  msg : String
  args : List String
  deriving DecidableEq, Repr

/-- The operations `AS3RestClient` instruments. -/
inductive Metric where
  | post
  | patch
  | delete
  deriving DecidableEq, Repr

/-- The prometheus metrics of the client: observations of each duration summary, and
increments of each exception counter. -/
structure Metrics where
  observations : Metric → Nat
  exceptions : Metric → Nat

/-- One more observation of the operation's duration summary. -/
def Metrics.observe (ms : Metrics) (m : Metric) : Metrics :=
  { ms with observations := Function.update ms.observations m (ms.observations m + 1) }

/-- One more increment of the operation's exception counter. -/
def Metrics.count (ms : Metrics) (m : Metric) : Metrics :=
  { ms with exceptions := Function.update ms.exceptions m (ms.exceptions m + 1) }

@[simp] theorem Metrics.observe_observations (ms : Metrics) (m m' : Metric) :
    (ms.observe m).observations m' = ms.observations m' + if m = m' then 1 else 0 := by
  by_cases h : m = m' <;> simp [Metrics.observe, Function.update, h, Ne.symm]

@[simp] theorem Metrics.observe_exceptions (ms : Metrics) (m : Metric) :
    (ms.observe m).exceptions = ms.exceptions := rfl

@[simp] theorem Metrics.count_observations (ms : Metrics) (m : Metric) :
    (ms.count m).observations = ms.observations := rfl

@[simp] theorem Metrics.count_exceptions (ms : Metrics) (m m' : Metric) :
    (ms.count m).exceptions m' = ms.exceptions m' + if m = m' then 1 else 0 := by
  by_cases h : m = m' <;> simp [Metrics.count, Function.update, h, Ne.symm]

/-- The world the client runs in.

`sent` holds the requests that have completed, in order, and `replies n` answers the `n`-th:
`none` is a connection that fails, on which `requests` raises `ConnectionError`. The appliance
does not redirect (`noRedirect`): `requests` would follow a redirect with requests of its own,
which the model leaves out. No request passes `timeout=`, so a request the appliance never
answers blocks the thread that sent it. The caller's own requests come back in the runs the
model covers. A poll of the task watcher's worker that is never answered is one that does not
complete: `deadline n` counts the polls the worker completes while `fut.result(timeout=
ASYNC_TIMEOUT)` waits, on a wait that starts when `n` requests have completed, and
`background n` those it completes while the caller is between calls, before a call that starts
there.

`waits` is the work queue of the task watcher: the task ids of the waits submitted to it and not
yet ended, in order. The worker runs the first. -/
structure World where
  replies : Nat → Option Reply
  noRedirect : ∀ n r, replies n = some r → r.isRedirect = false
  deadline : Nat → Nat
  background : Nat → Nat
  sent : List Request
  log : List LogRecord
  metrics : Metrics
  waits : List JsonValue

instance : Inhabited Metrics := ⟨⟨fun _ => 0, fun _ => 0⟩⟩

instance : Inhabited World :=
  ⟨⟨fun _ => none, (fun _ _ h => by cases h), fun _ => 0, fun _ => 0, [], [], default, []⟩⟩

/-- Python code over the world: exceptions keep the effects made before them. -/
abbrev PyM := ExceptT PyError (StateM World)

namespace PyM

variable {α β : Type}

/-- Run from a world: the outcome and the world after. -/
def exec (x : PyM α) (w : World) : Except PyError α × World := x.run.run w

@[simp] theorem exec_pure (a : α) (w : World) : (pure a : PyM α).exec w = (.ok a, w) := rfl

@[simp] theorem exec_throw (e : PyError) (w : World) :
    (throw e : PyM α).exec w = (.error e, w) := rfl

theorem exec_bind (x : PyM α) (f : α → PyM β) (w : World) :
    (x >>= f).exec w =
      match x.exec w with
      | (.ok a, w') => (f a).exec w'
      | (.error e, w') => (.error e, w') := by
  simp only [exec, ExceptT.run_bind, StateT.run_bind]
  rcases x.run.run w with ⟨_ | _, _⟩ <;> rfl

@[simp] theorem exec_bind_ok {x : PyM α} {w w' : World} {a : α} (h : x.exec w = (.ok a, w'))
    (f : α → PyM β) : (x >>= f).exec w = (f a).exec w' := by
  rw [exec_bind, h]

@[simp] theorem exec_bind_error {x : PyM α} {w w' : World} {e : PyError}
    (h : x.exec w = (.error e, w')) (f : α → PyM β) : (x >>= f).exec w = (.error e, w') := by
  rw [exec_bind, h]

theorem exec_bind_of_ok {x : PyM α} {w : World} {a : α} (h : (x.exec w).1 = .ok a)
    (f : α → PyM β) : (x >>= f).exec w = (f a).exec (x.exec w).2 := by
  rw [exec_bind]
  rcases hx : x.exec w with ⟨_ | _, _⟩ <;> simp_all

@[simp] theorem exec_map (f : α → β) (x : PyM α) (w : World) :
    (f <$> x).exec w = ((x.exec w).1.map f, (x.exec w).2) := by
  simp only [exec, ExceptT.run_map, StateT.run_map]
  rfl

/-- Lift an `Except` computed without effects. -/
def lift (x : Except PyError α) : PyM α := match x with
  | .ok a => pure a
  | .error e => throw e

@[simp] theorem exec_lift (x : Except PyError α) (w : World) : (lift x).exec w = (x, w) := by
  cases x <;> rfl

/-- Change the world. -/
def update (f : World → World) : PyM Unit := modify f

@[simp] theorem exec_update (f : World → World) (w : World) :
    (update f).exec w = (.ok (), f w) := rfl

/-- Read the world. -/
def read : PyM World := get

@[simp] theorem exec_read (w : World) : read.exec w = (.ok w, w) := rfl

/-- `try: x except e if handles(e): handler(e)`; other exceptions pass through. -/
def tryExcept (handles : PyError → Bool) (x : PyM α) (handler : PyError → PyM α) : PyM α :=
  ExceptT.mk do
    match ← x.run with
    | .ok a => pure (.ok a)
    | .error e => if handles e then (handler e).run else pure (.error e)

/-- Run `x` and keep its outcome as a value: what the task watcher's worker does with the
function it runs, whose exception goes to the future. -/
def attempt (x : PyM α) : PyM (Except PyError α) := ExceptT.mk do pure (.ok (← x.run))

@[simp] theorem exec_attempt (x : PyM α) (w : World) :
    (attempt x).exec w = (.ok (x.exec w).1, (x.exec w).2) := rfl

theorem exec_tryExcept (handles : PyError → Bool) (x : PyM α) (handler : PyError → PyM α)
    (w : World) : (tryExcept handles x handler).exec w =
      match x.exec w with
      | (.ok a, w') => (.ok a, w')
      | (.error e, w') => if handles e then (handler e).exec w' else (.error e, w') := by
  simp only [tryExcept, exec, ExceptT.run_mk, StateT.run_bind]
  rcases x.run.run w with ⟨e | _, _⟩
  · by_cases h : handles e <;> simp [h]
  · rfl

end PyM

/-- Append a log record. -/
def emit (r : LogRecord) : PyM Unit := PyM.update fun w => { w with log := w.log ++ [r] }

/-- `LOG.debug(msg, *args)`. -/
def logDebug (msg : String) (args : List String := []) : PyM Unit := emit ⟨.debug, msg, args⟩

/-- `LOG.error(msg, *args)`. -/
def logError (msg : String) (args : List String := []) : PyM Unit := emit ⟨.error, msg, args⟩

@[simp] theorem exec_emit (r : LogRecord) (w : World) :
    (emit r).exec w = (.ok (), { w with log := w.log ++ [r] }) := rfl

/-- `Session.send` with the session's response hooks: the request goes on the wire, the
appliance's reply to it comes back (`ConnectionError` when there is none), and every hook
sees the response in turn. -/
def sessionRequest (hooks : List (Response → PyM Unit)) (req : Request) : PyM Response := do
  let w ← PyM.read
  PyM.update fun w => { w with sent := w.sent ++ [req] }
  match w.replies w.sent.length with
  | none => throw .connectionError
  | some reply =>
    hooks.forM fun hook => hook ⟨reply, req⟩
    pure ⟨reply, req⟩

/-- The one spec of `sessionRequest` later proofs use. -/
theorem exec_sessionRequest (hooks : List (Response → PyM Unit)) (req : Request) (w : World) :
    (sessionRequest hooks req).exec w =
      match w.replies w.sent.length with
      | none => (.error .connectionError, { w with sent := w.sent ++ [req] })
      | some reply =>
        match (hooks.forM fun hook => hook ⟨reply, req⟩).exec
            { w with sent := w.sent ++ [req] } with
        | (.ok _, w') => (.ok ⟨reply, req⟩, w')
        | (.error e, w') => (.error e, w') := by
  simp only [sessionRequest, PyM.exec_bind_ok (PyM.exec_read w),
    PyM.exec_bind_ok (PyM.exec_update _ w)]
  cases w.replies w.sent.length with
  | none => rfl
  | some reply =>
    dsimp only
    rw [PyM.exec_bind]
    rcases (hooks.forM fun hook => hook ⟨reply, req⟩).exec { w with sent := w.sent ++ [req] }
      with ⟨_ | _, _⟩ <;> rfl

end OctaviaF5
