import OctaviaF5.Restclient.Operations

/-! Whole runs of a caller that makes `post`, `patch` and `delete` calls in turn and goes on after
a call that raises (as3restclient.py, lines 96-185). Such a run is one call after another, each
from the world the previous one left after the task watcher's polls in between. Its wire trace
splits into one segment per call: those polls, the one write request of the call, which no later
poll or error repeats, then only GETs of task paths when the write is an asynchronous POST. Its
metrics count every call under the summary of its metric, and exactly the calls that raised
under the counter. -/
namespace OctaviaF5
namespace AS3RestClient

/-! ### A run is a fold of calls -/

/-- The world a call starts from: the world the last call left, after the worker's polls
between the two calls. -/
def callStart (c : AS3RestClient) (w : World) : World :=
  ((c.workerPolls (w.background w.sent.length)).exec w).2

theorem callStart_effect (c : AS3RestClient) (w : World) : WorkerEffect c w (c.callStart w) := by
  obtain ⟨w', h, heff⟩ := workerPolls_spec c (w.background w.sent.length) w
  rw [callStart, h]
  exact heff

theorem callStart_metrics (c : AS3RestClient) (w : World) :
    (c.callStart w).metrics = w.metrics := by
  obtain ⟨_, _, _, _, h⟩ := callStart_effect c w
  rw [h]

/-- The caller swallows every exception, so the next call starts from the world the last left,
after the worker's polls. -/
theorem exec_runOps_cons (c : AS3RestClient) (op : Op) (ops : List Op) (w : World) :
    (c.runOps (op :: ops)).exec w = (c.runOps ops).exec ((c.runOp op).exec (c.callStart w)).2 := by
  obtain ⟨w', h, -⟩ := workerPolls_spec c (w.background w.sent.length) w
  rw [runOps, PyM.exec_bind_ok (PyM.exec_read w), PyM.exec_bind_ok h, PyM.exec_bind,
    PyM.exec_tryExcept, PyM.exec_bind, callStart, h]
  rcases (c.runOp op).exec w' with ⟨_ | _, _⟩ <;> rfl

/-- What each call of a run returns, each from the world the calls and polls before it left. -/
def runResults (c : AS3RestClient) : World → List Op → List (Except PyError (Option Response))
  | _, [] => []
  | w, op :: ops =>
    ((c.runOp op).exec (c.callStart w)).1 :: runResults c ((c.runOp op).exec (c.callStart w)).2 ops

/-! ### The wire trace of a run -/

/-- What one call puts on the wire, whatever the replies: nothing when its guard refuses it;
otherwise its write, sent once, and after it only GETs of task paths, which only a POST in
asynchronous mode sends, with `async=true` added to its URL. -/
def WriteTraffic (c : AS3RestClient) (op : Op) (part : List Request) : Prop :=
  match op.write c with
  | none => part = []
  | some (method, url, body) => ∃ url' polls,
    part = c.request method url' (Body.ofJson? body) :: polls ∧ TaskPolls c polls ∧
      if c.taskWatcher ∧ method = "POST" then Parse.withQuery url "async=true" = .ok url'
      else url' = url ∧ polls = []

/-- A call's segment of the wire trace: the worker's polls since the last call, then what the
call itself sends. -/
def CallTraffic (c : AS3RestClient) (op : Op) (part : List Request) : Prop :=
  ∃ background rest, part = background ++ rest ∧ TaskPolls c background ∧ WriteTraffic c op rest

theorem post_traffic (c : AS3RestClient) (tenants : List String) (payload : Payload) (w : World) :
    ∃ url' polls, ((c.post tenants payload).exec w).2.sent =
        w.sent ++ c.request "POST" url' (Body.ofJson? (c.postDict payload)) :: polls ∧
      TaskPolls c polls ∧
      if c.taskWatcher ∧ "POST" = "POST" then
        Parse.withQuery (c.declareUrl tenants) "async=true" = .ok url'
      else url' = c.declareUrl tenants ∧ polls = [] := by
  obtain ⟨url', polls, hsent, hpolls, -, hurl⟩ := c.postBody_sent tenants (c.postDict payload) w
  refine ⟨url', polls, by rw [post_eq, exec_instrumented_sent, hsent], hpolls, ?_⟩
  simpa only [and_true] using hurl

/-- A synchronous request of the session is its call's whole traffic. -/
theorem send_traffic (c : AS3RestClient) (method url : String) (body : Option Body) (w : World) :
    ((c.send method url body).exec w).2.sent = w.sent ++ [c.request method url body] := by
  obtain ⟨o, L, h, -⟩ := c.send_spec method url body w
  rw [h]

theorem runOp_traffic (c : AS3RestClient) (op : Op) (w : World) :
    ∃ part, ((c.runOp op).exec w).2.sent = w.sent ++ part ∧ WriteTraffic c op part := by
  unfold WriteTraffic
  cases hw : op.write c with
  | none =>
    obtain rfl := Op.eq_delete_nil_of_write hw
    exact ⟨[], by rw [runOp, exec_delete_nil]; cases c.cls <;> simp, rfl⟩
  | some write =>
    obtain ⟨method, url, body⟩ := write
    rcases runOp_of_write hw with ⟨rfl, tenants, payload, rfl, rfl, hrun⟩ | ⟨hm, m, hrun⟩
    · obtain ⟨url', polls, hsent, hpolls, hurl⟩ := post_traffic c tenants payload w
      exact ⟨_, by rw [hrun, hsent], url', polls, rfl, hpolls, hurl⟩
    · exact ⟨_, by rw [hrun, exec_instrumented_sent, PyM.exec_map, send_traffic], url, [], rfl,
        TaskPolls.nil, by simp [hm]⟩

/-- The wire trace of a run splits into one segment per call, in the order of the calls: the
worker's polls since the last call, then the call's write once, then only polls. No write is
repeated or lost, whether the calls return or raise. -/
theorem runOps_trace (c : AS3RestClient) (ops : List Op) (w : World) :
    ∃ parts, ((c.runOps ops).exec w).2.sent = w.sent ++ parts.flatten ∧
      List.Forall₂ (CallTraffic c) ops parts := by
  induction ops generalizing w with
  | nil => exact ⟨[], by simp [runOps], .nil⟩
  | cons op ops ih =>
    obtain ⟨background, L, d, hbackground, hstart⟩ := callStart_effect c w
    obtain ⟨part, hpart, hcall⟩ := runOp_traffic c op (c.callStart w)
    obtain ⟨parts, hparts, hall⟩ := ih ((c.runOp op).exec (c.callStart w)).2
    refine ⟨(background ++ part) :: parts, ?_, .cons ⟨background, part, rfl, hbackground, hcall⟩ hall⟩
    rw [exec_runOps_cons, hparts, hpart, hstart]
    simp

/-! ### The metrics of a run -/

/-- One call adds one observation to the summary of its metric, and one increment to its
counter when it raises. -/
theorem runOp_counts (c : AS3RestClient) (op : Op) (w : World) (m : Metric) :
    ((c.runOp op).exec w).2.metrics.observations m =
        w.metrics.observations m + (if op.metric c.cls = some m then 1 else 0) ∧
      ((c.runOp op).exec w).2.metrics.exceptions m = w.metrics.exceptions m +
        if op.metric c.cls = some m ∧ ((c.runOp op).exec w).1.isOk = false then 1 else 0 := by
  have h := runOp_decorated c op
  revert h
  rcases op.metric c.cls with _ | m'
  · intro h
    simp [h w]
  · rintro ⟨x, hx, heq⟩
    have hm := hx w
    revert hm
    rw [heq, exec_instrumented]
    rcases x.exec w with ⟨e | a, w'⟩ <;> intro hm <;> dsimp only at hm <;>
      simp [hm, Except.isOk, Except.toBool]

/-- Over a whole run, each summary counts the calls of its metric, whatever the replies, and
each counter the calls of its metric that raised. -/
theorem runOps_metrics_counts (c : AS3RestClient) (ops : List Op) (w : World) (m : Metric) :
    ((c.runOps ops).exec w).2.metrics.observations m =
        w.metrics.observations m + ops.countP (fun op => op.metric c.cls = some m) ∧
      ((c.runOps ops).exec w).2.metrics.exceptions m = w.metrics.exceptions m +
        (ops.zip (runResults c w ops)).countP fun p =>
          p.1.metric c.cls = some m ∧ p.2.isOk = false := by
  induction ops generalizing w with
  | nil => simp [runOps, runResults]
  | cons op ops ih =>
    obtain ⟨h₁, h₂⟩ := runOp_counts c op (c.callStart w) m
    obtain ⟨ih₁, ih₂⟩ := ih ((c.runOp op).exec (c.callStart w)).2
    rw [exec_runOps_cons, ih₁, ih₂, h₁, h₂, callStart_metrics]
    simp only [runResults, List.zip_cons_cons, List.countP_cons, decide_eq_true_eq]
    constructor <;> omega

end AS3RestClient
end OctaviaF5
