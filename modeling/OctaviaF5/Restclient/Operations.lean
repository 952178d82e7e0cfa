import OctaviaF5.Restclient.AsyncPost
import OctaviaF5.Restclient.Delete

/-! The calls a caller makes on a client, and what each does to the prometheus metrics
(as3restclient.py, lines 42-55 and the decorators of lines 107-129): a call of `post`, `patch`
or `delete` is observed once by a duration summary, and counted once by an exception counter
when it raises. The container client's `patch` and `delete` are posts, so they are observed and
counted as posts; the polls of the task watcher are not instrumented. Then what a call may
raise: never an error status, which comes back as the response, or as `None` from an
asynchronous `post`. Also `info()` (lines 136-139). -/
namespace OctaviaF5
namespace AS3RestClient

open LogResponse

/-- The calls a caller makes on a client. -/
inductive Op where
  | post (tenants : List String) (payload : Payload)
  | patch (tenants : List String) (patchBody : JsonValue)
  | delete (tenants : List String)

/-- One call. -/
def runOp (c : AS3RestClient) : Op → PyM (Option Response)
  | .post tenants payload => c.post tenants payload
  | .patch tenants patchBody => c.patch tenants patchBody
  | .delete tenants => c.delete tenants

/-- A caller that makes the calls in turn, and goes on after a call that raises. Between two
calls the task watcher's worker goes on polling. -/
def runOps (c : AS3RestClient) : List Op → PyM Unit
  | [] => pure ()
  | op :: ops => do
    let w ← PyM.read
    c.workerPolls (w.background w.sent.length)
    PyM.tryExcept (fun _ => true) (do let _ ← c.runOp op) fun _ => pure ()
    c.runOps ops

/-- The write request of a call that its guard lets through: the method, the URL before
`requests` adds `async=true` to it, and the JSON body (`null` for no body). -/
def Op.write (c : AS3RestClient) : Op → Option (String × String × JsonValue)
  | .post tenants payload => some ("POST", c.declareUrl tenants, c.postDict payload)
  | .patch tenants patchBody =>
    match c.cls with
    | .as3RestClient => some ("PATCH", c.getUrl as3DeclarePath, patchBody)
    | .externalContainer _ =>
      some ("POST", c.declareUrl tenants,
        c.postDict (.as3 (AS3.make [("action", .str "patch"), ("patchBody", patchBody)])))
  | .delete [] => none
  | .delete tenants =>
    match c.cls with
    | .as3RestClient => some ("DELETE", c.declareUrl tenants, .null)
    | .externalContainer _ =>
      some ("POST", c.declareUrl tenants, c.postDict (.as3 (AS3.make [("action", .str "remove")])))

/-! ### Computations that leave the metrics alone -/

/-- `x` changes no metric, from any world. -/
def KeepsMetrics {α : Type} (x : PyM α) : Prop := ∀ w, (x.exec w).2.metrics = w.metrics

namespace KeepsMetrics

variable {α β : Type}

theorem pure (a : α) : KeepsMetrics (Pure.pure a : PyM α) := fun _ => rfl

theorem throw (e : PyError) : KeepsMetrics (MonadExcept.throw e : PyM α) := fun _ => rfl

theorem lift (x : Except PyError α) : KeepsMetrics (PyM.lift x) := fun w => by simp

theorem read : KeepsMetrics PyM.read := fun _ => rfl

theorem bind {x : PyM α} {f : α → PyM β} (hx : KeepsMetrics x) (hf : ∀ a, KeepsMetrics (f a)) :
    KeepsMetrics (x >>= f) := by
  intro w
  rw [PyM.exec_bind, ← hx w]
  rcases x.exec w with ⟨_ | a, w'⟩
  · rfl
  · exact hf a w'

theorem map {x : PyM α} (hx : KeepsMetrics x) (f : α → β) : KeepsMetrics (f <$> x) :=
  fun w => by rw [PyM.exec_map, hx w]

end KeepsMetrics

theorem send_keepsMetrics (c : AS3RestClient) (method url : String) (body : Option Body) :
    KeepsMetrics (c.send method url body) := fun w => by
  obtain ⟨o, L, h, -⟩ := c.send_spec method url body w
  rw [h]

/-- The worker's polls are not instrumented: `wait_for_task_finished` calls
`BigIPRestClient.get`. -/
theorem KeepsMetrics.of_workerEffect {α : Type} {c : AS3RestClient} {x : PyM α}
    (hx : ∀ w, WorkerEffect c w (x.exec w).2) : KeepsMetrics x := fun w => by
  obtain ⟨_, _, _, _, h⟩ := hx w
  rw [h]

theorem submit_keepsMetrics (taskId : JsonValue) : KeepsMetrics (submit taskId) := fun _ => rfl

theorem postBody_keepsMetrics (c : AS3RestClient) (tenants : List String) (dict : JsonValue) :
    KeepsMetrics (c.postBody tenants dict) := by
  unfold postBody
  cases c.taskWatcher
  · exact (send_keepsMetrics _ _ _ _).map _
  refine KeepsMetrics.bind (KeepsMetrics.lift _) fun url =>
    KeepsMetrics.bind (send_keepsMetrics _ _ _ _) fun r => ?_
  split
  · exact KeepsMetrics.bind (KeepsMetrics.lift _) fun taskId =>
      KeepsMetrics.bind (submit_keepsMetrics taskId) fun ahead =>
        KeepsMetrics.bind KeepsMetrics.read fun w =>
          (KeepsMetrics.of_workerEffect (awaitWait_effect c ahead _)).map _
  · exact KeepsMetrics.pure _

/-- Around a body that changes no metric, the decorators observe the call, and count it when it
raises. -/
theorem instrumented_metrics {α : Type} (m : Metric) {x : PyM α} (hx : KeepsMetrics x)
    (w : World) :
    ((instrumented m x).exec w).2.metrics =
      if ((instrumented m x).exec w).1.isOk then w.metrics.observe m
      else (w.metrics.observe m).count m := by
  rw [exec_instrumented, ← hx w]
  rcases x.exec w with ⟨_ | _, _⟩ <;> rfl

/-! ### What a call does to the metrics -/

/-- The metric whose summary observes a call: the base client's operations have their own, the
container client's `patch` and `delete` are posts, and its `delete([])` raises before its
`post`. -/
def Op.metric : ClientClass → Op → Option Metric
  | .as3RestClient, .post .. => some .post
  | .as3RestClient, .patch .. => some .patch
  | .as3RestClient, .delete .. => some .delete
  | .externalContainer _, .delete [] => none
  | .externalContainer _, _ => some .post

/-- Every call is a body that leaves the metrics alone inside the decorators of its metric; a
call without a metric leaves the metrics alone. -/
theorem runOp_decorated (c : AS3RestClient) (op : Op) :
    match op.metric c.cls with
    | none => KeepsMetrics (c.runOp op)
    | some m => ∃ x, KeepsMetrics x ∧ c.runOp op = instrumented m x := by
  have hpost : ∀ tenants payload,
      ∃ x, KeepsMetrics x ∧ c.post tenants payload = instrumented .post x :=
    fun tenants payload => ⟨_, postBody_keepsMetrics _ _ _, post_eq c tenants payload⟩
  obtain ⟨cls, bigip, auth, taskWatcher, debugHooks⟩ := c
  cases op with
  | post tenants payload => cases cls <;> exact hpost tenants payload
  | patch tenants patchBody =>
    cases cls
    · exact ⟨_, (send_keepsMetrics _ _ _ _).map _, rfl⟩
    · exact hpost tenants _
  | delete tenants =>
    cases cls <;> cases tenants
    · exact ⟨_, KeepsMetrics.throw _, rfl⟩
    · exact ⟨_, (send_keepsMetrics _ _ _ _).map _, rfl⟩
    · exact KeepsMetrics.throw _
    · exact hpost _ _

/-- Every call is observed once under its metric, and counted once when it raises; a call that
raises before any decorated method changes no metric. -/
theorem runOp_metrics (c : AS3RestClient) (op : Op) (w : World) :
    ((c.runOp op).exec w).2.metrics =
      match op.metric c.cls with
      | none => w.metrics
      | some m =>
        if ((c.runOp op).exec w).1.isOk then w.metrics.observe m
        else (w.metrics.observe m).count m := by
  have h := runOp_decorated c op
  revert h
  rcases op.metric c.cls with _ | m
  · exact fun h => h w
  · rintro ⟨x, hx, heq⟩
    rw [heq]
    exact instrumented_metrics m hx w

/-! ### What a call raises -/

/-- Only `delete([])` has no write: its guard refuses it. -/
theorem Op.eq_delete_nil_of_write {c : AS3RestClient} {op : Op} (h : op.write c = none) :
    op = .delete [] := by
  cases op with
  | post => cases h
  | patch => cases hc : c.cls <;> simp [Op.write, hc] at h
  | delete tenants => cases tenants <;> [rfl; (cases hc : c.cls <;> simp [Op.write, hc] at h)]

/-- A call that its guard lets through runs its write: `post` when that is a POST, and one
instrumented request otherwise. -/
theorem runOp_of_write {c : AS3RestClient} {op : Op} {method url : String} {body : JsonValue}
    (h : op.write c = some (method, url, body)) :
    (method = "POST" ∧ ∃ tenants payload, url = c.declareUrl tenants ∧ body = c.postDict payload ∧
      c.runOp op = c.post tenants payload) ∨
    (method ≠ "POST" ∧
      ∃ m, c.runOp op = instrumented m (some <$> c.send method url (Body.ofJson? body))) := by
  cases op with
  | post tenants payload =>
    cases h
    exact .inl ⟨rfl, tenants, payload, rfl, rfl, rfl⟩
  | patch tenants patchBody =>
    cases hc : c.cls <;> simp only [Op.write, hc, Option.some.injEq, Prod.mk.injEq] at h <;>
      obtain ⟨rfl, rfl, rfl⟩ := h
    · exact .inr ⟨by decide, .patch, by simp [runOp, patch, hc]⟩
    · exact .inl ⟨rfl, tenants, _, rfl, rfl, by simp [runOp, patch, hc]⟩
  | delete tenants =>
    rcases tenants with _ | ⟨t, ts⟩
    · cases hc : c.cls <;> simp [Op.write, hc] at h
    cases hc : c.cls <;> simp only [Op.write, hc, Option.some.injEq, Prod.mk.injEq] at h <;>
      obtain ⟨rfl, rfl, rfl⟩ := h
    · exact .inr ⟨by decide, .delete, by simp [runOp, delete, hc]; rfl⟩
    · exact .inl ⟨rfl, t :: ts, _, rfl, rfl, by simp [runOp, delete, hc]⟩

/-- What `info()` does with the reply its GET returns: `raise_for_status()`, `info.json()`, and
`dict(device=self.hostname, **info.json())`. -/
theorem info_of_get (c : AS3RestClient) {w : World} {r : Response}
    (hrep : w.replies w.sent.length = some r.reply)
    (hreq : r.request = c.request "GET" (c.getUrl as3InfoPath) none)
    (hh : c.debugHooks = 0 ∨ Harmless r) :
    (c.info.exec w).1 =
      if r.ok then
        match r.json with
        | .ok (.obj fields) =>
          if fields.any (·.1 == "device") then
            .error (.typeError "dict() got multiple values for keyword argument 'device'")
          else .ok (.obj (("device", c.hostname.elim .null .str) :: fields))
        | .ok v => .error (.typeError ("dict() argument after ** must be a mapping, not " ++
            v.typeName))
        | .error e => .error e
      else .error (.httpError r.reply.statusCode) := by
  obtain ⟨o, L, h, hok⟩ := c.send_spec "GET" (c.getUrl as3InfoPath) none w
  obtain rfl : o = .ok r := (hok r).mpr ⟨hrep, hreq, hh⟩
  rw [info, get, PyM.exec_bind, h]
  dsimp only
  split_ifs
  · rw [PyM.exec_bind, PyM.exec_lift]
    rcases r.json with e | (_ | _ | _ | _ | _ | fields) <;> try rfl
    dsimp only
    split_ifs <;> rfl
  · rfl

/-- `info()` returns the device's host followed by the fields of the info reply, exactly when
the GET of `AS3_INFO_PATH` returns an ok reply whose JSON is a dict without a `device` key.
Otherwise it raises: `HTTPError` on a reply that is not ok, what decoding raises on a body that
is not JSON, and `TypeError` on JSON that is not a dict or already has `device`. -/
theorem info_ok_iff (c : AS3RestClient) (w : World) :
    (∀ v, (c.info.exec w).1 = .ok v ↔
      ∃ r fields, w.replies w.sent.length = some r.reply ∧
        r.request = c.request "GET" (c.getUrl as3InfoPath) none ∧ (c.debugHooks = 0 ∨ Harmless r) ∧
        r.ok ∧ r.json = .ok (.obj fields) ∧ fields.any (·.1 == "device") = false ∧
        v = .obj (("device", c.hostname.elim .null .str) :: fields)) ∧
    ∀ r, w.replies w.sent.length = some r.reply →
      r.request = c.request "GET" (c.getUrl as3InfoPath) none → (c.debugHooks = 0 ∨ Harmless r) →
      (r.ok = false → (c.info.exec w).1 = .error (.httpError r.reply.statusCode)) ∧
      (r.ok = true → ∀ e, r.json = .error e → (c.info.exec w).1 = .error e) ∧
      (r.ok = true → ∀ fields, r.json = .ok (.obj fields) → fields.any (·.1 == "device") = true →
        (c.info.exec w).1 =
          .error (.typeError "dict() got multiple values for keyword argument 'device'")) ∧
      (r.ok = true → ∀ v, r.json = .ok v → (∀ fields, v ≠ .obj fields) →
        (c.info.exec w).1 =
          .error (.typeError ("dict() argument after ** must be a mapping, not " ++ v.typeName))) := by
  refine ⟨fun v => ?_, fun r hrep hreq hh => ?_⟩
  · constructor
    · intro hv
      obtain ⟨o, L, h, hok⟩ := c.send_spec "GET" (c.getUrl as3InfoPath) none w
      rcases o with e | r
      · rw [info, get, PyM.exec_bind, h] at hv
        cases hv
      obtain ⟨hrep, hreq, hh⟩ := (hok r).mp rfl
      rw [info_of_get c hrep hreq hh] at hv
      split_ifs at hv with hr
      rcases hj : r.json with e | (_ | _ | _ | _ | _ | fields) <;> rw [hj] at hv <;> try cases hv
      dsimp only at hv
      split_ifs at hv with hd
      exact ⟨r, fields, hrep, hreq, hh, hr, hj, Bool.eq_false_iff.mpr hd, (Except.ok.inj hv).symm⟩
    · rintro ⟨r, fields, hrep, hreq, hh, hr, hj, hd, rfl⟩
      rw [info_of_get c hrep hreq hh]
      simp [hr, hj, hd]
  · rw [info_of_get c hrep hreq hh]
    refine ⟨fun hr => by simp [hr], fun hr e hj => by simp [hr, hj],
      fun hr fields hj hd => by simp [hr, hj, hd], fun hr v hj hv => ?_⟩
    rcases v with _ | _ | _ | _ | _ | fields
    all_goals simp only [hr, hj, if_true]
    exact absurd rfl (hv fields)

end AS3RestClient
end OctaviaF5
