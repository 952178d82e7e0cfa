import OctaviaF5.Restclient.Submission

/-! What an asynchronous `post` returns (as3restclient.py, lines 114-119). An ok submission names
a task, whose wait joins the task watcher's queue; the call returns the first finished response
among the polls of that task, which begin once the waits queued before it have ended. A
submission that is not ok falls off the end of the function, so the call returns `None`. A call
that times out leaves its wait running, and the next `post` waits behind it. The container
client's `patch` and `delete` are such posts. -/
namespace OctaviaF5
namespace AS3RestClient

open LogResponse

/-- The submission of `post`: the appliance answered the POST of `dict` to the declaration URL
with `async=true` with `sub.reply`, and the hooks let it through. -/
def Submits (c : AS3RestClient) (tenants : List String) (dict : JsonValue) (w : World)
    (sub : Response) : Prop :=
  (∃ url, Parse.withQuery (c.declareUrl tenants) "async=true" = .ok url ∧
    sub.request = c.request "POST" url (Body.ofJson? dict)) ∧
  w.replies w.sent.length = some sub.reply ∧ (c.debugHooks = 0 ∨ Harmless sub)

/-- A normal return `v` of an asynchronous `post` of `dict` from `w`, with `sent` on the wire
after it: `None` after a submission that is not ok; after an ok one, the first finished response
of the task `sub.json()['id']`. Its polls follow the polls of the waits queued before it. -/
def AsyncPostResult (c : AS3RestClient) (tenants : List String) (dict : JsonValue) (w : World)
    (v : Option Response) (sent : List Request) : Prop :=
  ∃ sub, Submits c tenants dict w sub ∧
    (sub.ok = false → v = none ∧ sent = w.sent ++ [sub.request]) ∧
    (sub.ok = true → ∃ taskId stale k task,
      (do (← sub.json).getItem "id" : Except PyError JsonValue) = .ok taskId ∧ v = some task ∧
      (∀ q ∈ stale, ∃ t ∈ w.waits, q = c.taskRequest t) ∧
      FirstFinished c taskId { w with sent := w.sent ++ sub.request :: stale } k task ∧
      sent = w.sent ++ sub.request :: (stale ++ List.replicate (k + 1) (c.taskRequest taskId)))

theorem postBody_async_result {c : AS3RestClient} (hw : c.taskWatcher = true)
    (tenants : List String) (dict : JsonValue) {w w' : World} {v : Option Response}
    (h : (c.postBody tenants dict).exec w = (.ok v, w')) :
    AsyncPostResult c tenants dict w v w'.sent := by
  obtain ⟨url, hurl⟩ := asyncUrl_ok c tenants
  obtain ⟨o, L, hsend, hok⟩ := c.send_spec "POST" url (Body.ofJson? dict) w
  rw [exec_postBody_async hw hurl, hsend] at h
  rcases o with e | sub
  · cases h
  obtain ⟨hrep, hreq, hhooks⟩ := (hok sub).mp rfl
  refine ⟨sub, ⟨⟨url, hurl, hreq⟩, hrep, hhooks⟩, fun hnok => ?_, fun hsub => ?_⟩
  · simp only [hnok, Bool.false_eq_true, if_false, Prod.mk.injEq, Except.ok.injEq] at h
    obtain ⟨rfl, rfl⟩ := h
    exact ⟨rfl, by rw [hreq]⟩
  simp only [hsub, if_true] at h
  rcases hid : (do (← sub.json).getItem "id" : Except PyError JsonValue) with e | taskId
  · rw [hid] at h
    cases h
  rw [hid] at h
  dsimp only at h
  rcases hx : (c.awaitWait _ _).exec _ with ⟨e | task, w₂⟩ <;> rw [hx] at h <;> cases h
  obtain ⟨stale, k, hstale, hfirst, hsent, -⟩ :=
    awaitWait_returns c taskId [] _ w.waits _ w' task rfl hx
  refine ⟨taskId, stale, k, task, rfl, rfl, hstale,
    (firstFinished_congr (by rfl) (by simp [hreq]) k task).mp hfirst, ?_⟩
  rw [hsent, hreq]
  simp

/-- Every normal return of an asynchronous `post`, of either class, is `None` after a failed
submission, and otherwise the first finished response of the task the submission names, polled
after the waits queued before it. -/
theorem post_async_first_finished (c : AS3RestClient) (hw : c.taskWatcher = true)
    (tenants : List String) (payload : Payload) (w : World) (v : Option Response)
    (h : ((c.post tenants payload).exec w).1 = .ok v) :
    AsyncPostResult c tenants (c.postDict payload) w v
      ((c.post tenants payload).exec w).2.sent := by
  rw [post_eq, exec_instrumented_sent]
  rw [post_eq, exec_instrumented] at h
  rcases hb : (c.postBody tenants (c.postDict payload)).exec w with ⟨e | v', w'⟩ <;> rw [hb] at h
  · cases h
  cases h
  exact postBody_async_result hw tenants _ hb

/-- The appliance accepts the submission as task `t1`, reports it still running at the first
poll and finished from the second on; the worker completes three polls during a wait. -/
def pendingThenFinishedWorld : World :=
  ⟨fun n => if n = 0 then some (jsonReply (.obj [("id", .str "t1")]))
      else if n = 1 then some (jsonReply (.obj [("results", .arr [.obj [("code", .num 0)]])]))
      else some (jsonReply (.obj [("results", .arr [.obj [("code", .num 1)]])])),
    (fun n _ h => by dsimp only at h; split_ifs at h <;> cases h <;> rfl), fun _ => 3, fun _ => 0,
    [], [], default, []⟩

theorem post_async_first_finished_pending :
    AsyncPostResult (init device .none true) ["t"] (Payload.other (.obj [])).toDict
      pendingThenFinishedWorld
      (some ⟨jsonReply (.obj [("results", .arr [.obj [("code", .num 1)]])]),
        (init device .none true).taskRequest (.str "t1")⟩)
      (((init device .none true).post ["t"] (.other (.obj []))).exec
        pendingThenFinishedWorld).2.sent :=
  post_async_first_finished (init device .none true) rfl ["t"] (.other (.obj []))
    pendingThenFinishedWorld _ rfl

/-- With no wait queued, an ok submission of task `taskId` whose first finished response comes
within the polls the deadline allows: `post` returns that response, and its wait has ended. -/
theorem post_async_returns_first_finished (c : AS3RestClient) (hw : c.taskWatcher = true)
    (tenants : List String) (payload : Payload) (w : World) (hidle : w.waits = []) (sub : Response)
    (hsub : Submits c tenants (c.postDict payload) w sub) (hok : sub.ok = true) {taskId : JsonValue}
    (hid : (do (← sub.json).getItem "id" : Except PyError JsonValue) = .ok taskId) {k : Nat}
    {task : Response}
    (hfirst : FirstFinished c taskId { w with sent := w.sent ++ [sub.request] } k task)
    (hk : k < w.deadline (w.sent.length + 1)) :
    ((c.post tenants payload).exec w).1 = .ok (some task) ∧
      ((c.post tenants payload).exec w).2.waits = [] := by
  obtain ⟨⟨url, hurl, hreq⟩, hrep, hhooks⟩ := hsub
  obtain ⟨o, L, hsend, hsendok⟩ := c.send_spec "POST" url (Body.ofJson? (c.postDict payload)) w
  obtain rfl := (hsendok sub).mpr ⟨hrep, hreq, hhooks⟩
  rw [hreq] at hfirst
  obtain ⟨w', hw', -⟩ := waitForTaskFinished_of_firstFinished c taskId k
    { w with
        sent := w.sent ++ [c.request "POST" url (Body.ofJson? (c.postDict payload))],
        log := w.log ++ L, waits := [taskId] } task
    ((firstFinished_congr (by rfl) (by rfl) k task).mp hfirst) _ (by simpa using hk)
  rw [post_eq, exec_instrumented_fst, exec_instrumented_waits,
    exec_postBody_async_idle hw hurl _ hidle, hsend]
  simp only [hok, if_true, hid, List.length_append, List.length_singleton]
  rw [hw']
  exact ⟨rfl, rfl⟩

theorem post_async_returns_first_finished_pending :
    pendingThenFinishedWorld.waits = [] ∧
      (((init device .none true).post ["t"] (.other (.obj []))).exec pendingThenFinishedWorld).1 =
        .ok (some ⟨jsonReply (.obj [("results", .arr [.obj [("code", .num 1)]])]),
          (init device .none true).taskRequest (.str "t1")⟩) ∧
      (((init device .none true).post ["t"] (.other (.obj []))).exec
        pendingThenFinishedWorld).2.waits = [] :=
  ⟨rfl, post_async_returns_first_finished (init device .none true) rfl ["t"] (.other (.obj []))
    pendingThenFinishedWorld rfl ⟨jsonReply (.obj [("id", .str "t1")]), _⟩
    ⟨⟨_, rfl, rfl⟩, rfl, .inl rfl⟩ rfl rfl (k := 1)
    ⟨fun j hj => ⟨⟨jsonReply (.obj [("results", .arr [.obj [("code", .num 0)]])]), _⟩,
      ⟨by simp [pendingThenFinishedWorld, show j = 0 by omega], rfl, .inl rfl⟩, rfl⟩,
      ⟨rfl, rfl, .inl rfl⟩, rfl⟩ (by decide)⟩

/-- The queue after an asynchronous submission: the waits before, then the new one; its head is
the first wait queued before, or the new one. -/
theorem append_eq_headD_cons (waits : List JsonValue) (taskId : JsonValue) :
    waits ++ [taskId] = waits.headD taskId :: (waits ++ [taskId]).tail := by
  cases waits <;> rfl

/-- An ok submission of task `taskId`, while every poll within the deadline finds the task of
the first wait in the queue unfinished: `post` raises `TimeoutError`. It has sent the submission
once and then one GET of that task's path per poll the deadline allows, and its wait stays
queued. With no wait queued before, that task is its own; otherwise it is the task of a wait
an earlier call gave up on. -/
theorem post_async_times_out (c : AS3RestClient) (hw : c.taskWatcher = true)
    (tenants : List String) (payload : Payload) (w : World) (sub : Response)
    (hsub : Submits c tenants (c.postDict payload) w sub) (hok : sub.ok = true) {taskId : JsonValue}
    (hid : (do (← sub.json).getItem "id" : Except PyError JsonValue) = .ok taskId)
    (hpolls : ∀ j < w.deadline (w.sent.length + 1), ∃ rj,
      GetReturns c (w.waits.headD taskId) { w with sent := w.sent ++ [sub.request] } j rj ∧
        taskFinished rj = .ok false) :
    ((c.post tenants payload).exec w).1 = .error .timeoutError ∧
      ((c.post tenants payload).exec w).2.sent = w.sent ++ sub.request ::
        List.replicate (w.deadline (w.sent.length + 1)) (c.taskRequest (w.waits.headD taskId)) ∧
      ((c.post tenants payload).exec w).2.waits = w.waits ++ [taskId] := by
  obtain ⟨⟨url, hurl, hreq⟩, hrep, hhooks⟩ := hsub
  obtain ⟨o, L, hsend, hsendok⟩ := c.send_spec "POST" url (Body.ofJson? (c.postDict payload)) w
  obtain rfl := (hsendok sub).mpr ⟨hrep, hreq, hhooks⟩
  rw [hreq] at hpolls ⊢
  obtain ⟨w', hw', hsent', hwaits'⟩ := awaitWait_of_head_unfinished c (w.waits.headD taskId)
    (w.waits ++ [taskId]).tail _ w.waits.length
    { w with
        sent := w.sent ++ [c.request "POST" url (Body.ofJson? (c.postDict payload))],
        log := w.log ++ L, waits := w.waits ++ [taskId] } (append_eq_headD_cons _ _)
    fun j hj => by simpa only [getReturns_congr (by rfl) (by rfl) j] using hpolls j (by simpa using hj)
  rw [post_eq, exec_instrumented_fst, exec_instrumented_sent, exec_instrumented_waits,
    exec_postBody_async hw hurl, hsend]
  simp only [hok, if_true, hid, List.length_append, List.length_singleton]
  rw [hw']
  exact ⟨rfl, by simp [hsent'], hwaits'⟩

/-- The appliance accepts the submission as task `t1` and reports every task still running;
the worker completes two polls during a wait. -/
def pendingTaskWorld : World :=
  ⟨fun n => if n = 0 then some (jsonReply (.obj [("id", .str "t1")]))
      else some (jsonReply (.obj [("results", .arr [.obj [("code", .num 0)]])])),
    (fun n _ h => by dsimp only at h; split_ifs at h <;> cases h <;> rfl), fun _ => 2, fun _ => 0,
    [], [], default, []⟩

/-- As `pendingTaskWorld`, with the wait of task `t0` still queued from a call that timed out. -/
def staleWaitWorld : World := { pendingTaskWorld with waits := [.str "t0"] }

/-- Behind a wait that timed out, `post` polls only the old task `t0` and times out in turn;
both waits stay queued. -/
theorem post_async_times_out_behind_stale_wait :
    (((init device .none true).post ["t"] (.other (.obj []))).exec staleWaitWorld).1 =
        .error .timeoutError ∧
      (((init device .none true).post ["t"] (.other (.obj []))).exec staleWaitWorld).2.sent =
        staleWaitWorld.sent ++
          ⟨"POST", "https://10.0.0.1/mgmt/shared/appsvcs/declare/t?async=true",
            some (Body.ofJson (.obj [])), .none⟩ ::
          List.replicate (staleWaitWorld.deadline (staleWaitWorld.sent.length + 1))
            ((init device .none true).taskRequest (staleWaitWorld.waits.headD (.str "t1"))) ∧
      (((init device .none true).post ["t"] (.other (.obj []))).exec staleWaitWorld).2.waits =
        staleWaitWorld.waits ++ [.str "t1"] :=
  post_async_times_out (init device .none true) rfl ["t"] (.other (.obj [])) staleWaitWorld
    ⟨jsonReply (.obj [("id", .str "t1")]), _⟩ ⟨⟨_, rfl, rfl⟩, rfl, .inl rfl⟩ rfl rfl
    fun j hj => ⟨⟨jsonReply (.obj [("results", .arr [.obj [("code", .num 0)]])]), _⟩,
      ⟨by simp [staleWaitWorld, pendingTaskWorld], rfl, .inl rfl⟩, rfl⟩

/-- `post` raises `TimeoutError` only in asynchronous mode, after an ok submission of a task
whose wait has not ended: it stays queued, behind what is left of the waits queued before it.
With no wait queued before, every poll within the deadline found the task unfinished. No
failure of the network, of a hook or of a body raises it. -/
theorem post_timeout_only_if_unfinished (c : AS3RestClient) (tenants : List String)
    (payload : Payload) (w : World)
    (h : ((c.post tenants payload).exec w).1 = .error .timeoutError) :
    c.taskWatcher = true ∧ ∃ sub taskId, Submits c tenants (c.postDict payload) w sub ∧
      sub.ok = true ∧ (do (← sub.json).getItem "id" : Except PyError JsonValue) = .ok taskId ∧
      (∃ pre, pre <:+ w.waits ∧ ((c.post tenants payload).exec w).2.waits = pre ++ [taskId]) ∧
      (w.waits = [] → ∀ j < w.deadline (w.sent.length + 1), ∃ rj,
        GetReturns c taskId { w with sent := w.sent ++ [sub.request] } j rj ∧
          taskFinished rj = .ok false) := by
  rw [post_eq, exec_instrumented_fst] at h
  rw [post_eq, exec_instrumented_waits]
  have hw : c.taskWatcher = true := ((postBody_raisesOnly c tenants _ w _ h).resolve_left id).2
  obtain ⟨url, hurl⟩ := asyncUrl_ok c tenants
  obtain ⟨o, L, hsend, hok⟩ := c.send_spec "POST" url (Body.ofJson? (c.postDict payload)) w
  rw [exec_postBody_async hw hurl, hsend] at h ⊢
  rcases o with e | sub
  · cases h
    exact False.elim (send_raisesOnly c _ _ _ w .timeoutError (by rw [hsend]))
  obtain ⟨hrep, hreq, hhooks⟩ := (hok sub).mp rfl
  dsimp only at h ⊢
  cases hs : sub.ok <;> simp only [hs, Bool.false_eq_true, if_false, if_true] at h ⊢
  · cases h
  rcases hid : (do (← sub.json).getItem "id" : Except PyError JsonValue) with e | taskId <;>
    simp only [hid] at h ⊢
  · cases h
    rcases bind_eq_error hid with hj | ⟨v, -, hv⟩
    · exact False.elim (Response.json_error_ofRequest hj)
    · exact False.elim (JsonValue.getItem_error_ofRequest hv)
  generalize hx : (c.awaitWait _ _).exec _ = run at h ⊢
  rcases run with ⟨e | task, w₂⟩ <;> cases h
  refine ⟨hw, sub, taskId, ⟨⟨url, hurl, hreq⟩, hrep, hhooks⟩, hs, hid,
    awaitWait_timeout_waits c taskId [] _ w.waits _ w₂ rfl hx, fun hidle j hj => ?_⟩
  simp only [hidle, List.length_nil, List.nil_append] at hx
  rw [awaitWait_head c taskId [] _ _ rfl] at hx
  rcases hy : (c.waitForTaskFinished taskId _).exec _ with ⟨e | (_ | t), w₃⟩ <;> rw [hy] at hx <;>
    cases hx
  · exact (waitForTaskFinished_raisesOnly c taskId _ _ .timeoutError (by rw [hy]) : False).elim
  · rw [hreq]
    have := unfinished_of_waitForTaskFinished_none c taskId _ _ _ hy j (by simpa using hj)
    simpa only [getReturns_congr (by rfl) (by rfl) j] using this

theorem post_timeout_only_if_unfinished_pending :
    (((init device .none true).post ["t"] (.other (.obj []))).exec pendingTaskWorld).1 =
        .error .timeoutError ∧
      (init device .none true).taskWatcher = true ∧ ∃ sub taskId,
        Submits (init device .none true) ["t"]
          ((init device .none true).postDict (.other (.obj []))) pendingTaskWorld sub ∧
        sub.ok = true ∧ (do (← sub.json).getItem "id" : Except PyError JsonValue) = .ok taskId ∧
        (∃ pre, pre <:+ pendingTaskWorld.waits ∧
          (((init device .none true).post ["t"] (.other (.obj []))).exec
            pendingTaskWorld).2.waits = pre ++ [taskId]) ∧
        (pendingTaskWorld.waits = [] →
          ∀ j < pendingTaskWorld.deadline (pendingTaskWorld.sent.length + 1), ∃ rj,
            GetReturns (init device .none true) taskId
              { pendingTaskWorld with sent := pendingTaskWorld.sent ++ [sub.request] } j rj ∧
              taskFinished rj = .ok false) :=
  ⟨rfl, post_timeout_only_if_unfinished _ _ _ _ rfl⟩

/-- The appliance rejects every request with `422 Unprocessable Entity`. -/
def rejectingWorld : World :=
  ⟨fun _ => some ⟨422, [("Content-Type", "application/json")], Body.ofJson (.obj [])⟩,
    (fun _ _ h => by cases h; rfl), fun _ => 1, fun _ => 0, [], [], default, []⟩

/-- A rejected asynchronous submission is not surfaced: `post` returns `None`. -/
theorem post_rejected_submission_returns_none :
    (((init device .none true).post ["t"] (.other (.obj []))).exec rejectingWorld).1 = .ok none :=
  rfl

end AS3RestClient
end OctaviaF5
