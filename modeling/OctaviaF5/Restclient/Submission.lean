import OctaviaF5.Restclient.TaskWatcher

/-! What one `post` puts on the wire (as3restclient.py, lines 107-119): the request that
submits the declaration to `declare/<tenants>` on the device that serves AS3, and, in
asynchronous mode after an ok submission, the polls the task watcher's worker completes while
the caller waits: of the task the reply names when no other wait is queued, and in general GETs
of task paths. -/
namespace OctaviaF5
namespace AS3RestClient

/-! ### URLs under `AS3_PATH` -/

/-- The device that serves the paths under `AS3_PATH`: the BIG-IP, or the AS3 container. -/
def as3Target (c : AS3RestClient) : Bigip.Target :=
  match c.cls with
  | .as3RestClient => c.bigip
  | .externalContainer as3 => as3

/-- A path under `AS3_PATH`. -/
def UnderAS3 (path : String) : Prop := as3Path.data <+: path.data

theorem underAS3_append {path : String} (h : UnderAS3 path) (s : String) :
    UnderAS3 (path ++ s) := by
  simpa [UnderAS3, String.data_append] using h.trans (List.prefix_append _ s.data)

theorem underAS3_declare : UnderAS3 as3DeclarePath := List.prefix_append _ _

/-- The paths under `AS3_PATH` begin with one `/`. -/
theorem pathStart_of_underAS3 {path : String} (h : UnderAS3 path) :
    Parse.PathStart path.data := by
  obtain ⟨t, ht⟩ := h
  rw [← ht]
  exact ⟨"mgmt/shared/appsvcs".data ++ t, rfl, by simp⟩

/-- Both classes send the paths under `AS3_PATH` to `scheme://netloc` of the AS3 device. -/
theorem getUrl_of_underAS3 (c : AS3RestClient) {path : String} (h : UnderAS3 path) :
    c.getUrl path = Parse.web c.as3Target.scheme c.as3Target.netloc.data path.data := by
  have hpre : as3Path.data.isPrefixOf path.data = true := List.isPrefixOf_iff_prefix.mpr h
  rw [← Bigip.Target.getUrl_eq _ (pathStart_of_underAS3 h)]
  cases hc : c.cls <;> simp [getUrl, as3Target, hc, hpre]

theorem declareUrl_eq (c : AS3RestClient) (tenants : List String) :
    c.declareUrl tenants = Parse.web c.as3Target.scheme c.as3Target.netloc.data
      (as3DeclarePath ++ "/" ++ ",".intercalate tenants).data := by
  simp only [declareUrl, getUrl_of_underAS3 c underAS3_declare, Parse.web_append,
    String.data_append]

/-- `requests` can always add `async=true` to the declaration URL. -/
theorem asyncUrl_ok (c : AS3RestClient) (tenants : List String) :
    ∃ url, Parse.withQuery (c.declareUrl tenants) "async=true" = .ok url := by
  rw [declareUrl_eq]
  exact ⟨_, Parse.withQuery_web c.as3Target.scheme_web c.as3Target.netloc_plain
    (pathStart_of_underAS3 (underAS3_append (underAS3_append underAS3_declare _) _)) _⟩

/-! ### One submission -/

/-- The dict `post` submits: the container client stamps an `AS3` declaration first. -/
def postDict (c : AS3RestClient) (payload : Payload) : JsonValue :=
  match c.cls with
  | .as3RestClient => payload.toDict
  | .externalContainer _ => (c.stamp payload).toDict

theorem post_eq (c : AS3RestClient) (tenants : List String) (payload : Payload) :
    c.post tenants payload = instrumented .post (c.postBody tenants (c.postDict payload)) := by
  unfold post postDict
  cases c.cls <;> rfl

/-- The asynchronous branch of `post`: the submission, then, if it is ok, the task id read from
its body, the wait submitted behind the waits already queued, and its future. -/
theorem exec_postBody_async {c : AS3RestClient} (hw : c.taskWatcher = true)
    {tenants : List String} {url : String}
    (hurl : Parse.withQuery (c.declareUrl tenants) "async=true" = .ok url) (payload : JsonValue)
    (w : World) :
    (c.postBody tenants payload).exec w =
      match (c.send "POST" url (Body.ofJson? payload)).exec w with
      | (.error e, w₁) => (.error e, w₁)
      | (.ok r, w₁) =>
        if r.ok then
          match (do (← r.json).getItem "id" : Except PyError JsonValue) with
          | .error e => (.error e, w₁)
          | .ok taskId =>
            match (c.awaitWait w₁.waits.length (w₁.deadline w₁.sent.length)).exec
                { w₁ with waits := w₁.waits ++ [taskId] } with
            | (.ok task, w₂) => (.ok (some task), w₂)
            | (.error e, w₂) => (.error e, w₂)
        else (.ok none, w₁) := by
  simp only [postBody, hw, if_true, PyM.exec_bind_ok (PyM.exec_lift _ _), hurl]
  rw [PyM.exec_bind]
  rcases (c.send "POST" url (Body.ofJson? payload)).exec w with ⟨e | r, w₁⟩
  · rfl
  dsimp only
  split_ifs
  · rw [PyM.exec_bind, PyM.exec_lift]
    rcases (do (← r.json).getItem "id" : Except PyError JsonValue) with e | taskId
    · rfl
    simp only [submit, PyM.exec_bind, PyM.exec_read, PyM.exec_update, PyM.exec_pure,
      PyM.exec_map]
    rcases (c.awaitWait w₁.waits.length (w₁.deadline w₁.sent.length)).exec
      { w₁ with waits := w₁.waits ++ [taskId] } with ⟨e | task, w₂⟩ <;> rfl
  · rfl

/-- `post`'s body raises what its requests and their replies raise, and `TimeoutError` only in
asynchronous mode. -/
theorem postBody_raisesOnly (c : AS3RestClient) (tenants : List String) (dict : JsonValue) :
    PyM.RaisesOnly (fun e => e.OfRequest ∨ e = .timeoutError ∧ c.taskWatcher = true)
      (c.postBody tenants dict) := by
  have hreq {α : Type} {x : PyM α} (hx : PyM.RaisesOnly PyError.OfRequest x) :
      PyM.RaisesOnly (fun e => e.OfRequest ∨ e = .timeoutError ∧ c.taskWatcher = true) x :=
    hx.mono fun _ => .inl
  unfold postBody
  dsimp only
  split
  case isFalse => exact hreq ((send_raisesOnly _ _ _ _).map _)
  case isTrue hw =>
    refine (hreq (.lift fun _ h => by rw [Parse.withQuery_error h]; trivial)).bind fun _ =>
      (hreq (send_raisesOnly _ _ _ _)).bind fun r => ?_
    split
    · refine (hreq (.lift fun _ h => ?_)).bind fun taskId =>
        (show PyM.RaisesOnly _ (submit taskId) from fun _ _ h => by cases h).bind fun ahead =>
          PyM.RaisesOnly.read.bind fun _ => PyM.RaisesOnly.map ?_ _
      · rcases bind_eq_error h with h | ⟨_, -, h⟩
        · exact Response.json_error_ofRequest h
        · exact JsonValue.getItem_error_ofRequest h
      · exact (awaitWait_raisesOnly c ahead _).mono fun _ he => he.imp_right fun h => ⟨h, hw⟩
    · exact .pure _

/-- With no wait queued, the future of an asynchronous `post` is `wait_for_task_finished` run
for the polls the deadline allows, a `None` from it a timeout. -/
theorem exec_postBody_async_idle {c : AS3RestClient} (hw : c.taskWatcher = true)
    {tenants : List String} {url : String}
    (hurl : Parse.withQuery (c.declareUrl tenants) "async=true" = .ok url) (payload : JsonValue)
    {w : World} (hidle : w.waits = []) :
    (c.postBody tenants payload).exec w =
      match (c.send "POST" url (Body.ofJson? payload)).exec w with
      | (.error e, w₁) => (.error e, w₁)
      | (.ok r, w₁) =>
        if r.ok then
          match (do (← r.json).getItem "id" : Except PyError JsonValue) with
          | .error e => (.error e, w₁)
          | .ok taskId =>
            match (c.waitForTaskFinished taskId (w₁.deadline w₁.sent.length)).exec
                { w₁ with waits := [taskId] } with
            | (.ok (some task), w₂) => (.ok (some task), { w₂ with waits := [] })
            | (.ok none, w₂) => (.error .timeoutError, w₂)
            | (.error e, w₂) => (.error e, { w₂ with waits := [] })
        else (.ok none, w₁) := by
  obtain ⟨o, L, hsend, -⟩ := c.send_spec "POST" url (Body.ofJson? payload) w
  rw [exec_postBody_async hw hurl, hsend]
  rcases o with e | r
  · rfl
  dsimp only
  split_ifs
  · rcases (do (← r.json).getItem "id" : Except PyError JsonValue) with e | taskId
    · rfl
    dsimp only
    rw [hidle, List.length_nil, List.nil_append, awaitWait_head c taskId [] _ _ rfl]
    rcases (c.waitForTaskFinished taskId _).exec _ with ⟨e | (_ | task), w₂⟩ <;> rfl
  · rfl

/-- The asynchronous `post` on the wire: the submission, then only the polls of its future. -/
theorem postBody_async_sent {c : AS3RestClient} (hw : c.taskWatcher = true)
    {tenants : List String} {url : String}
    (hurl : Parse.withQuery (c.declareUrl tenants) "async=true" = .ok url) (payload : JsonValue)
    (w : World) :
    ∃ polls, ((c.postBody tenants payload).exec w).2.sent =
        w.sent ++ c.request "POST" url (Body.ofJson? payload) :: polls ∧ TaskPolls c polls ∧
      (w.waits = [] → ∃ k taskId, polls = List.replicate k (c.taskRequest taskId)) := by
  obtain ⟨o, L, h, -⟩ := c.send_spec "POST" url (Body.ofJson? payload) w
  have hnil : ∃ polls, w.sent ++ [c.request "POST" url (Body.ofJson? payload)] =
      w.sent ++ c.request "POST" url (Body.ofJson? payload) :: polls ∧ TaskPolls c polls ∧
      (w.waits = [] → ∃ k taskId, polls = List.replicate k (c.taskRequest taskId)) :=
    ⟨[], rfl, TaskPolls.nil, fun _ => ⟨0, .null, rfl⟩⟩
  rw [exec_postBody_async hw hurl, h]
  rcases o with e | r
  · exact hnil
  dsimp only
  split_ifs
  · rcases (do (← r.json).getItem "id" : Except PyError JsonValue) with e | taskId
    · exact hnil
    obtain ⟨polls, hsent, hpolls, hidle⟩ := awaitWait_submitted_sent c taskId
      (w.deadline (w.sent ++ [c.request "POST" url (Body.ofJson? payload)]).length)
      { w with sent := w.sent ++ [c.request "POST" url (Body.ofJson? payload)], log := w.log ++ L }
    refine ⟨polls, ?_, hpolls, fun h₀ => let ⟨k, hk⟩ := hidle h₀; ⟨k, taskId, hk⟩⟩
    dsimp only at hsent ⊢
    rcases hx : (c.awaitWait _ _).exec _ with ⟨e | task, w₂⟩ <;> rw [hx] at hsent <;> simpa using hsent
  · exact hnil

/-- What `post` puts on the wire: the submission to the declaration URL, with `async=true` in
asynchronous mode, then nothing, or in asynchronous mode GETs of task paths. With no wait queued
before, those are the polls of one task. -/
theorem postBody_sent (c : AS3RestClient) (tenants : List String) (payload : JsonValue)
    (w : World) :
    ∃ url polls, ((c.postBody tenants payload).exec w).2.sent =
        w.sent ++ c.request "POST" url (Body.ofJson? payload) :: polls ∧ TaskPolls c polls ∧
      (w.waits = [] → ∃ k taskId, polls = List.replicate k (c.taskRequest taskId)) ∧
      if c.taskWatcher then Parse.withQuery (c.declareUrl tenants) "async=true" = .ok url
      else url = c.declareUrl tenants ∧ polls = [] := by
  cases hw : c.taskWatcher
  · obtain ⟨o, L, h, -⟩ := c.send_spec "POST" (c.declareUrl tenants) (Body.ofJson? payload) w
    exact ⟨_, [], by simp [postBody, hw, h], TaskPolls.nil, fun _ => ⟨0, .null, rfl⟩, rfl, rfl⟩
  obtain ⟨url, hurl⟩ := asyncUrl_ok c tenants
  obtain ⟨polls, hsent, hpolls, hidle⟩ := postBody_async_sent hw hurl payload w
  exact ⟨url, polls, hsent, hpolls, hidle, hurl⟩

/-! ### The container client's stamp -/

/-- What the container client's `post` sets on an `AS3` declaration (lines 165-171): the
device's host, then the session's token, or its username and passphrase. -/
def stampFields (c : AS3RestClient) : List (String × JsonValue) :=
  ("targetHost", c.hostname.elim .null .str) :: match c.auth with
    | .token t => [("targetTokens", .obj [(Bigip.bigipTokenHeader, .str t)])]
    | .basic username password =>
      [("targetUsername", .str username), ("targetPassphrase", .str password)]
    | .none => []

theorem stamp_lookup (c : AS3RestClient) (d : AS3) :
    ∃ d', c.stamp (.as3 d) = .as3 d' ∧
      ∀ k, d'.props.lookup k = ((stampFields c).lookup k).or (d.props.lookup k) := by
  refine ⟨_, rfl, fun k => ?_⟩
  unfold stampFields
  cases c.auth <;> simp only [AS3.setBigipTargetHost, AS3.setTargetTokens, AS3.setTargetUsername,
    AS3.setTargetPassphrase, AS3.lookup_set, AS3.lookup_cons_ite] <;> split_ifs <;> simp_all

/-- The container client submits an `AS3` declaration with its stamp set over the caller's
properties: the device's host and the session's credentials go to the AS3 container in the
body of the submission. Only GETs of task paths follow it, the polls of one task when no wait
was queued. -/
theorem container_post_submits_stamped (c : AS3RestClient) {as3 : Bigip.Target}
    (hc : c.cls = .externalContainer as3) (tenants : List String) (d : AS3) (w : World) :
    ∃ props url polls, ((c.post tenants (.as3 d)).exec w).2.sent =
        w.sent ++ c.request "POST" url (some (Body.ofJson (.obj props))) :: polls ∧
      TaskPolls c polls ∧
      (w.waits = [] → ∃ k taskId, polls = List.replicate k (c.taskRequest taskId)) ∧
      ∀ key, props.lookup key = ((stampFields c).lookup key).or (d.props.lookup key) := by
  obtain ⟨d', hstamp, hprops⟩ := stamp_lookup c d
  obtain ⟨url, polls, hsent, hpolls, hidle, -⟩ := c.postBody_sent tenants (c.postDict (.as3 d)) w
  have hdict : c.postDict (.as3 d) = .obj d'.props := by simp only [postDict, hc, hstamp]; rfl
  rw [hdict] at hsent
  exact ⟨d'.props, url, polls, by rw [post_eq, exec_instrumented_sent, hdict, hsent]; rfl, hpolls,
    hidle, hprops⟩

theorem container_post_submits_stamped_basic :
    (initExternalContainer device device (.basic "admin" "pw") false).cls =
        .externalContainer device ∧
      ∃ props url polls,
        (((initExternalContainer device device (.basic "admin" "pw") false).post ["t"]
            (.as3 (AS3.make [("action", .str "remove")]))).exec acceptingWorld).2.sent =
          [] ++ (initExternalContainer device device (.basic "admin" "pw") false).request "POST"
            url (some (Body.ofJson (.obj props))) :: polls ∧
        TaskPolls (initExternalContainer device device (.basic "admin" "pw") false) polls ∧
        (acceptingWorld.waits = [] → ∃ k taskId, polls = List.replicate k
          ((initExternalContainer device device (.basic "admin" "pw") false).taskRequest taskId)) ∧
        ∀ key, props.lookup key = ((stampFields (initExternalContainer device device
          (.basic "admin" "pw") false)).lookup key).or
            ((AS3.make [("action", .str "remove")]).props.lookup key) :=
  ⟨rfl, container_post_submits_stamped _ rfl ["t"] _ acceptingWorld⟩

end AS3RestClient
end OctaviaF5
