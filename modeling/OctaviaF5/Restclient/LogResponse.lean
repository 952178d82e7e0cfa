import OctaviaF5.Restclient.Bigip
import OctaviaF5.Requests.Effects

/-! `log_response`, the response hook `AS3RestClient.debug_enable` installs
(as3restclient.py, lines 67-91). It logs the request line with the URL's credentials
removed, the request body, and the response body; a body that is not JSON is logged as text.
It raises on a response without a `Content-Type` header, on a JSON response whose
`'results' in parsed` test or `parsed['results']` lookup fails, and on a body nested past the
recursion limit, whose `RecursionError` no `except ValueError` catches. -/
namespace OctaviaF5
namespace LogResponse

/-- Lines 73-79: `if r.request.body:` log the body, pretty-printed when `json.loads` reads it,
and as the `bytes` object when it raises `ValueError`. -/
def logRequestBody : Option Body → PyM Unit
  | some body =>
    if body.text ≠ "" then do
      logDebug "Request Body"
      match body.json with
      | .value parsed => logDebug "%s" [JsonValue.dumps .pretty parsed]
      | .invalid => logDebug "%s" ["b" ++ JsonValue.reprStr body.text]
      | .tooDeep => throw .recursionError
    else pure ()
  | none => pure ()

/-- Lines 85-86: `if 'results' in parsed: parsed = parsed['results']`. -/
def resultsOf (parsed : JsonValue) : Except PyError JsonValue := do
  if ← parsed.contains "results" then parsed.getItem "results" else pure parsed

/-- Lines 82-91: the response body, by its `Content-Type`. Only the `ValueError` of
`r.json()` is caught. -/
def logResponseBody (r : Response) : PyM Unit :=
  match r.header "Content-Type" with
  | none => throw (.typeError "argument of type 'NoneType' is not iterable")
  | some ct =>
    if "application/json".data <:+: ct.data then
      PyM.tryExcept PyError.isValueError
        (do
          let parsed ← PyM.lift r.json
          let parsed ← PyM.lift (resultsOf parsed)
          logDebug "%s" [JsonValue.dumps .pretty parsed])
        fun _ => logError "Valid JSON expected: %s" [r.reply.body.text]
    else logDebug "%s" [r.reply.body.text]

/-- `log_response(r)`. -/
def logResponse (r : Response) : PyM Unit := do
  let url ← PyM.lift (Parse.redactedUrl r.request.url)
  logDebug "%s %s finished with code %s" [r.request.method, url, toString r.reply.statusCode]
  logRequestBody r.request.body
  logDebug "Response"
  logResponseBody r

/-! ### When the hook raises -/

/-- The decoded bodies `resultsOf` accepts: dicts, lists without the element `'results'`,
strings without the substring `results`. -/
def ResultsSafe : JsonValue → Prop
  | .obj _ => True
  | .arr items => items.any (JsonValue.isStr "results") = false
  | .str s => ¬"results".data <:+: s.data
  | _ => False

theorem resultsOf_ok_iff (v : JsonValue) : (∃ v', resultsOf v = .ok v') ↔ ResultsSafe v := by
  cases v with
  | obj fields =>
    simp only [ResultsSafe, iff_true]
    by_cases h : fields.any (fun f => f.1 == "results") = true
    · obtain ⟨g, hg⟩ := Option.isSome_iff_exists.mp (List.find?_isSome.mpr (List.any_eq_true.mp h))
      exact ⟨g.2, by
        simp [resultsOf, JsonValue.contains, h, bind, Except.bind, JsonValue.getItem, hg]⟩
    · exact ⟨.obj fields, by
        simp [resultsOf, JsonValue.contains, h, bind, Except.bind, pure, Except.pure]⟩
  | arr items =>
    simp only [resultsOf, JsonValue.contains, ResultsSafe]
    cases items.any (JsonValue.isStr "results") <;>
      simp [bind, Except.bind, JsonValue.getItem, pure, Except.pure]
  | str s =>
    simp only [resultsOf, JsonValue.contains, ResultsSafe]
    by_cases h : "results".data <:+: s.data <;>
      simp [h, bind, Except.bind, JsonValue.getItem, pure, Except.pure]
  | _ => simp [resultsOf, JsonValue.contains, ResultsSafe, bind, Except.bind]

theorem getItem_error_not_valueError {key : String} {v : JsonValue} {e : PyError}
    (h : v.getItem key = .error e) : e.isValueError = false := by
  cases v <;> simp only [JsonValue.getItem] at h
  case obj fields => split at h <;> cases h; rfl
  all_goals cases h; rfl

theorem contains_error_not_valueError {key : String} {v : JsonValue} {e : PyError}
    (h : v.contains key = .error e) : e.isValueError = false := by
  cases v <;> simp only [JsonValue.contains] at h <;> cases h <;> rfl

/-- `resultsOf` raises only `TypeError` and `KeyError`, which the hook does not catch. -/
theorem resultsOf_error_not_valueError {v : JsonValue} {e : PyError}
    (h : resultsOf v = .error e) : e.isValueError = false := by
  simp only [resultsOf, bind, Except.bind] at h
  rcases hc : v.contains "results" with e' | b
  · rw [hc] at h; cases h; exact contains_error_not_valueError hc
  · rw [hc] at h
    cases b
    · cases h
    · exact getItem_error_not_valueError h

@[simp] theorem exec_logDebug (msg : String) (args : List String) (w : World) :
    (logDebug msg args).exec w = (.ok (), { w with log := w.log ++ [⟨.debug, msg, args⟩] }) := rfl

@[simp] theorem exec_logError (msg : String) (args : List String) (w : World) :
    (logError msg args).exec w = (.ok (), { w with log := w.log ++ [⟨.error, msg, args⟩] }) := rfl

/-- A request body that `json.loads` reads without reaching the recursion limit, if it reads
it at all. -/
def BodyLoggable (b : Option Body) : Prop := ∀ body ∈ b, body.text ≠ "" → body.json ≠ .tooDeep

/-- The request body is only logged, unless its decoding reaches the recursion limit. -/
theorem logRequestBody_ok_iff (b : Option Body) (w : World) :
    ((logRequestBody b).exec w).1 = .ok () ↔ BodyLoggable b := by
  rcases b with _ | ⟨text, _ | _ | _⟩ <;>
    simp [logRequestBody, BodyLoggable, PyM.exec_bind] <;> split_ifs <;> simp_all [PyM.exec_bind]

theorem logRequestBody_logs (b : Option Body) : ∃ o L, PyM.Logs (logRequestBody b) o L := by
  rcases b with _ | ⟨text, _ | _ | _⟩
  · exact ⟨_, _, PyM.Logs.pure ()⟩
  all_goals
    simp only [logRequestBody]
    split_ifs
    · exact PyM.Logs.bind (PyM.Logs.emit _) fun _ => by
        first | exact ⟨_, _, PyM.Logs.emit _⟩ | exact ⟨_, _, PyM.Logs.throw _⟩
    · exact ⟨_, _, PyM.Logs.pure ()⟩

/-- The bodies the client sends are JSON it encoded. -/
theorem bodyLoggable_ofJson? (v : JsonValue) : BodyLoggable (Body.ofJson? v) := by
  intro body hb _
  cases v <;> cases hb <;> nofun

/-- A decoded JSON response body the hook gets through: a value that passes `resultsOf`, or a
text that is not JSON, whose `ValueError` is caught. -/
def JsonLoggable : Decoded → Prop
  | .value v => ResultsSafe v
  | .invalid => True
  | .tooDeep => False

/-- The response part returns normally exactly when a Content-Type is present and a JSON
body is loggable. -/
theorem logResponseBody_ok_iff (r : Response) (w : World) :
    ((logResponseBody r).exec w).1 = .ok () ↔
      ∃ ct, r.header "Content-Type" = some ct ∧
        ("application/json".data <:+: ct.data → JsonLoggable r.reply.body.json) := by
  unfold logResponseBody
  rcases hct : r.header "Content-Type" with _ | ct
  · simp
  · simp only [Option.some.injEq, exists_eq_left']
    split_ifs with hjson
    · simp only [PyM.exec_tryExcept, PyM.exec_bind, Response.json, true_implies, hjson]
      rcases hb : r.reply.body.json with v | _ | _
      · rcases hv : resultsOf v with e | v'
        · have hnv := resultsOf_error_not_valueError hv
          have hns : ¬ResultsSafe v := fun hs => by
            obtain ⟨v', hv'⟩ := (resultsOf_ok_iff v).mpr hs
            rw [hv] at hv'; cases hv'
          simp [hv, hnv, hns, JsonLoggable]
        · have hs : ResultsSafe v := (resultsOf_ok_iff v).mp ⟨v', hv⟩
          simp [hv, hs, JsonLoggable]
      · simp [PyError.isValueError, JsonLoggable]
      · simp [PyError.isValueError, JsonLoggable]
    · simp [hjson]

/-- When `log_response` returns normally. -/
def Harmless (r : Response) : Prop :=
  (∃ u, Parse.redactedUrl r.request.url = .ok u) ∧ BodyLoggable r.request.body ∧
    ∃ ct, r.header "Content-Type" = some ct ∧
      ("application/json".data <:+: ct.data → JsonLoggable r.reply.body.json)

/-- The hook returns normally exactly on harmless responses; on every other response it raises
and the request it observes raises with it. -/
theorem logResponse_ok_iff (r : Response) (w : World) :
    ((logResponse r).exec w).1 = .ok () ↔ Harmless r := by
  unfold logResponse Harmless
  rcases hu : Parse.redactedUrl r.request.url with e | u
  · simp [PyM.exec_bind, hu]
  obtain ⟨o, L, hL⟩ := logRequestBody_logs r.request.body
  have hreq := logRequestBody_ok_iff r.request.body w
  rw [PyM.exec_bind_ok (PyM.exec_lift _ _), PyM.exec_bind_ok (exec_logDebug _ _ _), PyM.exec_bind,
    hL]
  rw [hL] at hreq
  cases o with
  | error e => simp_all
  | ok _ =>
    dsimp only
    rw [PyM.exec_bind_ok (exec_logDebug _ _ _)]
    simp_all [logResponseBody_ok_iff]

/-- A `204 No Content` reply carries no `Content-Type`, and the hook raises on it. -/
theorem logResponse_raises_without_content_type :
    ((logResponse ⟨⟨204, [], ⟨"", .invalid⟩⟩,
        ⟨"DELETE", "https://10.0.0.1/mgmt/shared/appsvcs/declare/t", none, .none⟩⟩).exec
      default).1 = .error (.typeError "argument of type 'NoneType' is not iterable") :=
  rfl

/-! ### The hook only logs -/

theorem logResponseBody_logs (r : Response) : ∃ o L, PyM.Logs (logResponseBody r) o L := by
  unfold logResponseBody
  split
  · exact ⟨_, _, PyM.Logs.throw _⟩
  · split_ifs
    · obtain ⟨o, L, h⟩ := PyM.Logs.bind (PyM.Logs.lift r.json) fun parsed =>
        PyM.Logs.bind (PyM.Logs.lift (resultsOf parsed)) fun _ => ⟨_, _, PyM.Logs.emit _⟩
      exact PyM.Logs.tryExcept _ h fun _ => ⟨_, _, PyM.Logs.emit _⟩
    · exact ⟨_, _, PyM.Logs.emit _⟩

/-- `log_response` writes log records and raises or not, the same from every world. -/
theorem logResponse_logs (r : Response) : ∃ o L, PyM.Logs (logResponse r) o L :=
  PyM.Logs.bind (PyM.Logs.lift _) fun _ =>
    PyM.Logs.bind (PyM.Logs.emit _) fun _ =>
      let ⟨_, _, hb⟩ := logRequestBody_logs r.request.body
      PyM.Logs.bind hb fun _ =>
        PyM.Logs.bind (PyM.Logs.emit _) fun _ => logResponseBody_logs r

theorem resultsOf_error_ofRequest {v : JsonValue} {e : PyError} (h : resultsOf v = .error e) :
    e.OfRequest := by
  unfold resultsOf at h
  rcases bind_eq_error h with h | ⟨b, -, h⟩
  · exact JsonValue.contains_error_ofRequest h
  · split at h
    · exact JsonValue.getItem_error_ofRequest h
    · cases h

/-- The hook raises `ValueError` for a URL, `TypeError` and `KeyError` for a body. -/
theorem logResponse_raisesOnly (r : Response) :
    PyM.RaisesOnly PyError.OfRequest (logResponse r) := by
  have hurl : PyM.RaisesOnly PyError.OfRequest (PyM.lift (Parse.redactedUrl r.request.url)) :=
    .lift fun e h => by rw [Parse.redactedUrl_error h]; trivial
  have hreq : PyM.RaisesOnly PyError.OfRequest (logRequestBody r.request.body) := by
    unfold logRequestBody
    split
    · split_ifs
      · exact (PyM.RaisesOnly.emit _).bind fun _ => by split <;> first | exact .emit _ | exact .throw trivial
      · exact .pure _
    · exact .pure _
  have hjson : PyM.RaisesOnly PyError.OfRequest (PyM.lift r.json) :=
    .lift fun _ => Response.json_error_ofRequest
  have hres : PyM.RaisesOnly PyError.OfRequest (logResponseBody r) := by
    unfold logResponseBody
    split
    · exact .throw trivial
    · split_ifs
      · exact .tryExcept _ (hjson.bind fun _ =>
          (PyM.RaisesOnly.lift fun _ => resultsOf_error_ofRequest).bind fun _ => .emit _)
          fun _ => .emit _
      · exact .emit _
  exact hurl.bind fun _ => (PyM.RaisesOnly.emit _).bind fun _ =>
    hreq.bind fun _ => (PyM.RaisesOnly.emit _).bind fun _ => hres

end LogResponse
end OctaviaF5
