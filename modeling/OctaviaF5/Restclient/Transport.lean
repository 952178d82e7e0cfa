import OctaviaF5.Restclient.AS3RestClient

/-! What one request through a client's session does: it goes on the wire, the appliance's
reply comes back, and the debug hooks log it. The request returns its response unless there
was no reply or a hook raised on it. Every later proof about requests cites `send_spec`. -/
namespace OctaviaF5
namespace AS3RestClient

open LogResponse

/-- `n` copies of `log_response` log the response, and let it through unless `n > 0` and it
is not harmless. -/
theorem replicate_logResponse_logs (n : Nat) (r : Response) :
    ∃ o L, PyM.Logs ((List.replicate n logResponse).forM fun h => h r) o L ∧
      (o = .ok () ↔ n = 0 ∨ Harmless r) := by
  induction n with
  | zero => exact ⟨_, _, PyM.Logs.pure (), by simp⟩
  | succ n ih =>
    obtain ⟨o₁, L₁, h₁⟩ := logResponse_logs r
    have hiff : o₁ = .ok () ↔ Harmless r := by
      simpa [h₁ (default : World)] using logResponse_ok_iff r (default : World)
    cases o₁ with
    | ok u =>
      obtain ⟨o, L, h, hok⟩ := ih
      exact ⟨o, L₁ ++ L, PyM.Logs.bind_ok h₁ h, by simp_all⟩
    | error e =>
      exact ⟨_, L₁, PyM.Logs.bind_error h₁ _, by simp_all⟩

/-- Hooks that let the response through log it once each. -/
theorem replicate_logResponse_harmless {r : Response} (hr : Harmless r) :
    ∃ L, PyM.Logs (logResponse r) (.ok ()) L ∧ ∀ n,
      PyM.Logs ((List.replicate n logResponse).forM fun h => h r) (.ok ())
        (List.replicate n L).flatten := by
  obtain ⟨o, L, h⟩ := logResponse_logs r
  obtain rfl : o = .ok () := by simpa [h default] using (logResponse_ok_iff r default).mpr hr
  refine ⟨L, h, fun n => ?_⟩
  induction n with
  | zero => exact PyM.Logs.pure ()
  | succ n ih =>
    rw [List.replicate_succ, List.replicate_succ, List.flatten_cons]
    exact PyM.Logs.bind_ok h ih

/-- One request: it is appended to the wire and only log records are added; it returns the
response `r` exactly when the appliance replied with `r.reply` and every hook let it through. -/
theorem send_spec (c : AS3RestClient) (method url : String) (body : Option Body) (w : World) :
    ∃ o L, (c.send method url body).exec w =
        (o, { w with sent := w.sent ++ [c.request method url body], log := w.log ++ L }) ∧
      ∀ r, o = .ok r ↔ w.replies w.sent.length = some r.reply ∧
        r.request = c.request method url body ∧ (c.debugHooks = 0 ∨ Harmless r) := by
  unfold send
  rw [exec_sessionRequest]
  cases hrep : w.replies w.sent.length with
  | none => exact ⟨.error .connectionError, [], by simp [request], by simp⟩
  | some reply =>
    obtain ⟨o, L, h, hok⟩ :=
      replicate_logResponse_logs c.debugHooks ⟨reply, c.request method url body⟩
    refine ⟨o.map fun _ => ⟨reply, c.request method url body⟩, L, ?_, fun ⟨reply', req'⟩ => ?_⟩
    · simp only [hooks, request] at h ⊢
      rw [h]
      cases o <;> rfl
    · cases o with
      | error e =>
        simp only [Except.map, Option.some.injEq, reduceCtorEq, false_iff, not_and]
        rintro rfl rfl
        simpa using hok
      | ok u =>
        simp only [Except.map, Except.ok.injEq, Response.mk.injEq, Option.some.injEq]
        constructor
        · rintro ⟨rfl, rfl⟩
          exact ⟨rfl, rfl, by simpa using hok⟩
        · rintro ⟨rfl, rfl, -⟩
          exact ⟨rfl, rfl⟩

/-- A request raises `ConnectionError` when no reply comes back, or what a hook raises on the
response. -/
theorem send_raisesOnly (c : AS3RestClient) (method url : String) (body : Option Body) :
    PyM.RaisesOnly PyError.OfRequest (c.send method url body) := by
  unfold send sessionRequest
  refine PyM.RaisesOnly.read.bind fun w => (PyM.RaisesOnly.update _).bind fun _ => ?_
  split
  · exact .throw trivial
  · exact (PyM.RaisesOnly.forM fun h hh =>
      List.eq_of_mem_replicate hh ▸ logResponse_raisesOnly _).bind fun _ => .pure _

end AS3RestClient
end OctaviaF5
