import OctaviaF5.Restclient.Operations
import OctaviaF5.Requests.Related

/-! The debug log does not depend on the credentials of the BIG-IP. Two clients that differ only
in the credentials of `bigip_url`, and for the base client also in `auth`, make the same calls
against the same appliance and write the same log: `log_response` reads a request only through
its method, its body and its redacted URL, and those agree, and the task watcher polls the same
tasks on both sides. The container client stamps `auth` into the declarations it posts, so its
`auth` does reach the log. Each call of `debug_enable` installs one more hook, and a response is
logged once per hook. -/
namespace OctaviaF5
namespace AS3RestClient

open PyM LogResponse

/-- Two clients that differ at most in the credentials of the BIG-IP: in `bigip_url` before the
last `@`, and, for the base client, in `auth`. -/
structure Twin (c₁ c₂ : AS3RestClient) : Prop where
  cls : c₁.cls = c₂.cls
  device : c₁.bigip.SameDevice c₂.bigip
  taskWatcher : c₁.taskWatcher = c₂.taskWatcher
  debugHooks : c₁.debugHooks = c₂.debugHooks
  auth : c₁.cls = .as3RestClient ∨ c₁.auth = c₂.auth

section Twin

variable {c₁ c₂ : AS3RestClient} (h : Twin c₁ c₂)
include h

theorem Twin.as3Target : c₁.as3Target.SameDevice c₂.as3Target := by
  unfold AS3RestClient.as3Target
  rw [h.cls]
  cases c₂.cls
  · exact h.device
  · exact ⟨rfl, rfl⟩

theorem Twin.getUrl {path : String} (hp : UnderAS3 path) :
    Parse.TwinUrl (c₁.getUrl path) (c₂.getUrl path) := by
  rw [getUrl_of_underAS3 c₁ hp, getUrl_of_underAS3 c₂ hp]
  exact h.as3Target.twinUrl (pathStart_of_underAS3 hp)

theorem Twin.declareUrl (tenants : List String) :
    Parse.TwinUrl (c₁.declareUrl tenants) (c₂.declareUrl tenants) := by
  rw [declareUrl_eq, declareUrl_eq]
  exact h.as3Target.twinUrl
    (pathStart_of_underAS3 (underAS3_append (underAS3_append underAS3_declare _) _))

/-- Both clients submit the same dict: the container client stamps the same host and `auth`. -/
theorem Twin.postDict (payload : Payload) : c₁.postDict payload = c₂.postDict payload := by
  unfold AS3RestClient.postDict
  rw [h.cls]
  cases hc : c₂.cls
  · rfl
  · have ha : c₁.auth = c₂.auth := h.auth.resolve_left (by rw [h.cls, hc]; simp)
    have hhost : c₁.hostname = c₂.hostname := Parse.hostname_congr h.device.2
    simp only [stamp, ha, hhost]

end Twin

/-! ### Requests -/

/-- A caller that calls `debug_enable` `n` times on a client and goes on with the client it
returns. -/
def debugEnableTimes (c : AS3RestClient) : Nat → PyM AS3RestClient
  | 0 => pure c
  | n + 1 => do (← c.debugEnable).debugEnableTimes n

/-- Each call of `debug_enable` logs that it installs a hook, and adds one. -/
theorem debugEnableTimes_logs (c : AS3RestClient) :
    ∀ n, ∃ L, PyM.Logs (c.debugEnableTimes n) (.ok { c with debugHooks := c.debugHooks + n }) L
  | 0 => ⟨[], PyM.Logs.pure c⟩
  | n + 1 => by
    obtain ⟨L, h⟩ := debugEnableTimes_logs { c with debugHooks := c.debugHooks + 1 } n
    have h' : PyM.Logs ({ c with debugHooks := c.debugHooks + 1 }.debugEnableTimes n)
        (.ok { c with debugHooks := c.debugHooks + (n + 1) }) L := by
      simpa only [Nat.add_assoc, Nat.add_comm 1 n] using h
    exact ⟨_, PyM.Logs.bind_ok (exec_debugEnable c) h'⟩

/-- `debug_enable` appends a hook on every call and never checks for one already there. After
`n` calls, a request whose response the hook lets through returns it, and logs the hook's
records once per hook: `n` times over on a client that had none. -/
theorem send_logged_once_per_hook (c : AS3RestClient) (n : Nat) (w₀ : World)
    (method url : String) (body : Option Body) (w : World) {reply : Reply}
    (hrep : w.replies w.sent.length = some reply)
    (hr : Harmless ⟨reply, c.request method url body⟩) :
    ∃ c' L, ((c.debugEnableTimes n).exec w₀).1 = .ok c' ∧
      PyM.Logs (logResponse ⟨reply, c.request method url body⟩) (.ok ()) L ∧
      (c'.send method url body).exec w = (.ok ⟨reply, c.request method url body⟩,
        { w with sent := w.sent ++ [c.request method url body],
                 log := w.log ++ (List.replicate (c.debugHooks + n) L).flatten }) := by
  obtain ⟨L₀, hc⟩ := debugEnableTimes_logs c n
  obtain ⟨L, hL, hn⟩ := replicate_logResponse_harmless hr
  refine ⟨_, L, by rw [hc w₀], hL, ?_⟩
  rw [send, exec_sessionRequest, hrep]
  simp only [hooks, request_debugHooks]
  rw [hn (c.debugHooks + n) _]

theorem send_logged_once_per_hook_twice :
    acceptingWorld.replies acceptingWorld.sent.length = some (jsonReply (.obj [])) ∧
      Harmless ⟨jsonReply (.obj []),
        (init device .none false).request "DELETE" ((init device .none false).declareUrl ["t"])
          none⟩ ∧
      ∃ c' L, (((init device .none false).debugEnableTimes 2).exec acceptingWorld).1 = .ok c' ∧
        PyM.Logs (logResponse ⟨jsonReply (.obj []), (init device .none false).request "DELETE"
          ((init device .none false).declareUrl ["t"]) none⟩) (.ok ()) L ∧
        (c'.send "DELETE" ((init device .none false).declareUrl ["t"]) none).exec acceptingWorld =
          (.ok ⟨jsonReply (.obj []), (init device .none false).request "DELETE"
            ((init device .none false).declareUrl ["t"]) none⟩,
            { acceptingWorld with
              sent := acceptingWorld.sent ++ [(init device .none false).request "DELETE"
                ((init device .none false).declareUrl ["t"]) none],
              log := acceptingWorld.log ++ (List.replicate (0 + 2) L).flatten }) :=
  have hr : Harmless ⟨jsonReply (.obj []), (init device .none false).request "DELETE"
      ((init device .none false).declareUrl ["t"]) none⟩ :=
    ⟨⟨_, rfl⟩, bodyLoggable_ofJson? .null, "application/json", rfl, fun _ => trivial⟩
  ⟨rfl, hr, send_logged_once_per_hook (init device .none false) 2 acceptingWorld _ _ _
    acceptingWorld rfl hr⟩

end AS3RestClient
end OctaviaF5
