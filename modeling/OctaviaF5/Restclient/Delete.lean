import OctaviaF5.Restclient.Submission
import OctaviaF5.Requests.Prepare

/-! `delete(tenants)` of both classes (as3restclient.py, lines 127-134 and 179-185). An empty
list is refused before anything is sent. Any other list goes out in one request to the
declaration URL, `declare/` followed by the names joined with `,`: a `DELETE` from the base
client; from the container client a `POST` of `AS3(action='remove')`, stamped, followed in
asynchronous mode by the polls of the task watcher. The guard tests the list, not the joined
names, nor what `requests` makes of the URL. -/
namespace OctaviaF5
namespace AS3RestClient

/-- The guard: the call raises before the request, inside the metrics of the base client and
outside any metrics for the container client, whose `post` is the instrumented call. -/
theorem exec_delete_nil (c : AS3RestClient) (w : World) :
    (c.delete []).exec w = (.error deleteAllTenantsRaise, match c.cls with
      | .as3RestClient => { w with metrics := (w.metrics.observe .delete).count .delete }
      | .externalContainer _ => w) := by
  unfold delete
  cases c.cls <;> simp [exec_instrumented]

end AS3RestClient
end OctaviaF5
