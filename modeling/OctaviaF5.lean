import OctaviaF5.Python.Exceptions
import OctaviaF5.Python.Json
import OctaviaF5.Python.JsonDumps
import OctaviaF5.Python.Parse
import OctaviaF5.Requests.Session
import OctaviaF5.Requests.Prepare
import OctaviaF5.Requests.Effects
import OctaviaF5.Requests.Related
import OctaviaF5.Restclient.Bigip
import OctaviaF5.Restclient.LogResponse
import OctaviaF5.Restclient.AS3RestClient
import OctaviaF5.Restclient.Transport
import OctaviaF5.Restclient.TaskPolling
import OctaviaF5.Restclient.TaskWatcher
import OctaviaF5.Restclient.Submission
import OctaviaF5.Restclient.Delete
import OctaviaF5.Restclient.AsyncPost
import OctaviaF5.Restclient.Operations
import OctaviaF5.Restclient.Runs
import OctaviaF5.Restclient.Noninterference
import OctaviaF5.AS3Objects.Tls
