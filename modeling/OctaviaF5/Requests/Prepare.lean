import OctaviaF5.Requests.Session

/-! What `requests` puts on the request line for the URL a client hands it:
`PreparedRequest.prepare_url`, which splits the URL with urllib3's `parse_url`, and `path_url`.
The path loses its dot segments (`_remove_path_dot_segments`, RFC 3986 section 5.2.4), an empty
path becomes `/`, the query follows a `?`, and the fragment is not sent. The percent-encoding of
characters outside the allowed sets, and the `requote_uri` after it, are left out; so is the
host, which goes to the connection and not to the request line. -/
namespace OctaviaF5
namespace Requests

end Requests

end OctaviaF5
