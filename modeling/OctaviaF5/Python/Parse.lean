import OctaviaF5.Python.Exceptions

/-! `urllib.parse` as the client and its debug hook use it, after CPython 3.8: `urlsplit`,
`urlparse`, `urlunsplit`, `urlunparse` and the `hostname` property. The text is a character
list; `_checknetloc`'s NFKC test of non-ASCII netlocs and Unicode case mapping beyond ASCII
are left out. -/
namespace OctaviaF5
namespace Parse

/-- Characters `_splitnetloc` stops at. -/
def isDelim (c : Char) : Bool := c = '/' || c = '?' || c = '#'

/-- `scheme_chars`. -/
def schemeChars : List Char :=
  "abcdefghijklmnopqrstuvwxyzABCDEFGHIJKLMNOPQRSTUVWXYZ0123456789+-.".data

/-- Schemes of `uses_netloc` that the client can meet. -/
def usesNetloc : List String :=
  ["", "ftp", "http", "gopher", "nntp", "telnet", "imap", "wais", "file", "mms", "https",
    "shttp", "snews", "prospero", "rtsp", "rtspu", "rsync", "svn", "svn+ssh", "sftp", "nfs",
    "git", "git+ssh", "ws", "wss"]

/-- `uses_params`. -/
def usesParams : List String :=
  ["", "ftp", "hdl", "prospero", "http", "imap", "https", "shttp", "rtsp", "rtspu", "sip",
    "sips", "mms", "sftp", "tel"]

/-- `s.split(c, 1)` when `c in s`, and `(s, '')` otherwise. -/
def splitOnce (c : Char) (s : List Char) : List Char × List Char :=
  match s.span (· ≠ c) with
  | (pre, _ :: post) => (pre, post)
  | (pre, []) => (pre, [])

/-- The test `urlsplit` raises `Invalid IPv6 URL` on. -/
def bracketsOk (netloc : List Char) : Bool :=
  !(('[' ∈ netloc && ']' ∉ netloc) || (']' ∈ netloc && '[' ∉ netloc))

/-- The fields of a `SplitResult`. -/
structure SplitResult where
  scheme : String
  netloc : String
  path : String
  query : String
  fragment : String
  deriving Repr, DecidableEq

/-- The scheme `urlsplit` recognises before the first `:`, and the text after it. -/
def splitScheme (u : List Char) : List Char × List Char :=
  match u.span (· ≠ ':') with
  | (pre, _ :: post) =>
    if pre = "http".data then (pre, post)
    else if pre ≠ [] ∧ pre.all (· ∈ schemeChars) ∧ (post = [] ∨ post.any fun c => !c.isDigit) then
      (pre.map Char.toLower, post)
    else ([], u)
  | (_, []) => ([], u)

/-- Path, query and fragment of what follows the netloc. -/
def splitRest (allowFragments : Bool) (r : List Char) : List Char × List Char × List Char :=
  let (r, fragment) := if allowFragments then splitOnce '#' r else (r, [])
  let (path, query) := splitOnce '?' r
  (path, query, fragment)

/-- `urlsplit(url, allow_fragments=...)`. -/
def urlsplit (url : String) (allowFragments : Bool := true) : Except PyError SplitResult :=
  let (scheme, r) := splitScheme url.data
  let (netloc, r) := match r with
    | '/' :: '/' :: r => r.span (fun c => !isDelim c)
    | r => ([], r)
  if bracketsOk netloc then
    let (path, query, fragment) := splitRest allowFragments r
    .ok ⟨⟨scheme⟩, ⟨netloc⟩, ⟨path⟩, ⟨query⟩, ⟨fragment⟩⟩
  else .error (.valueError "Invalid IPv6 URL")

/-- `urlunsplit`: `//netloc` is written for a netloc or a scheme of `uses_netloc`. -/
def urlunsplit (u : SplitResult) : String :=
  let path :=
    if u.netloc ≠ "" ∨ (u.scheme ≠ "" ∧ u.scheme ∈ usesNetloc ∧ u.path.data.take 2 ≠ ['/', '/'])
    then
      "//" ++ u.netloc ++
        (if u.path ≠ "" ∧ u.path.data.head? ≠ some '/' then "/" ++ u.path else u.path)
    else u.path
  let url := if u.scheme ≠ "" then u.scheme ++ ":" ++ path else path
  let url := if u.query ≠ "" then url ++ "?" ++ u.query else url
  if u.fragment ≠ "" then url ++ "#" ++ u.fragment else url

/-- `_splitparams`: parameters after the first `;` of the last path segment. -/
def splitParams (path : List Char) : List Char × List Char :=
  if '/' ∈ path then
    let seg := (path.reverse.span (· ≠ '/')).1.reverse
    let (segPre, params) := splitOnce ';' seg
    if ';' ∈ seg then ((path.take (path.length - seg.length)) ++ segPre, params) else (path, [])
  else splitOnce ';' path

/-- The fields of a `ParseResult`: a `SplitResult` and the path parameters. -/
structure ParseResult extends SplitResult where
  params : String

/-- `urlparse(url)`. -/
def urlparse (url : String) : Except PyError ParseResult := do
  let s ← urlsplit url
  if s.scheme ∈ usesParams ∧ ';' ∈ s.path.data then
    let (path, params) := splitParams s.path.data
    pure ⟨{ s with path := ⟨path⟩ }, ⟨params⟩⟩
  else pure ⟨s, ""⟩

/-- `urlunparse`, which `ParseResult.geturl` is. -/
def urlunparse (u : ParseResult) : String :=
  urlunsplit { u.toSplitResult with
    path := if u.params ≠ "" then u.path ++ ";" ++ u.params else u.path }

/-- What `hostname` reads: the text after the last `@`, whose host part it returns. -/
def hostinfo (netloc : List Char) : List Char := (netloc.reverse.span (· ≠ '@')).1.reverse

/-- The `hostname` property: the host of `_hostinfo`, lower-cased up to a `%` zone;
`none` when it is empty. -/
def hostname (netloc : String) : Option String :=
  let h := hostinfo netloc.data
  let host := match h.span (· ≠ '[') with
    | (_, _ :: bracketed) => (bracketed.span (· ≠ ']')).1
    | (_, []) => (h.span (· ≠ ':')).1
  if host = [] then none
  else
    let (pre, zone) := host.span (· ≠ '%')
    some ⟨pre.map Char.toLower ++ zone⟩

/-- The URL text with credentials removed, as the debug hook logs it:
`urlparse(url)._replace(netloc=url.hostname).geturl()`. -/
def redactedUrl (url : String) : Except PyError String := do
  let u ← urlparse url
  pure (urlunparse { u with netloc := (hostname u.netloc).getD "" })

/-- `requests`' `prepare_url` with `params`: the encoded parameters join the query. -/
def withQuery (url params : String) : Except PyError String := do
  let u ← urlsplit url
  pure (urlunsplit { u with query := if u.query = "" then params else u.query ++ "&" ++ params })

/-! The parsers raise only on unbalanced brackets in the netloc. -/

theorem urlsplit_error {url : String} {b : Bool} {e : PyError} (h : urlsplit url b = .error e) :
    e = .valueError "Invalid IPv6 URL" := by
  unfold urlsplit at h
  repeat' split at h
  all_goals cases h
  rfl

theorem redactedUrl_error {url : String} {e : PyError} (h : redactedUrl url = .error e) :
    e = .valueError "Invalid IPv6 URL" := by
  simp only [redactedUrl, urlparse, bind, Except.bind] at h
  rcases hs : urlsplit url with e' | s <;> rw [hs] at h
  · cases h
    exact urlsplit_error hs
  · dsimp only at h
    split_ifs at h <;> cases h

theorem withQuery_error {url params : String} {e : PyError} (h : withQuery url params = .error e) :
    e = .valueError "Invalid IPv6 URL" := by
  simp only [withQuery, bind, Except.bind] at h
  rcases hs : urlsplit url with e' | s <;> rw [hs] at h <;> cases h
  exact urlsplit_error hs

/-! ### URLs of a web scheme and a plain netloc -/

/-- `scheme://netloc` followed by `rest`. -/
def web (scheme : String) (netloc rest : List Char) : String :=
  ⟨scheme.data ++ ':' :: '/' :: '/' :: (netloc ++ rest)⟩

theorem web_append (scheme : String) (netloc rest : List Char) (s : String) :
    web scheme netloc rest ++ s = web scheme netloc (rest ++ s.data) := by
  simp [web, String.ext_iff]

theorem span_append_of_stop {p : Char → Bool} {pre rest : List Char}
    (hpre : ∀ c ∈ pre, p c = true) (hrest : ∀ c ∈ rest.head?, p c = false) :
    (pre ++ rest).span p = (pre, rest) := by
  rw [List.span_eq_take_drop, List.takeWhile_append_of_pos hpre, List.dropWhile_append_of_pos hpre]
  cases rest with
  | nil => simp
  | cons c rest =>
    have hc : ¬p c = true := by simp [hrest c rfl]
    rw [List.takeWhile_cons_of_neg hc, List.dropWhile_cons_of_neg hc, List.append_nil]

/-- A path that begins with exactly one `/`. -/
def PathStart (r : List Char) : Prop := ∃ rest, r = '/' :: rest ∧ rest.head? ≠ some '/'

/-- A netloc `urlsplit` can return: no delimiters, brackets paired. -/
structure PlainNetloc (n : List Char) : Prop where
  no_delim : ∀ c ∈ n, isDelim c = false
  brackets : bracketsOk n = true

theorem splitScheme_web {s : String} (hs : s = "http" ∨ s = "https") (r : List Char) :
    splitScheme (s.data ++ ':' :: '/' :: r) = (s.data, '/' :: r) := by
  rcases hs with rfl | rfl
  · rw [splitScheme, span_append_of_stop (by decide) (by simp)]
    rfl
  · rw [splitScheme, span_append_of_stop (by decide) (by simp)]
    dsimp only
    rw [if_neg (by decide), if_pos ⟨by decide, by decide, .inr (by simp)⟩]
    rfl

theorem urlsplit_web {s : String} (hs : s = "http" ∨ s = "https") {n r : List Char}
    (hn : PlainNetloc n) (hr : PathStart r) :
    urlsplit (web s n r) =
      .ok ⟨s, ⟨n⟩, ⟨(splitRest true r).1⟩, ⟨(splitRest true r).2.1⟩, ⟨(splitRest true r).2.2⟩⟩ := by
  obtain ⟨rest, rfl, -⟩ := hr
  have hspan : (n ++ '/' :: rest).span (fun c => !isDelim c) = (n, '/' :: rest) :=
    span_append_of_stop (by simpa using hn.no_delim) (by simp [isDelim])
  simp only [urlsplit, web, List.cons_append, splitScheme_web hs, List.append_assoc, hspan,
    hn.brackets]
  rfl

/-- What `urlunsplit` writes after the netloc. -/
def restOf (path query fragment : List Char) : List Char :=
  path ++ (if query = [] then [] else '?' :: query) ++
    (if fragment = [] then [] else '#' :: fragment)

theorem urlunsplit_web {s : String} (hs : s = "http" ∨ s = "https") (n : List Char)
    {p : List Char} (hp : PathStart p) (q f : List Char) :
    urlunsplit ⟨s, ⟨n⟩, ⟨p⟩, ⟨q⟩, ⟨f⟩⟩ = web s n (restOf p q f) := by
  obtain ⟨rest, rfl, hrest⟩ := hp
  have hs' : s.data ≠ [] := by rcases hs with rfl | rfl <;> simp
  have hweb : s ∈ usesNetloc := by rcases hs with rfl | rfl <;> simp [usesNetloc]
  have htake : ¬rest.take 1 = ['/'] := by
    cases rest with
    | nil => simp
    | cons c rest => simpa using hrest
  by_cases hq : q = [] <;> by_cases hf : f = [] <;>
    simp [urlunsplit, web, restOf, String.ext_iff, hs', hweb, htake, hq, hf]

theorem pathStart_takeWhile {p : Char → Bool} (hp : p '/' = true) {r : List Char}
    (hr : PathStart r) : PathStart (r.takeWhile p) := by
  obtain ⟨rest, rfl, hrest⟩ := hr
  refine ⟨rest.takeWhile p, by simp [List.takeWhile_cons, hp], ?_⟩
  cases rest with
  | nil => simp
  | cons c rest => by_cases hc : p c <;> simp_all [List.takeWhile_cons]

theorem splitOnce_fst (c : Char) (s : List Char) : (splitOnce c s).1 = s.takeWhile (· ≠ c) := by
  unfold splitOnce
  split <;> simp_all [List.span_eq_take_drop]

theorem pathStart_splitRest {r : List Char} (hr : PathStart r) :
    PathStart (splitRest true r).1 := by
  simp only [splitRest, if_true, splitOnce_fst]
  exact pathStart_takeWhile (by decide) (pathStart_takeWhile (by decide) hr)

theorem pathStart_restOf {p : List Char} (hp : PathStart p) (q f : List Char) :
    PathStart (restOf p q f) := by
  obtain ⟨rest, rfl, hrest⟩ := hp
  refine ⟨rest ++ (if q = [] then [] else '?' :: q) ++ (if f = [] then [] else '#' :: f),
    by simp [restOf], ?_⟩
  cases rest with
  | nil => by_cases hq : q = [] <;> by_cases hf : f = [] <;> simp [hq, hf]
  | cons c rest => simpa using hrest

/-- The text after the netloc once `requests` has added `params` to the query. -/
def restWithQuery (r params : List Char) : List Char :=
  restOf (splitRest true r).1
    (if (splitRest true r).2.1 = [] then params else (splitRest true r).2.1 ++ '&' :: params)
    (splitRest true r).2.2

theorem pathStart_restWithQuery {r : List Char} (hr : PathStart r) (params : List Char) :
    PathStart (restWithQuery r params) :=
  pathStart_restOf (pathStart_splitRest hr) _ _

theorem prefix_takeWhile {p : Char → Bool} {pre r : List Char} (hp : ∀ c ∈ pre, p c = true)
    (h : pre <+: r) : pre <+: r.takeWhile p := by
  obtain ⟨t, rfl⟩ := h
  rw [List.takeWhile_append_of_pos hp]
  exact List.prefix_append _ _

/-- A prefix of the text after the netloc without `?` and `#` is still a prefix once `requests`
has added parameters to the query. -/
theorem prefix_restWithQuery {pre r : List Char} (hp : ∀ c ∈ pre, c ≠ '?' ∧ c ≠ '#')
    (h : pre <+: r) (params : List Char) : pre <+: restWithQuery r params := by
  have hpath : pre <+: (splitRest true r).1 := by
    simp only [splitRest, if_true, splitOnce_fst]
    exact prefix_takeWhile (fun c hc => by simpa using (hp c hc).1)
      (prefix_takeWhile (fun c hc => by simpa using (hp c hc).2) h)
  rw [restWithQuery, restOf, List.append_assoc]
  exact hpath.trans (List.prefix_append _ _)

/-- Adding parameters to such a URL keeps its scheme and netloc and rewrites only the rest. -/
theorem withQuery_web {s : String} (hs : s = "http" ∨ s = "https") {n r : List Char}
    (hn : PlainNetloc n) (hr : PathStart r) (params : String) :
    withQuery (web s n r) params = .ok (web s n (restWithQuery r params.data)) := by
  have hq : (if (⟨(splitRest true r).2.1⟩ : String) = "" then params
      else ⟨(splitRest true r).2.1⟩ ++ "&" ++ params) =
      ⟨if (splitRest true r).2.1 = [] then params.data
        else (splitRest true r).2.1 ++ '&' :: params.data⟩ := by
    split_ifs <;> simp_all [String.ext_iff]
  simp only [withQuery, urlsplit_web hs hn hr, bind, Except.bind, pure, Except.pure]
  rw [hq, urlunsplit_web hs n (pathStart_splitRest hr)]
  rfl

/-- `hostname` reads only what follows the last `@`. -/
theorem hostname_congr {n₁ n₂ : String} (h : hostinfo n₁.data = hostinfo n₂.data) :
    hostname n₁ = hostname n₂ := by
  simp only [hostname, h]

/-- Two URLs of a web scheme with the same text after the netloc, whose netlocs differ at most
in the credentials before the last `@`. -/
def TwinUrl (u₁ u₂ : String) : Prop :=
  ∃ s n₁ n₂ r, (s = "http" ∨ s = "https") ∧ PlainNetloc n₁ ∧ PlainNetloc n₂ ∧
    hostinfo n₁ = hostinfo n₂ ∧ PathStart r ∧ u₁ = web s n₁ r ∧ u₂ = web s n₂ r

namespace TwinUrl

theorem withQuery {u₁ u₂ : String} (h : TwinUrl u₁ u₂) (params : String) :
    ∃ v₁ v₂, Parse.withQuery u₁ params = .ok v₁ ∧ Parse.withQuery u₂ params = .ok v₂ ∧
      TwinUrl v₁ v₂ := by
  obtain ⟨s, n₁, n₂, r, hs, h₁, h₂, hinfo, hr, rfl, rfl⟩ := h
  exact ⟨_, _, withQuery_web hs h₁ hr params, withQuery_web hs h₂ hr params,
    s, n₁, n₂, _, hs, h₁, h₂, hinfo, pathStart_restWithQuery hr _, rfl, rfl⟩

end TwinUrl

end Parse
end OctaviaF5
