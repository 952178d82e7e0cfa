import OctaviaF5.Python.Json

/-! The TLS profiles of a listener and of a pool (as3objects/tls.py), with the options of
config.py they read. `service_args` is a dict filled by assignments to fresh keys, so it is the
list of its items in insertion order; `TLS_Server(**service_args)` and
`TLS_Client(**service_args)` keep them as their properties. -/
namespace OctaviaF5
namespace Tls

/-! ### Inputs -/

/-- The options of the group `f5_tls_server` that `get_tls_server` reads, with the defaults of
config.py; `none` is an option set to `None`. -/
structure ServerOpts where
  forwardProxyBypass : Option Bool := some false
  forwardProxy : Option Bool := some false
  insertEmptyFragments : Option Bool := some false
  singleUseDh : Option Bool := some false
  cacheCertificate : Option Bool := some false
  staplerOcsp : Option Bool := some false

/-- The options of the group `f5_tls_client` that `get_tls_client` reads. -/
structure ClientOpts where
  defaultCiphers : Option String := none
  forwardProxyBypass : Option Bool := some false
  forwardProxy : Option Bool := some false
  insertEmptyFragments : Option Bool := some false
  singleUseDh : Option Bool := some false

/-- The fields of an octavia listener that `get_tls_server` reads. -/
structure Listener where
  tlsCiphers : Option String
  clientAuthentication : String
  tlsVersions : List String

/-- The field of an octavia pool that `get_tls_client` reads. -/
structure Pool where
  tlsVersions : List String

/-- `octavia_lib.common.constants.SSL_VERSION_3`. -/
def sslVersion3 : String := "SSLv3"

/-- `octavia_lib.common.constants.TLS_VERSION_1`. -/
def tlsVersion1 : String := "TLSv1"

/-- `octavia_lib.common.constants.TLS_VERSION_1_1`. -/
def tlsVersion1_1 : String := "TLSv1.1"

/-- `octavia_lib.common.constants.TLS_VERSION_1_2`. -/
def tlsVersion1_2 : String := "TLSv1.2"

/-- `octavia_lib.common.constants.TLS_VERSION_1_3`. -/
def tlsVersion1_3 : String := "TLSv1.3"

/-! ### `service_args` -/

/-- `service_args.get(key)`. -/
def get (args : List (String × JsonValue)) (key : String) : Option JsonValue :=
  (args.find? (·.1 == key)).map (·.2)

/-- `if value is not None: service_args[key] = value`. -/
def setIfNotNone (args : List (String × JsonValue)) (key : String) :
    Option Bool → List (String × JsonValue)
  | some b => args ++ [(key, .bool b)]
  | none => args

/-- `if value: service_args.update(items(value))`, for a value that is a string or `None`. -/
def setIfTruthy (args : List (String × JsonValue)) (items : String → List (String × JsonValue)) :
    Option String → List (String × JsonValue)
  | some s => if s ≠ "" then args ++ items s else args
  | none => args

/-- The toggles of `get_tls_server`, in source order: the property and the option it copies. -/
def serverToggles : List (String × (ServerOpts → Option Bool)) :=
  [("forwardProxyBypassEnabled", (·.forwardProxyBypass)), ("forwardProxyEnabled", (·.forwardProxy)),
    ("insertEmptyFragmentsEnabled", (·.insertEmptyFragments)),
    ("singleUseDhEnabled", (·.singleUseDh)), ("cacheCertificateEnabled", (·.cacheCertificate)),
    ("staplerOCSPEnabled", (·.staplerOcsp))]

/-- The toggles of `get_tls_client`, in source order. -/
def clientToggles : List (String × (ClientOpts → Option Bool)) :=
  [("forwardProxyBypassEnabled", (·.forwardProxyBypass)), ("forwardProxyEnabled", (·.forwardProxy)),
    ("insertEmptyFragmentsEnabled", (·.insertEmptyFragments)),
    ("singleUseDhEnabled", (·.singleUseDh))]

/-- The version flags, in source order: the property and the version whose presence it says. -/
def versionFlags : List (String × String) :=
  [("ssl3Enabled", sslVersion3), ("tls1_0Enabled", tlsVersion1), ("tls1_1Enabled", tlsVersion1_1),
    ("tls1_2Enabled", tlsVersion1_2), ("tls1_3Enabled", tlsVersion1_3)]

/-- The toggles, each set when its option is not `None`. -/
def setToggles {σ : Type} (toggles : List (String × (σ → Option Bool))) (opts : σ)
    (args : List (String × JsonValue)) : List (String × JsonValue) :=
  toggles.foldl (fun args t => setIfNotNone args t.1 (t.2 opts)) args

/-- `service_args['ssl3Enabled'] = lib_consts.SSL_VERSION_3 in tls_versions`, and so on. -/
def setVersions (tlsVersions : List String) (args : List (String × JsonValue)) :
    List (String × JsonValue) :=
  args ++ versionFlags.map fun f => (f.1, .bool (decide (f.2 ∈ tlsVersions)))

@[simp] theorem get_nil (key : String) : get [] key = none := rfl

theorem get_cons (k key : String) (v : JsonValue) (args : List (String × JsonValue)) :
    get ((k, v) :: args) key = if k = key then some v else get args key := by
  by_cases h : k = key <;> simp [get, h]

theorem get_append (xs ys : List (String × JsonValue)) (key : String) :
    get (xs ++ ys) key = (get xs key).or (get ys key) := by
  simp only [get, List.find?_append]
  cases xs.find? (·.1 == key) <;> rfl

theorem get_eq_none {args : List (String × JsonValue)} {key : String}
    (h : key ∉ args.map Prod.fst) : get args key = none := by
  induction args with
  | nil => rfl
  | cons a args ih =>
    simp only [List.map_cons, List.mem_cons, not_or] at h
    rw [get_cons, if_neg (Ne.symm h.1), ih h.2]

theorem get_append_of_not_mem_left {xs : List (String × JsonValue)} {key : String}
    (h : key ∉ xs.map Prod.fst) (ys : List (String × JsonValue)) :
    get (xs ++ ys) key = get ys key := by
  rw [get_append, get_eq_none h, Option.none_or]

theorem get_append_of_not_mem_right (xs : List (String × JsonValue))
    {ys : List (String × JsonValue)}
    {key : String} (h : key ∉ ys.map Prod.fst) : get (xs ++ ys) key = get xs key := by
  rw [get_append, get_eq_none h, Option.or_none]

theorem mem_keys_filterMap {τ : Type} {value : τ → Option JsonValue} {entries : List (String × τ)}
    {key : String} (h : key ∈ (entries.filterMap fun e => (value e.2).map fun v => (e.1, v)).map
      Prod.fst) : key ∈ entries.map Prod.fst := by
  simp only [List.mem_map, List.mem_filterMap, Option.map_eq_some'] at h ⊢
  obtain ⟨_, ⟨e, he, v, -, rfl⟩, rfl⟩ := h
  exact ⟨e, he, rfl⟩

/-- The entries of a table whose keys are distinct, each kept when its value is present: the
key of an entry reads that entry's value. -/
theorem get_filterMap {τ : Type} (value : τ → Option JsonValue) :
    ∀ {entries : List (String × τ)}, (entries.map Prod.fst).Nodup → ∀ {key : String} {t : τ},
      (key, t) ∈ entries →
        get (entries.filterMap fun e => (value e.2).map fun v => (e.1, v)) key = value t
  | [], _, _, _, h => absurd h (List.not_mem_nil _)
  | (k, t') :: es, hnd, key, t, hmem => by
    rw [List.map_cons, List.nodup_cons] at hnd
    rcases List.mem_cons.mp hmem with heq | hmem
    · obtain ⟨rfl, rfl⟩ := Prod.mk.inj heq
      have hnot := fun h => hnd.1 (@mem_keys_filterMap _ value _ _ h)
      cases hv : value t <;> simp [List.filterMap_cons, hv, get_cons, get_eq_none hnot]
    · have hne : k ≠ key := by
        rintro rfl
        exact hnd.1 (List.mem_map.mpr ⟨_, hmem, rfl⟩)
      cases hv : value t' <;>
        simp [List.filterMap_cons, hv, get_cons, hne, get_filterMap value hnd.2 hmem]

theorem get_map {τ : Type} (value : τ → JsonValue) {entries : List (String × τ)}
    (hnd : (entries.map Prod.fst).Nodup) {key : String} {t : τ} (hmem : (key, t) ∈ entries) :
    get (entries.map fun e => (e.1, value e.2)) key = some (value t) := by
  rw [← List.filterMap_eq_map]
  exact get_filterMap (some ∘ value) hnd hmem

theorem setToggles_eq {σ : Type} (opts : σ) :
    ∀ (toggles : List (String × (σ → Option Bool))) (args : List (String × JsonValue)),
      setToggles toggles opts args =
        args ++ toggles.filterMap fun t => ((t.2 opts).map JsonValue.bool).map fun v => (t.1, v)
  | [], args => by simp [setToggles]
  | t :: ts, args => by
    show setToggles ts opts (setIfNotNone args t.1 (t.2 opts)) = _
    rw [setToggles_eq opts ts, List.filterMap_cons]
    cases t.2 opts <;> simp [setIfNotNone]

theorem setIfTruthy_eq (args : List (String × JsonValue))
    (items : String → List (String × JsonValue))
    (value : Option String) :
    setIfTruthy args items value = args ++ ((value.filter (· ≠ "")).map items).getD [] := by
  cases value with
  | none => simp [setIfTruthy]
  | some s => by_cases h : s = "" <;> simp [setIfTruthy, Option.filter, h]

/-! ### The profiles -/

/-- `mode_map`. -/
def modeMap : List (String × String) :=
  [("NONE", "ignore"), ("OPTIONAL", "request"), ("MANDATORY", "require")]

/-- `mode_map[mode]`. -/
def authenticationMode (mode : String) : Except PyError String :=
  match modeMap.lookup mode with
  | some m => .ok m
  | none => .error (.keyError mode)

/-- `{'certificate': cert_id}`. -/
def certificateEntry (c : String) : JsonValue := .obj [("certificate", .str c)]

/-- `as3classes.TLS_Server(**kwargs)`: its keyword arguments, as properties. -/
structure TlsServer where
  props : List (String × JsonValue)

/-- `as3classes.TLS_Client(**kwargs)`. -/
structure TlsClient where
  props : List (String × JsonValue)

/-- `as3classes.Pointer(name)`: the AS3 reference `{"use": name}`. -/
def pointer (name : String) : JsonValue := .obj [("use", .str name)]

/-- Lines 56-59: the certificates of `set(certificate_ids)` and the listener's ciphers. The
iteration order of the set is the one `List.dedup` gives; no theorem depends on it. -/
def serverArgs (certificateIds : List String) (listener : Listener) : List (String × JsonValue) :=
  [("certificates", .arr (certificateIds.dedup.map certificateEntry)),
    ("ciphers", listener.tlsCiphers.elim .null .str)]

/-- Lines 61-64: `if authentication_ca:` the CA and the mode of client authentication. -/
def setAuthentication (args : List (String × JsonValue)) (listener : Listener) :
    Option String → Except PyError (List (String × JsonValue))
  | some ca =>
    if ca ≠ "" then do
      let mode ← authenticationMode listener.clientAuthentication
      pure (args ++ [("authenticationTrustCA", .str ca), ("authenticationInviteCA", .str ca),
        ("authenticationMode", .str mode)])
    else pure args
  | none => pure args

/-- `get_tls_server(certificate_ids, listener, authentication_ca)`. -/
def getTlsServer (opts : ServerOpts) (certificateIds : List String) (listener : Listener)
    (authenticationCa : Option String := none) : Except PyError TlsServer := do
  let args ← setAuthentication (serverArgs certificateIds listener) listener authenticationCa
  pure ⟨setVersions listener.tlsVersions (setToggles serverToggles opts args)⟩

/-- `get_tls_client(pool, trust_ca, client_cert, crl_file)`. -/
def getTlsClient (opts : ClientOpts) (pool : Pool) (trustCa clientCert crlFile : Option String) :
    TlsClient :=
  let args := setIfTruthy []
    (fun ca => [("trustCA", pointer ca), ("validateCertificate", .bool true)])
    trustCa
  let args := setIfTruthy args (fun cert => [("clientCertificate", .str cert)]) clientCert
  let args := setIfTruthy args (fun crl => [("crlFile", .str crl)]) crlFile
  let args := setIfTruthy args (fun ciphers => [("ciphers", .str ciphers)]) opts.defaultCiphers
  ⟨setVersions pool.tlsVersions (setToggles clientToggles opts args)⟩

/-! ### What the profiles hold -/

/-- The keys `setAuthentication` adds. -/
def authKeys : List String :=
  ["authenticationTrustCA", "authenticationInviteCA", "authenticationMode"]

theorem setAuthentication_ok {args : List (String × JsonValue)} {listener : Listener}
    {ca : Option String} {out : List (String × JsonValue)}
    (h : setAuthentication args listener ca = .ok out) :
    ∃ auth, out = args ++ auth ∧ ∀ k ∈ auth.map Prod.fst, k ∈ authKeys := by
  cases ca with
  | none => exact ⟨[], by cases h; simp, by simp⟩
  | some ca =>
    simp only [setAuthentication] at h
    split_ifs at h
    · rcases hm : authenticationMode listener.clientAuthentication with e | mode <;> rw [hm] at h
      · cases h
      · cases h
        exact ⟨_, rfl, by simp [authKeys]⟩
    · exact ⟨[], by cases h; simp, by simp⟩

theorem getTlsServer_props {opts : ServerOpts} {certificateIds : List String}
    {listener : Listener} {ca : Option String} {s : TlsServer}
    (h : getTlsServer opts certificateIds listener ca = .ok s) :
    ∃ auth, (∀ k ∈ auth.map Prod.fst, k ∈ authKeys) ∧ s.props = setVersions listener.tlsVersions
      (setToggles serverToggles opts (serverArgs certificateIds listener ++ auth)) := by
  simp only [getTlsServer, bind, Except.bind] at h
  rcases ha : setAuthentication (serverArgs certificateIds listener) listener ca with e | out <;>
    rw [ha] at h
  · cases h
  · cases h
    obtain ⟨auth, rfl, hauth⟩ := setAuthentication_ok ha
    exact ⟨auth, hauth, rfl⟩

/-- The certificates of the profile: one entry `{'certificate': c}` for each distinct `c` of
`certificate_ids`, and no other. -/
theorem getTlsServer_certificates {opts : ServerOpts} {certificateIds : List String}
    {listener : Listener} {ca : Option String} {s : TlsServer}
    (h : getTlsServer opts certificateIds listener ca = .ok s) :
    ∃ cs : List String,
      get s.props "certificates" = some (.arr (cs.map fun c => .obj [("certificate", .str c)])) ∧
      ∀ c, cs.count c = if c ∈ certificateIds then 1 else 0 := by
  obtain ⟨auth, -, hs⟩ := getTlsServer_props h
  refine ⟨certificateIds.dedup, ?_, fun c => List.count_dedup _ _⟩
  rw [hs, setVersions, setToggles_eq]
  simp [serverArgs, get_cons, certificateEntry]

theorem getTlsServer_certificates_duplicates :
    ∃ s, getTlsServer {} ["a", "b", "a"] ⟨none, "NONE", []⟩ = .ok s ∧
      ∃ cs : List String,
        get s.props "certificates" = some (.arr (cs.map fun c => .obj [("certificate", .str c)])) ∧
        ∀ c, cs.count c = if c ∈ ["a", "b", "a"] then 1 else 0 :=
  have h : getTlsServer {} ["a", "b", "a"] ⟨none, "NONE", []⟩ = .ok ⟨_⟩ := rfl
  ⟨_, h, getTlsServer_certificates h⟩

theorem keys_versions (tlsVersions : List String) :
    (versionFlags.map fun f => (f.1, JsonValue.bool (decide (f.2 ∈ tlsVersions)))).map Prod.fst =
      versionFlags.map Prod.fst := by
  rw [List.map_map]
  rfl

/-- The toggles and the version flags of `args`, read from the profile they end: a toggle is
present exactly when its option is set, and a version flag says whether the version is
enabled. -/
theorem get_toggles_versions {σ : Type} {toggles : List (String × (σ → Option Bool))} {opts : σ}
    {tlsVersions : List String} {args : List (String × JsonValue)}
    (hnd : (toggles.map Prod.fst ++ versionFlags.map Prod.fst).Nodup)
    (hargs : ∀ k ∈ args.map Prod.fst, k ∉ toggles.map Prod.fst ++ versionFlags.map Prod.fst) :
    (∀ key opt, (key, opt) ∈ toggles →
      get (setVersions tlsVersions (setToggles toggles opts args)) key = (opt opts).map .bool) ∧
    ∀ key v, (key, v) ∈ versionFlags →
      get (setVersions tlsVersions (setToggles toggles opts args)) key =
        some (.bool (decide (v ∈ tlsVersions))) := by
  obtain ⟨hndt, hndv, hdisj⟩ := List.nodup_append.mp hnd
  rw [setVersions, setToggles_eq]
  refine ⟨fun key opt hmem => ?_, fun key v hmem => ?_⟩
  · have hk : key ∈ toggles.map Prod.fst := List.mem_map.mpr ⟨_, hmem, rfl⟩
    rw [get_append_of_not_mem_right _ (by rw [keys_versions]; exact fun hv => hdisj hk hv),
      get_append_of_not_mem_left (fun ha => hargs key ha (List.mem_append_left _ hk))]
    exact get_filterMap (fun opt => (opt opts).map JsonValue.bool) hndt hmem
  · have hk : key ∈ versionFlags.map Prod.fst := List.mem_map.mpr ⟨_, hmem, rfl⟩
    rw [get_append_of_not_mem_left]
    · exact get_map (fun v => JsonValue.bool (decide (v ∈ tlsVersions))) hndv hmem
    · simp only [List.map_append, List.mem_append, not_or]
      exact ⟨fun ha => hargs key ha (List.mem_append_right _ hk),
        fun ht =>
          hdisj (@mem_keys_filterMap _ (fun opt => (opt opts).map JsonValue.bool) _ _ ht) hk⟩

/-- Every toggle of the listener's profile is present exactly when its option is set, with the
option's value, and every version flag says whether the listener enables that version. -/
theorem getTlsServer_toggles_and_versions {opts : ServerOpts} {certificateIds : List String}
    {listener : Listener} {ca : Option String} {s : TlsServer}
    (h : getTlsServer opts certificateIds listener ca = .ok s) :
    (∀ key opt, (key, opt) ∈ serverToggles → get s.props key = (opt opts).map .bool) ∧
    ∀ key v, (key, v) ∈ versionFlags →
      get s.props key = some (.bool (decide (v ∈ listener.tlsVersions))) := by
  obtain ⟨auth, hauth, hs⟩ := getTlsServer_props h
  have hkeys : ∀ k ∈ ["certificates", "ciphers"] ++ authKeys,
      k ∉ serverToggles.map Prod.fst ++ versionFlags.map Prod.fst := by decide
  rw [hs]
  refine get_toggles_versions (by decide) fun k hk => hkeys k ?_
  simp only [serverArgs, List.map_append, List.mem_append] at hk ⊢
  rcases hk with hk | hk
  · exact .inl hk
  · exact .inr (hauth k hk)

theorem getTlsServer_toggles_and_versions_defaults :
    ∃ s, getTlsServer {} ["a"] ⟨some "DEFAULT", "NONE", ["TLSv1.2", "TLSv1.3"]⟩ = .ok s ∧
      (∀ key opt, (key, opt) ∈ serverToggles → get s.props key = (opt {}).map .bool) ∧
      ∀ key v, (key, v) ∈ versionFlags →
        get s.props key = some (.bool (decide (v ∈ ["TLSv1.2", "TLSv1.3"]))) :=
  have h : getTlsServer {} ["a"] ⟨some "DEFAULT", "NONE", ["TLSv1.2", "TLSv1.3"]⟩ = .ok ⟨_⟩ := rfl
  ⟨_, h, getTlsServer_toggles_and_versions h⟩

theorem setAuthentication_eq (args : List (String × JsonValue)) (listener : Listener)
    (ca : Option String) :
    setAuthentication args listener ca =
      match ca.filter (· ≠ "") with
      | none => .ok args
      | some c => (authenticationMode listener.clientAuthentication).map fun mode =>
        args ++ [("authenticationTrustCA", .str c), ("authenticationInviteCA", .str c),
          ("authenticationMode", .str mode)] := by
  cases ca with
  | none => rfl
  | some c =>
    by_cases h : c = ""
    · simp [setAuthentication, Option.filter, h, pure, Except.pure]
    · simp only [setAuthentication, Option.filter, h, ne_eq, not_false_eq_true, decide_True,
        if_true]
      cases authenticationMode listener.clientAuthentication <;> rfl

/-- A key of a table of pairs is one that `lookup` finds. -/
theorem mem_keys_iff_lookup_isSome {β : Type} (l : List (String × β)) (k : String) :
    k ∈ l.map Prod.fst ↔ (l.lookup k).isSome := by
  rw [← Option.ne_none_iff_isSome, Ne, List.lookup_eq_none_iff]
  simp only [List.mem_map, bne_iff_ne, ne_eq, not_forall, not_not]
  exact ⟨fun ⟨p, hp, hk⟩ => ⟨p, hp, hk.symm⟩, fun ⟨p, hp, hk⟩ => ⟨p, hp, hk.symm⟩⟩

theorem authenticationMode_eq (mode : String) :
    authenticationMode mode = match modeMap.lookup mode with
      | some m => .ok m
      | none => .error (.keyError mode) := rfl

theorem get_setVersions_setToggles {σ : Type} {toggles : List (String × (σ → Option Bool))}
    {key : String} (h : key ∉ toggles.map Prod.fst ++ versionFlags.map Prod.fst) (opts : σ)
    (tlsVersions : List String) (args : List (String × JsonValue)) :
    get (setVersions tlsVersions (setToggles toggles opts args)) key = get args key := by
  rw [List.mem_append, not_or] at h
  rw [setVersions, setToggles_eq, get_append_of_not_mem_right _ (by rw [keys_versions]; exact h.2),
    get_append_of_not_mem_right _ fun hk => h.1 (@mem_keys_filterMap _ (fun opt => (opt opts).map
      JsonValue.bool) _ _ hk)]

theorem get_optional (value : Option String) (items : String → List (String × JsonValue))
    (key : String) :
    get (((value.filter (· ≠ "")).map items).getD []) key =
      (value.filter (· ≠ "")).bind fun s => get (items s) key := by
  cases value.filter (· ≠ "") <;> rfl

theorem mem_keys_optional {value : Option String} {items : String → List (String × JsonValue)}
    {key : String} (h : key ∈ (((value.filter (· ≠ "")).map items).getD []).map Prod.fst) :
    ∃ s, key ∈ (items s).map Prod.fst := by
  revert h
  cases value.filter (· ≠ "") with
  | none => simp
  | some s => exact fun h => ⟨s, h⟩

/-- What the pool's profile holds: the trust CA, with `validateCertificate`, the client
certificate, the CRL and the default ciphers exactly when they are set and not empty; every
toggle exactly when its option is set; and the version flags of the pool. -/
theorem getTlsClient_fields (opts : ClientOpts) (pool : Pool)
    (trustCa clientCert crlFile : Option String) :
    let s := getTlsClient opts pool trustCa clientCert crlFile
    get s.props "trustCA" = (trustCa.filter (· ≠ "")).map pointer ∧
    get s.props "validateCertificate" =
      (trustCa.filter (· ≠ "")).map (fun _ => JsonValue.bool true) ∧
    get s.props "clientCertificate" = (clientCert.filter (· ≠ "")).map JsonValue.str ∧
    get s.props "crlFile" = (crlFile.filter (· ≠ "")).map JsonValue.str ∧
    get s.props "ciphers" = (opts.defaultCiphers.filter (· ≠ "")).map JsonValue.str ∧
    (∀ key opt, (key, opt) ∈ clientToggles → get s.props key = (opt opts).map .bool) ∧
    ∀ key v, (key, v) ∈ versionFlags →
      get s.props key = some (.bool (decide (v ∈ pool.tlsVersions))) := by
  have hkeys : ∀ k ∈ ["trustCA", "validateCertificate", "clientCertificate", "crlFile", "ciphers"],
      k ∉ clientToggles.map Prod.fst ++ versionFlags.map Prod.fst := by decide
  simp only [getTlsClient, setIfTruthy_eq, List.nil_append]
  refine ⟨?_, ?_, ?_, ?_, ?_, get_toggles_versions (by decide) fun k hk => hkeys k ?_⟩
  any_goals rw [get_setVersions_setToggles (hkeys _ (by simp)), get_append, get_append, get_append,
    get_optional, get_optional, get_optional, get_optional]
  any_goals simp [get_cons, Option.map_eq_bind]
  simp only [List.map_append, List.mem_append] at hk
  rcases hk with ((hk | hk) | hk) | hk <;> obtain ⟨_, hk⟩ := mem_keys_optional hk <;>
    simp only [List.map_cons, List.map_nil, List.mem_cons, List.not_mem_nil, or_false] at hk ⊢ <;>
    tauto

/-- With a non-empty authentication CA, the listener's profile names the CA as trust and invite
CA, and the mode that `mode_map` gives its `client_authentication`; a mode outside the map
raises `KeyError`. Without one, none of the three is present. -/
theorem getTlsServer_authentication (opts : ServerOpts) (certificateIds : List String)
    (listener : Listener) (ca : Option String) :
    ((∃ s, getTlsServer opts certificateIds listener ca = .ok s) ↔
      ∀ c ∈ ca.filter (· ≠ ""), listener.clientAuthentication ∈ modeMap.map Prod.fst) ∧
    (∀ e, getTlsServer opts certificateIds listener ca = .error e →
      e = .keyError listener.clientAuthentication) ∧
    ∀ s, getTlsServer opts certificateIds listener ca = .ok s →
      get s.props "authenticationTrustCA" = (ca.filter (· ≠ "")).map .str ∧
      get s.props "authenticationInviteCA" = (ca.filter (· ≠ "")).map .str ∧
      get s.props "authenticationMode" =
        (ca.filter (· ≠ "")).bind fun _ =>
          (modeMap.lookup listener.clientAuthentication).map .str := by
  have hkeys : ∀ k ∈ authKeys,
      k ∉ serverToggles.map Prod.fst ++ versionFlags.map Prod.fst ∧
        k ∉ ["certificates", "ciphers"] := by
    decide
  have hget : ∀ auth, ∀ k ∈ authKeys, get (setVersions listener.tlsVersions
      (setToggles serverToggles opts (serverArgs certificateIds listener ++ auth))) k =
        get auth k :=
    fun auth k hk => by
      rw [get_setVersions_setToggles (hkeys k hk).1, get_append_of_not_mem_left (hkeys k hk).2]
  simp only [getTlsServer, setAuthentication_eq, bind, Except.bind]
  cases ca.filter (· ≠ "") with
  | none =>
    refine ⟨by simp [pure, Except.pure], fun e he => (by cases he), fun s hs => ?_⟩
    cases hs
    simp only [Option.map_none', Option.none_bind]
    rw [← List.append_nil (serverArgs certificateIds listener), hget [] _ (by decide),
      hget [] _ (by decide), hget [] _ (by decide)]
    simp
  | some c =>
    rw [authenticationMode_eq, mem_keys_iff_lookup_isSome]
    cases modeMap.lookup listener.clientAuthentication with
    | none => exact ⟨by simp [Except.map], fun e he => (by cases he; rfl), fun s hs => by cases hs⟩
    | some m =>
      refine ⟨by simp [Except.map, pure, Except.pure], fun e he => (by cases he), fun s hs => ?_⟩
      cases hs
      rw [hget _ "authenticationTrustCA" (by decide), hget _ "authenticationInviteCA" (by decide),
        hget _ "authenticationMode" (by decide)]
      simp [get_cons]

/-! ### The keys of the profiles -/

theorem keys_filterMap_toggles {σ : Type} (opts : σ) :
    ∀ toggles : List (String × (σ → Option Bool)),
      (toggles.filterMap fun t => ((t.2 opts).map JsonValue.bool).map fun v => (t.1, v)).map
          Prod.fst = (toggles.filter fun t => (t.2 opts).isSome).map Prod.fst
  | [] => rfl
  | t :: ts => by
    rw [List.filterMap_cons, List.filter_cons]
    cases h : t.2 opts <;> simpa [h] using keys_filterMap_toggles opts ts

theorem keys_setVersions_setToggles {σ : Type} (toggles : List (String × (σ → Option Bool)))
    (opts : σ) (tlsVersions : List String) (args : List (String × JsonValue)) :
    (setVersions tlsVersions (setToggles toggles opts args)).map Prod.fst =
      args.map Prod.fst ++ (toggles.filter fun t => (t.2 opts).isSome).map Prod.fst ++
        versionFlags.map Prod.fst := by
  rw [setVersions, setToggles_eq, List.map_append, List.map_append, keys_versions,
    keys_filterMap_toggles]

theorem optional_keys_sublist {α : Type} (value : Option String) (keys : List α) :
    List.Sublist (((value.filter (· ≠ "")).map fun _ => keys).getD []) keys := by
  cases value.filter (· ≠ "") <;> simp

/-- The keys an optional part of a profile adds: those of its items when there is a value. -/
theorem keys_optional {α : Type} (value : Option α) (items : α → List (String × JsonValue)) :
    ((value.map items).getD []).map Prod.fst =
      (value.map fun s => (items s).map Prod.fst).getD [] := by
  cases value <;> rfl

/-- The keyword arguments of `TLS_Server`: the certificates, the ciphers (`null` when the
listener has none), the three authentication keys when there is a CA, the toggles whose options
are set and the five version flags, each once. -/
theorem getTlsServer_keys {opts : ServerOpts} {certificateIds : List String}
    {listener : Listener} {ca : Option String} {s : TlsServer}
    (h : getTlsServer opts certificateIds listener ca = .ok s) :
    s.props.map Prod.fst = ["certificates", "ciphers"] ++
        ((ca.filter (· ≠ "")).map fun _ => authKeys).getD [] ++
        (serverToggles.filter fun t => (t.2 opts).isSome).map Prod.fst ++
        versionFlags.map Prod.fst ∧
      (s.props.map Prod.fst).Nodup ∧
      get s.props "ciphers" = some (listener.tlsCiphers.elim .null .str) := by
  simp only [getTlsServer, setAuthentication_eq, bind, Except.bind] at h
  have hs : ∃ auth, s.props = setVersions listener.tlsVersions
      (setToggles serverToggles opts (serverArgs certificateIds listener ++ auth)) ∧
      auth.map Prod.fst = ((ca.filter (· ≠ "")).map fun _ => authKeys).getD [] := by
    revert h
    cases ca.filter (· ≠ "") with
    | none => rintro ⟨⟩; exact ⟨[], rfl, rfl⟩
    | some c =>
      cases authenticationMode listener.clientAuthentication with
      | error e => rintro ⟨⟩
      | ok m => rintro ⟨⟩; exact ⟨_, rfl, rfl⟩
  obtain ⟨auth, hprops, hauth⟩ := hs
  have hall : (["certificates", "ciphers"] ++ authKeys ++ serverToggles.map Prod.fst ++
      versionFlags.map Prod.fst).Nodup := by decide
  rw [hprops, keys_setVersions_setToggles, List.map_append, hauth]
  refine ⟨rfl, hall.sublist ?_, ?_⟩
  · exact (((List.Sublist.refl _).append (optional_keys_sublist _ _)).append
      ((List.filter_sublist _).map _)).append (List.Sublist.refl _)
  · rw [get_setVersions_setToggles (by decide), get_append]
    simp [serverArgs, get_cons]

theorem getTlsServer_keys_with_ca :
    ∃ s, getTlsServer {} ["a"] ⟨none, "MANDATORY", ["TLSv1.2"]⟩ (some "ca") = .ok s ∧
      s.props.map Prod.fst = ["certificates", "ciphers"] ++
          (((some "ca").filter (· ≠ "")).map fun _ => authKeys).getD [] ++
          (serverToggles.filter fun t => (t.2 ({} : ServerOpts)).isSome).map Prod.fst ++
          versionFlags.map Prod.fst ∧
        (s.props.map Prod.fst).Nodup ∧
        get s.props "ciphers" = some ((none : Option String).elim .null .str) :=
  have h : getTlsServer {} ["a"] ⟨none, "MANDATORY", ["TLSv1.2"]⟩ (some "ca") = .ok ⟨_⟩ := rfl
  ⟨_, h, getTlsServer_keys h⟩

/-- The keyword arguments of `TLS_Client`: `trustCA` and `validateCertificate` for a CA, the
client certificate, the CRL file and the default ciphers when they are non-empty, the toggles
whose options are set and the five version flags, each once. -/
theorem getTlsClient_keys (opts : ClientOpts) (pool : Pool)
    (trustCa clientCert crlFile : Option String) :
    (getTlsClient opts pool trustCa clientCert crlFile).props.map Prod.fst =
        ((trustCa.filter (· ≠ "")).map fun _ => ["trustCA", "validateCertificate"]).getD [] ++
        ((clientCert.filter (· ≠ "")).map fun _ => ["clientCertificate"]).getD [] ++
        ((crlFile.filter (· ≠ "")).map fun _ => ["crlFile"]).getD [] ++
        ((opts.defaultCiphers.filter (· ≠ "")).map fun _ => ["ciphers"]).getD [] ++
        (clientToggles.filter fun t => (t.2 opts).isSome).map Prod.fst ++
        versionFlags.map Prod.fst ∧
      ((getTlsClient opts pool trustCa clientCert crlFile).props.map Prod.fst).Nodup := by
  have hall : (["trustCA", "validateCertificate", "clientCertificate", "crlFile", "ciphers"] ++
      clientToggles.map Prod.fst ++ versionFlags.map Prod.fst).Nodup := by decide
  simp only [getTlsClient, setIfTruthy_eq, keys_setVersions_setToggles, List.map_append,
    List.nil_append, keys_optional, List.map_cons, List.map_nil, true_and]
  exact hall.sublist <|
    (((((optional_keys_sublist trustCa ["trustCA", "validateCertificate"]).append
      (optional_keys_sublist clientCert ["clientCertificate"])).append
      (optional_keys_sublist crlFile ["crlFile"])).append
      (optional_keys_sublist opts.defaultCiphers ["ciphers"])).append
      ((List.filter_sublist _).map _)).append (List.Sublist.refl _)

end Tls
end OctaviaF5
