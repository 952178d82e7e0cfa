import OctaviaF5.Requests.Session
import OctaviaF5.Python.Parse

/-! What `AS3RestClient` inherits from `BigIPRestClient` (octavia_f5.restclient.bigip.
bigip_restclient) and reads from `bigip_auth` (octavia_f5.restclient.bigip.bigip_auth), and the
`AS3` declarations of octavia_f5.restclient.as3classes that it sends. -/
namespace OctaviaF5
namespace Bigip

/-- `BigIPRestClient.__init__` keeps `parse.urlsplit(bigip_url)`. The
`bigip_urls` option admits the schemes `http` and `https`, and `urlsplit` returns a netloc
without delimiters whose brackets pair. The netloc may carry `user:password@` credentials. -/
structure Target where
  scheme : String
  netloc : String
  scheme_web : scheme = "http" ∨ scheme = "https"
  netloc_plain : Parse.PlainNetloc netloc.data

namespace Target

/-- `BigIPRestClient.get_url`: the path on the device. -/
def getUrl (t : Target) (path : String) : String :=
  Parse.urlunsplit ⟨t.scheme, t.netloc, path, "", ""⟩

/-- `BigIPRestClient.hostname`: the host of `bigip_url`. -/
def hostname (t : Target) : Option String := Parse.hostname t.netloc

/-- Two targets that differ at most in the credentials before the last `@` of the netloc. -/
def SameDevice (t₁ t₂ : Target) : Prop :=
  t₁.scheme = t₂.scheme ∧ Parse.hostinfo t₁.netloc.data = Parse.hostinfo t₂.netloc.data

/-- A path that begins with one `/` is appended to `scheme://netloc` as it is. -/
theorem getUrl_eq (t : Target) {path : String} (hp : Parse.PathStart path.data) :
    t.getUrl path = Parse.web t.scheme t.netloc.data path.data :=
  (Parse.urlunsplit_web t.scheme_web t.netloc.data hp [] []).trans (by simp [Parse.restOf])

/-- A path on two targets of the same device gives URLs that differ only in credentials. -/
theorem SameDevice.twinUrl {t₁ t₂ : Target} (h : t₁.SameDevice t₂) {r : List Char}
    (hr : Parse.PathStart r) :
    Parse.TwinUrl (Parse.web t₁.scheme t₁.netloc.data r) (Parse.web t₂.scheme t₂.netloc.data r) :=
  ⟨t₁.scheme, _, _, r, t₁.scheme_web, t₁.netloc_plain, t₂.netloc_plain, h.2, hr, rfl, by rw [h.1]⟩

end Target

/-- `bigip_auth.BIGIP_TOKEN_HEADER`: the iControl REST token header. -/
def bigipTokenHeader : String := "X-F5-Auth-Token"

end Bigip

/-- An `as3classes.AS3` declaration: its properties, in the order they were first set. -/
structure AS3 where
  props : List (String × JsonValue)

namespace AS3

/-- Setting a property overwrites it in place, or appends it. -/
def set (d : AS3) (key : String) (v : JsonValue) : AS3 :=
  if d.props.any (·.1 == key) then ⟨d.props.map fun p => if p.1 = key then (key, v) else p⟩
  else ⟨d.props ++ [(key, v)]⟩

theorem lookup_cons_ite (a k : String) (b : JsonValue) (l : List (String × JsonValue)) :
    ((a, b) :: l).lookup k = if k = a then some b else l.lookup k := by
  by_cases h : k = a
  · simp [List.lookup_cons, h]
  · simp [List.lookup_cons, h, (by simpa using h : (k == a) = false)]

theorem lookup_map_replace_ne (l : List (String × JsonValue)) {key k : String} (hk : k ≠ key)
    (v : JsonValue) :
    (l.map fun p => if p.1 = key then (key, v) else p).lookup k = l.lookup k := by
  induction l with
  | nil => rfl
  | cons p l ih =>
    obtain ⟨a, b⟩ := p
    by_cases ha : a = key
    · subst ha
      simp [hk, lookup_cons_ite, ih]
    · simp [ha, lookup_cons_ite, ih]

theorem lookup_map_replace_self (l : List (String × JsonValue)) {key : String}
    (h : l.any (·.1 == key) = true) (v : JsonValue) :
    (l.map fun p => if p.1 = key then (key, v) else p).lookup key = some v := by
  induction l with
  | nil => cases h
  | cons p l ih =>
    obtain ⟨a, b⟩ := p
    by_cases ha : a = key
    · simp [ha, lookup_cons_ite]
    · have hl : l.any (·.1 == key) = true := by simpa [ha] using h
      simp [ha, Ne.symm ha, lookup_cons_ite, ih hl]

theorem lookup_append_new (l : List (String × JsonValue)) (key k : String) (v : JsonValue)
    (h : l.any (·.1 == key) = false) :
    (l ++ [(key, v)]).lookup k = if k = key then some v else l.lookup k := by
  induction l with
  | nil => simp [lookup_cons_ite]
  | cons p l ih =>
    obtain ⟨a, b⟩ := p
    simp only [List.any_cons, Bool.or_eq_false_iff] at h
    have ha : a ≠ key := by simpa using h.1
    by_cases hk : k = a
    · simp [hk, ha, lookup_cons_ite]
    · simp [hk, lookup_cons_ite, ih h.2]

/-- Setting a property is a dict assignment: the key reads the new value, every other key what
it read before. -/
theorem lookup_set (d : AS3) (key k : String) (v : JsonValue) :
    (d.set key v).props.lookup k = if k = key then some v else d.props.lookup k := by
  unfold set
  split
  · rename_i h
    by_cases hk : k = key
    · rw [if_pos hk, hk, lookup_map_replace_self _ h]
    · rw [if_neg hk, lookup_map_replace_ne _ hk]
  · rename_i h
    rw [lookup_append_new _ _ _ _ (Bool.eq_false_iff.mpr h)]

/-- `AS3(action=..., patchBody=...)`: the keyword arguments as properties. -/
def make (kwargs : List (String × JsonValue)) : AS3 := ⟨kwargs⟩

/-- `to_dict()`. -/
def toDict (d : AS3) : JsonValue := .obj d.props

/-- `set_bigip_target_host`. -/
def setBigipTargetHost (d : AS3) (host : Option String) : AS3 :=
  d.set "targetHost" (host.elim .null .str)

/-- `set_target_tokens`. -/
def setTargetTokens (d : AS3) (tokens : JsonValue) : AS3 := d.set "targetTokens" tokens

/-- `set_target_username`. -/
def setTargetUsername (d : AS3) (username : String) : AS3 := d.set "targetUsername" (.str username)

/-- `set_target_passphrase`. -/
def setTargetPassphrase (d : AS3) (passphrase : String) : AS3 :=
  d.set "targetPassphrase" (.str passphrase)

end AS3

/-- The `payload` of `post`: an `AS3` declaration, or another object with a `to_dict`. -/
inductive Payload where
  | as3 (d : AS3)
  | other (dict : JsonValue)

/-- `payload.to_dict()`. -/
def Payload.toDict : Payload → JsonValue
  | .as3 d => d.toDict
  | .other dict => dict

end OctaviaF5
