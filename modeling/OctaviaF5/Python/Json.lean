import OctaviaF5.Python.Exceptions

/-! JSON values as `json.loads` and `requests.Response.json` return them, with the Python
operations the client applies to them (`in`, `[...]`, iteration, `!= 0`, `str`), and the
encoder `json.dumps` with `ensure_ascii=True`. Numbers are Python `int`s; JSON numbers with a
fraction or exponent are outside this model. -/
namespace OctaviaF5

/-- A decoded JSON document. `obj` lists a dict's items in insertion order, keys distinct. -/
inductive JsonValue where
  | null
  | bool (b : Bool)
  | num (n : Int)
  | str (s : String)
  | arr (items : List JsonValue)
  | obj (fields : List (String × JsonValue))
  deriving Repr, Inhabited

namespace JsonValue

/-- The type name CPython puts in its error messages. -/
def typeName : JsonValue → String
  | null => "NoneType"
  | bool _ => "bool"
  | num _ => "int"
  | str _ => "str"
  | arr _ => "list"
  | obj _ => "dict"

/-- `v == key` for a string `key`: only an equal string compares equal. -/
def isStr (key : String) : JsonValue → Bool
  | str s => s == key
  | _ => false

/-- `key in v` for a string `key`: dict keys, list elements, or substrings. -/
def contains (key : String) : JsonValue → Except PyError Bool
  | obj fields => .ok (fields.any fun f => f.1 == key)
  | arr items => .ok (items.any (isStr key))
  | str s => .ok (decide (key.data <:+: s.data))
  | v => .error (.typeError ("argument of type '" ++ typeName v ++ "' is not iterable"))

/-- `v[key]` for a string `key`. -/
def getItem (key : String) : JsonValue → Except PyError JsonValue
  | obj fields =>
    match fields.find? fun f => f.1 == key with
    | some f => .ok f.2
    | none => .error (.keyError key)
  | arr _ => .error (.typeError "list indices must be integers or slices, not str")
  | str _ => .error (.typeError "string indices must be integers")
  | v => .error (.typeError ("'" ++ typeName v ++ "' object is not subscriptable"))

/-- `for x in v`: list elements, dict keys, or one-character strings. -/
def iter : JsonValue → Except PyError (List JsonValue)
  | arr items => .ok items
  | obj fields => .ok (fields.map fun f => str f.1)
  | str s => .ok (s.data.map fun c => str ⟨[c]⟩)
  | v => .error (.typeError ("'" ++ typeName v ++ "' object is not iterable"))

/-- `v != 0`: only the integer zero and `False` equal `0`. -/
def neZero : JsonValue → Bool
  | num n => n != 0
  | bool b => b
  | _ => true

/-! The lookups raise only `KeyError` and `TypeError`. -/

theorem contains_error_ofRequest {key : String} {v : JsonValue} {e : PyError}
    (h : v.contains key = .error e) : e.OfRequest := by
  cases v <;> simp only [contains] at h <;> cases h <;> trivial

theorem getItem_error_ofRequest {key : String} {v : JsonValue} {e : PyError}
    (h : v.getItem key = .error e) : e.OfRequest := by
  cases v <;> simp only [getItem] at h
  case obj fields => split at h <;> cases h; trivial
  all_goals cases h; trivial

theorem iter_error_ofRequest {v : JsonValue} {e : PyError} (h : v.iter = .error e) :
    e.OfRequest := by
  cases v <;> simp only [iter] at h <;> cases h <;> trivial

/-! ### `repr` and `str` -/

/-- The escape `repr` writes for one character inside quotes `q`. -/
def reprChar (q c : Char) : List Char :=
  if c = '\\' then ['\\', '\\']
  else if c = q then ['\\', q]
  else if c = '\n' then ['\\', 'n']
  else if c = '\r' then ['\\', 'r']
  else if c = '\t' then ['\\', 't']
  else if c.toNat < 32 ∨ c.toNat = 127 then
    ['\\', 'x', Nat.digitChar (c.toNat / 16), Nat.digitChar (c.toNat % 16)]
  else [c]

/-- `repr` of a string: single quotes unless the text holds one and no double quote. -/
def reprStr (s : String) : String :=
  let q := if '\'' ∈ s.data ∧ '"' ∉ s.data then '"' else '\''
  ⟨q :: s.data.flatMap (reprChar q) ++ [q]⟩

mutual
/-- `repr` of a decoded value, as `str.format` writes list and dict elements. -/
def repr : JsonValue → String
  | null => "None"
  | bool true => "True"
  | bool false => "False"
  | num n => toString n
  | str s => reprStr s
  | arr items => "[" ++ ", ".intercalate (reprItems items) ++ "]"
  | obj fields => "\x7b" ++ ", ".intercalate (reprFields fields) ++ "\x7d"
/-- `repr` of each list element. -/
def reprItems : List JsonValue → List String
  | [] => []
  | v :: vs => repr v :: reprItems vs
/-- `repr` of each dict item as `key: value`. -/
def reprFields : List (String × JsonValue) → List String
  | [] => []
  | (k, v) :: fs => (reprStr k ++ ": " ++ repr v) :: reprFields fs
end

/-- `str(v)`, which `'{}'.format(v)` inserts: strings bare, containers by `repr`. -/
def pyStr : JsonValue → String
  | str s => s
  | v => repr v

end JsonValue
end OctaviaF5
