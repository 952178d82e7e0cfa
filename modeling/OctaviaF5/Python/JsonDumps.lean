import OctaviaF5.Python.Json

/-! `json.dumps` with `ensure_ascii=True`, as `requests` uses it to encode `json=` bodies
(`indent=None`) and as the debug hook uses it to print them (`sort_keys=True, indent=4`). -/
namespace OctaviaF5
namespace JsonValue

/-- The keyword arguments of `json.dumps` that the client passes. -/
structure Layout where
  indent : Option Nat
  sortKeys : Bool

/-- `requests`' encoding of a `json=` argument. -/
def Layout.compact : Layout := ⟨none, false⟩

/-- The debug hook's `sort_keys=True, indent=4`. -/
def Layout.pretty : Layout := ⟨some 4, true⟩

/-- One lower-case hexadecimal digit. -/
def hexDigit (n : Nat) : Char := "0123456789abcdef".data.getD n '0'

/-- `\uXXXX` for a code unit below `0x10000`. -/
def hex4 (n : Nat) : List Char :=
  ['\\', 'u', hexDigit (n / 4096 % 16), hexDigit (n / 256 % 16), hexDigit (n / 16 % 16),
    hexDigit (n % 16)]

/-- The ASCII escape of one character (`py_encode_basestring_ascii`); characters past the
basic plane become a surrogate pair. -/
def encodeChar (c : Char) : List Char :=
  if c = '"' then ['\\', '"']
  else if c = '\\' then ['\\', '\\']
  else if c = '\n' then ['\\', 'n']
  else if c = '\r' then ['\\', 'r']
  else if c = '\t' then ['\\', 't']
  else if c.toNat = 8 then ['\\', 'b']
  else if c.toNat = 12 then ['\\', 'f']
  else if 32 ≤ c.toNat ∧ c.toNat ≤ 126 then [c]
  else if c.toNat < 65536 then hex4 c.toNat
  else hex4 (55296 + (c.toNat - 65536) / 1024) ++ hex4 (56320 + (c.toNat - 65536) % 1024)

/-- A string literal of the output. -/
def quote (s : String) : String := ⟨'"' :: s.data.flatMap encodeChar ++ ['"']⟩

/-- Code-point order on keys, as `sorted` compares `str`. -/
def keyLe : List Char → List Char → Bool
  | [], _ => true
  | _ :: _, [] => false
  | a :: as, b :: bs => if a = b then keyLe as bs else decide (a < b)

/-- The line break and indentation that opens a nesting level. -/
def Layout.newline (l : Layout) (level : Nat) : String :=
  match l.indent with
  | some k => ⟨'\n' :: List.replicate (k * level) ' '⟩
  | none => ""

/-- `item_separator`: `", "` on one line, `","` before a line break. -/
def Layout.separator (l : Layout) (level : Nat) : String :=
  match l.indent with
  | some _ => "," ++ l.newline level
  | none => ", "

/-- A non-empty container: opening bracket, members, closing bracket. -/
def Layout.wrap (l : Layout) (level : Nat) (opening closing : String)
    (members : List String) : String :=
  opening ++ l.newline (level + 1) ++ (l.separator (level + 1)).intercalate members ++
    l.newline level ++ closing

/-- The dict items in output order: sorted by key under `sort_keys`. -/
def Layout.order (l : Layout) (items : List (String × String)) : List (String × String) :=
  if l.sortKeys then items.insertionSort fun a b => keyLe a.1.data b.1.data = true else items

mutual
/-- `json.dumps(v)` at nesting `level`. -/
def dumpsAt (l : Layout) (level : Nat) : JsonValue → String
  | null => "null"
  | bool true => "true"
  | bool false => "false"
  | num n => toString n
  | str s => quote s
  | arr [] => "[]"
  | arr (v :: vs) => l.wrap level "[" "]" (dumpsItems l (level + 1) (v :: vs))
  | obj [] => "\x7b\x7d"
  | obj (f :: fs) => l.wrap level "\x7b" "\x7d"
      ((l.order (dumpsFields l (level + 1) (f :: fs))).map fun kv => quote kv.1 ++ ": " ++ kv.2)
/-- The encoded list elements. -/
def dumpsItems (l : Layout) (level : Nat) : List JsonValue → List String
  | [] => []
  | v :: vs => dumpsAt l level v :: dumpsItems l level vs
/-- Each key with its encoded value. -/
def dumpsFields (l : Layout) (level : Nat) : List (String × JsonValue) → List (String × String)
  | [] => []
  | (k, v) :: fs => (k, dumpsAt l level v) :: dumpsFields l level fs
end

/-- `json.dumps(v, ...)` at the top level. -/
def dumps (l : Layout) (v : JsonValue) : String := dumpsAt l 0 v

/-- Regression: the debug hook's layout. -/
example : dumps .pretty (obj [("b", num 1), ("a", arr [str "x"])]) =
    "\x7b\n    \"a\": [\n        \"x\"\n    ],\n    \"b\": 1\n\x7d" := by decide

example : dumps .compact (obj [("action", str "remove"), ("n", null)]) =
    "\x7b\"action\": \"remove\", \"n\": null\x7d" := by decide

end JsonValue
end OctaviaF5
