import Mathlib.Data.List.Dedup
import Mathlib.Data.List.Infix
import Mathlib.Data.List.Sort
import Mathlib.Tactic.SplitIfs
import Mathlib.Tactic.Tauto
import Mathlib.Tactic.ByContra
import Mathlib.Tactic.Use

/-! Exceptions the modelled code can raise: the built-in ones it meets through the standard
library and `requests`, and the classes `octavia_f5.utils.exceptions` defines. A raise is a
value of `PyError`; the monads of the later modules carry it in `Except`. -/
namespace OctaviaF5

/-- An exception in flight, with the data a caller can observe of it. -/
inductive PyError where
  /-- `AttributeError`: module `obj` has no attribute `name`. -/
  | attributeError (obj name : String)
  /-- `KeyError` for a missing dictionary key. -/
  | keyError (key : String)
  /-- `TypeError` with CPython's message. -/
  | typeError (msg : String)
  /-- `ValueError`, `json.JSONDecodeError` included. -/
  | valueError (msg : String)
  /-- `requests.ConnectionError`: the connection failed, so no reply came back. -/
  | connectionError
  /-- `RecursionError`: `json.loads` met a text nested deeper than the recursion limit. -/
  | recursionError
  /-- `requests.HTTPError` from `raise_for_status`. -/
  | httpError (status : Nat)
  /-- `concurrent.futures.TimeoutError` from `Future.result(timeout=...)`. -/
  | timeoutError
  /-- An instance of a class of `octavia_f5.utils.exceptions`. -/
  | raised (cls : String)
  deriving Repr, DecidableEq

namespace PyError

/-- The classes caught by `except ValueError`. -/
def isValueError : PyError → Bool
  | valueError _ => true
  | _ => false

/-- The exceptions of a request and of reading its reply: a failed connection
(`ConnectionError`), a malformed URL or body (`ValueError`), a body nested too deeply
(`RecursionError`), a body of another shape (`TypeError`, `KeyError`). -/
def OfRequest : PyError → Prop
  | connectionError | valueError _ | recursionError | typeError _ | keyError _ => True
  | _ => False

end PyError

/-- An exception of `x >>= f` is the one `x` raises, or the one `f` raises on `x`'s value. -/
theorem bind_eq_error {α β : Type} {x : Except PyError α} {f : α → Except PyError β}
    {e : PyError} (h : x >>= f = .error e) : x = .error e ∨ ∃ a, x = .ok a ∧ f a = .error e := by
  cases x with
  | error e' => exact .inl (by cases h; rfl)
  | ok a => exact .inr ⟨a, rfl, h⟩

namespace Exceptions

/-- The names `octavia_f5/utils/exceptions.py` binds, in source order. -/
def classes : List String :=
  ["AS3Exception", "RetryException", "FailoverException", "IControlRestException",
    "PolicyHasNoRules", "NoActionFoundForPolicy", "CompareTypeNotSupported",
    "PolicyTypeNotSupported", "PolicyActionNotSupported", "MonitorDeletionException",
    "DeleteAllTenantsException"]

/-- `raise exceptions.<name>()`: the attribute lookup fails first when the module does not
define `name`. -/
def raiseNamed (name : String) : PyError :=
  if name ∈ classes then .raised name
  else .attributeError "octavia_f5.utils.exceptions" name

theorem raiseNamed_of_not_mem {name : String} (h : name ∉ classes) :
    raiseNamed name = .attributeError "octavia_f5.utils.exceptions" name := if_neg h

end Exceptions
end OctaviaF5
