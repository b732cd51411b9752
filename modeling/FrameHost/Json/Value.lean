import FrameHost.Decimal.Double

/-!
# JSON values

Integers and floating-point numbers are different values, and the members of an object are listed in
the order of their keys, each key once. `Value.ofMembers` brings any list of members into that form.
-/

namespace FrameHost.Json

/-- A JSON number: an integer between `-2^63` and `2^64 - 1`, or a double. -/
inductive Number where
  | int (n : Int)
  | double (x : Double)
deriving DecidableEq, Repr

/-- Whether two numbers are equal: an integer never equals a double, the two zeros are equal. -/
def Number.same : Number → Number → Bool
  | .int m, .int n => m == n
  | .double x, .double y => x.same y
  | _, _ => false

/-- A JSON value. -/
inductive Value where
  | null
  | bool (b : Bool)
  | number (n : Number)
  | string (s : String)
  | array (items : List Value)
  | object (members : List (String × Value))
deriving Repr, Inhabited

namespace Value

mutual

/-- Whether two values are equal. -/
def same : Value → Value → Bool
  | .null, .null => true
  | .bool a, .bool b => a == b
  | .number m, .number n => m.same n
  | .string s, .string t => s == t
  | .array xs, .array ys => sameItems xs ys
  | .object ms, .object ns => sameMembers ms ns
  | _, _ => false

/-- Whether two lists of values are equal. -/
def sameItems : List Value → List Value → Bool
  | [], [] => true
  | x :: xs, y :: ys => same x y && sameItems xs ys
  | _, _ => false

/-- Whether two lists of members are equal. -/
def sameMembers : List (String × Value) → List (String × Value) → Bool
  | [], [] => true
  | (k, x) :: ms, (l, y) :: ns => k == l && same x y && sameMembers ms ns
  | _, _ => false

end

/-- The members with `k` holding `v`, in the order of the keys. -/
def putMember (k : String) (v : Value) : List (String × Value) → List (String × Value)
  | [] => [(k, v)]
  | (l, w) :: ms =>
    if k = l then (k, v) :: ms
    else if k < l then (k, v) :: (l, w) :: ms
    else (l, w) :: putMember k v ms

/-- The object with the given members; the last value of a key wins. -/
def ofMembers (ms : List (String × Value)) : Value :=
  .object (ms.foldl (fun acc m => putMember m.1 m.2 acc) [])

/-- The integer `n`. -/
def int (n : Int) : Value := .number (.int n)

/-- The object without members. -/
def emptyObject : Value := .object []

/-! ## Looking inside -/

/-- The value of member `k`, in a list of members. -/
def member? (k : String) : List (String × Value) → Option Value
  | [] => none
  | (l, v) :: ms => if l = k then some v else member? k ms

/-- The value of member `k`, if the value is an object that has it. -/
def field? (k : String) : Value → Option Value
  | .object ms => member? k ms
  | _ => none

/-- The text, if the value is a string. -/
def string? : Value → Option String
  | .string s => some s
  | _ => none

/-- The truth value, if the value is one. -/
def bool? : Value → Option Bool
  | .bool b => some b
  | _ => none

/-- The items, if the value is an array. -/
def array? : Value → Option (List Value)
  | .array xs => some xs
  | _ => none

/-- The members, if the value is an object. -/
def object? : Value → Option (List (String × Value))
  | .object ms => some ms
  | _ => none

end Value

end FrameHost.Json
