import JsonSchema.Numeric.Shortest

/-!
# `JsonSchema.Json.Value` — the JSON data model

A document is a tree of `Value`s. Objects keep their members in written order, and numbers keep
apart integers of at most 64 bits and doubles.

## Contents
- **Numbers.** `Number`, its views `signed?`, `unsigned?`, `doubleUnits`, and `Number.compare`.
- **Values.** `Value`, `Kind`, and members by name: `Members.get?`, `Members.insert`.
- **Equality by value.** `Value.equiv`, under which `1` and `1.0` are the same.
-/

namespace JsonSchema

/-! ## Numbers -/

/-- A JSON number: an integer that fits 64 bits with or without a sign, or a finite double. -/
inductive Number where
  | integer (value : Int) (low : -2 ^ 63 ≤ value) (high : value < 2 ^ 64)
  | double (value : Binary64)
deriving DecidableEq

namespace Number

/-- A natural as a number, if 64 bits hold it. -/
def ofNat? (n : Nat) : Option Number :=
  if h : (n : Int) < 2 ^ 64 then some (.integer n (by omega) h) else none

/-- An integer as a number, if 64 bits hold it. -/
def ofInt? (n : Int) : Option Number :=
  if h : -2 ^ 63 ≤ n ∧ n < 2 ^ 64 then some (.integer n h.1 h.2) else none

/-- The number as a signed 64-bit integer; doubles have no such view. -/
def signed? : Number → Option Int
  | .integer n _ _ => if n < 2 ^ 63 then some n else none
  | .double _ => none

/-- The number as an unsigned 64-bit integer; doubles have no such view. -/
def unsigned? : Number → Option Nat
  | .integer n _ _ => if 0 ≤ n then some n.toNat else none
  | .double _ => none

/-- The number as a double, in signed units of the double grid. An integer is rounded to it. -/
def doubleUnits : Number → Int
  | .integer n _ _ =>
    let units : Int := Binary64.roundUnits (n.natAbs * Binary64.scale) 1
    if n < 0 then -units else units
  | .double x => x.signedUnits

/-- Integers are compared exactly, in whichever 64-bit view holds both; all else as doubles. -/
def compare (a b : Number) : Ordering :=
  match a.signed?, b.signed? with
  | some x, some y => Ord.compare x y
  | _, _ =>
    match a.unsigned?, b.unsigned? with
    | some x, some y => Ord.compare x y
    | _, _ => Ord.compare a.doubleUnits b.doubleUnits

/-- Whether the number is an integer, in either notation: `1.0` is one. -/
def isWhole : Number → Bool
  | .integer _ _ _ => true
  | .double x => x.isWhole

/-- The text of a number, doubles laid out as the style says. -/
def write (style : DecimalStyle) : Number → String
  | .integer n _ _ => toString n
  | .double x => style.write x

end Number

/-! ## Values -/

/-- A JSON value. Members stand in the order in which they were written. -/
inductive Value where
  | null
  | bool (flag : Bool)
  | number (number : Number)
  | string (text : String)
  | array (elements : List Value)
  | object (members : List (String × Value))

/-- The members of an object. -/
abbrev Members := List (String × Value)

namespace Members

/-- The value of a member. -/
def get? (members : Members) (name : String) : Option Value := members.lookup name

/-- Whether a member is there. -/
def has (members : Members) (name : String) : Bool := (members.get? name).isSome

/-- Set a member: a new one goes to the end, a known one keeps its place. -/
def insert : Members → String → Value → Members
  | [], name, value => [(name, value)]
  | (k, v) :: rest, name, value =>
    if k = name then (k, value) :: rest else (k, v) :: insert rest name value

end Members

/-- The six kinds of JSON values. -/
inductive Kind where
  | null | boolean | number | string | array | object
deriving DecidableEq

/-- The name of a kind. -/
def Kind.name : Kind → String
  | .null => "null"
  | .boolean => "boolean"
  | .number => "number"
  | .string => "string"
  | .array => "array"
  | .object => "object"

namespace Value

/-- The kind of a value. -/
def kind : Value → Kind
  | .null => .null
  | .bool _ => .boolean
  | .number _ => .number
  | .string _ => .string
  | .array _ => .array
  | .object _ => .object

/-- The text of a string value. -/
def string? : Value → Option String
  | .string s => some s
  | _ => none

/-- The elements of an array value. -/
def array? : Value → Option (List Value)
  | .array elements => some elements
  | _ => none

/-- The members of an object value. -/
def object? : Value → Option Members
  | .object members => some members
  | _ => none

/-- The number of a number value. -/
def number? : Value → Option Number
  | .number n => some n
  | _ => none

/-! ## Equality by value -/

mutual

/-- Equality of JSON values: numbers by value, objects without regard to member order. -/
def equiv : Value → Value → Bool
  | .null, .null => true
  | .bool a, .bool b => a == b
  | .number a, .number b => a.compare b == .eq
  | .string a, .string b => a == b
  | .array as, .array bs => equivElements as bs
  | .object as, .object bs => as.length == bs.length && equivMembers as bs
  | _, _ => false

/-- Equal length and equal elements, place by place. -/
def equivElements : List Value → List Value → Bool
  | [], [] => true
  | a :: as, b :: bs => equiv a b && equivElements as bs
  | _, _ => false

/-- Each member on the left has an equal one of its name on the right. -/
def equivMembers : Members → Members → Bool
  | [], _ => true
  | (name, a) :: rest, bs =>
    (match Members.get? bs name with
      | some b => equiv a b
      | none => false) && equivMembers rest bs

end

end Value

end JsonSchema
