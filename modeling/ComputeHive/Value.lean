import Mathlib.Data.Rat.Defs

/-! Python values as the SDK builds and receives them: the shapes JSON has,
a `dict` keeping its insertion order, and the exceptions a call can end
with, kept with their messages.
-/

set_option autoImplicit false

namespace ComputeHive

/-- A Python `float`. A finite value is kept exactly: rounding to the nearest
binary64, which also turns a literal beyond its range into an infinity, is not
modelled. -/
inductive PyFloat where
  | finite (value : ℚ)
  | nan
  | infinity (negative : Bool)
  deriving DecidableEq, Repr

inductive Value where
  | none
  | bool (b : Bool)
  | int (n : Int)
  | float (x : PyFloat)
  | str (s : String)
  | list (items : List Value)
  | dict (entries : List (String × Value))
  deriving Repr

/-- The exceptions a run ends with: the SDK's three classes, the built-in ones
raised by its indexing, and any other class raised by caller code. -/
inductive PyError where
  | computeHive (message : String)
  | authentication (message : String)
  | job (message : String)
  | keyError (key : String)
  | typeError (message : String)
  | attributeError (message : String)
  | foreign (name message : String)
  deriving DecidableEq, Repr

namespace Value

def truthy : Value → Bool
  | .none => false
  | .bool b => b
  | .int n => n != 0
  | .float (.finite q) => q != 0
  | .float _ => true
  | .str s => !s.isEmpty
  | .list items => !items.isEmpty
  | .dict entries => !entries.isEmpty

def isNotNone : Value → Bool
  | .none => false
  | _ => true

def typeName : Value → String
  | .none => "NoneType"
  | .bool _ => "bool"
  | .int _ => "int"
  | .float _ => "float"
  | .str _ => "str"
  | .list _ => "list"
  | .dict _ => "dict"

/-- `v.get(key)`: only a `dict` has `get`. -/
def get (v : Value) (key : String) : Except PyError (Option Value) :=
  match v with
  | .dict entries => .ok (entries.lookup key)
  | v => .error (.attributeError ("'" ++ v.typeName ++ "' object has no attribute 'get'"))

def getItem (v : Value) (key : String) : Except PyError Value :=
  match v with
  | .dict entries =>
    match entries.lookup key with
    | some found => .ok found
    | Option.none => .error (.keyError key)
  | .list _ => .error (.typeError "list indices must be integers or slices, not str")
  | .str _ => .error (.typeError "string indices must be integers, not 'str'")
  | v => .error (.typeError ("'" ++ v.typeName ++ "' object is not subscriptable"))

/-- `v == s` for a string `s`: only a `str` equal to it compares equal. -/
def isStr (v : Value) (s : String) : Bool :=
  match v with
  | .str t => t == s
  | _ => false

mutual
/-- `str(v)` as an f-string renders it. It is exact for `None`, `bool`, `int`
and `str`, the types an identifier takes; a float is shown by its exact value
and a list or dict in a bracketed form, where Python's `repr` would differ in
digits and quoting. -/
def pyStr : Value → String
  | .none => "None"
  | .bool true => "True"
  | .bool false => "False"
  | .int n => toString n
  | .float (.finite q) => toString q
  | .float .nan => "nan"
  | .float (.infinity true) => "-inf"
  | .float (.infinity false) => "inf"
  | .str s => s
  | .list items => "[" ++ pyStrItems items ++ "]"
  | .dict entries => "\x7b" ++ pyStrEntries entries ++ "\x7d"

def pyStrItems : List Value → String
  | [] => ""
  | [item] => item.pyStr
  | item :: rest => item.pyStr ++ ", " ++ pyStrItems rest

def pyStrEntries : List (String × Value) → String
  | [] => ""
  | [(key, item)] => "'" ++ key ++ "': " ++ item.pyStr
  | (key, item) :: rest => "'" ++ key ++ "': " ++ item.pyStr ++ ", " ++ pyStrEntries rest
end

@[simp] theorem isNotNone_none : Value.none.isNotNone = false := rfl

theorem get_ne_job (v : Value) (key : String) {m : String} :
    v.get key ≠ .error (.job m) := by
  cases v <;> simp [get]

@[simp] theorem get_dict (entries : List (String × Value)) (key : String) :
    (dict entries).get key = .ok (entries.lookup key) := rfl

@[simp] theorem isStr_str (t s : String) : (str t).isStr s = (t == s) := rfl

end Value

end ComputeHive
