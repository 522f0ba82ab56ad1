/-
  CmlCloudManager.Pipeline.Value
  ──────────────────────────────
  **THE DATA THAT FLOWS THROUGH A PIPELINE.**

  Step handlers, the control plane and the pipeline definitions exchange
  JSON-shaped values.  `Value` is that shape; a `Payload` is a `dict[str, Any]`
  (a step's `result_data`, an external job's `output_data`).  Python's notion
  of truth (`if result_data:`) and of text (`str(x)`) are spelled out because
  the executor branches on the one and builds its messages with the other.
-/
import CmlCloudManager.Foundation.Dict

namespace CmlCloudManager.Pipeline

open CmlCloudManager.Foundation

/-- A JSON-shaped value. -/
inductive Value where
  | none
  | bool (b : Bool)
  | int (n : Int)
  | str (s : String)
  | list (xs : List Value)
  | dict (kvs : List (String × Value))

instance : Inhabited Value := ⟨.none⟩

/-- A `dict[str, Any]`. -/
abbrev Payload : Type := Dict String Value

namespace Value

/-- `bool(v)`. -/
def truthy : Value → Bool
  | .none => false
  | .bool b => b
  | .int n => n != 0
  | .str s => s != ""
  | .list xs => !xs.isEmpty
  | .dict kvs => !kvs.isEmpty

/-- `v == s` for a string `s`. -/
def isStr (v : Value) (s : String) : Bool :=
  match v with
  | .str t => t == s
  | _ => false

/-- `v or w`. -/
def orElse (v w : Value) : Value := if v.truthy then v else w

mutual

/-- `repr(v)`. -/
def pyRepr : Value → String
  | .none => "None"
  | .bool true => "True"
  | .bool false => "False"
  | .int n => toString n
  | .str s => "'" ++ s ++ "'"
  | .list xs => "[" ++ reprItems xs ++ "]"
  | .dict kvs => "\x7b" ++ reprEntries kvs ++ "\x7d"

/-- The comma-separated items of a list. -/
def reprItems : List Value → String
  | [] => ""
  | [x] => pyRepr x
  | x :: y :: xs => pyRepr x ++ ", " ++ reprItems (y :: xs)

/-- The comma-separated entries of a dict. -/
def reprEntries : List (String × Value) → String
  | [] => ""
  | [(k, v)] => "'" ++ k ++ "': " ++ pyRepr v
  | (k, v) :: e :: es => "'" ++ k ++ "': " ++ pyRepr v ++ ", " ++ reprEntries (e :: es)

end

/-- `str(v)`. -/
def pyStr : Value → String
  | .str s => s
  | v => pyRepr v

@[simp] theorem isStr_str (s t : String) : (Value.str s).isStr t = (s == t) := rfl

@[simp] theorem isStr_none (t : String) : Value.none.isStr t = false := rfl

theorem isStr_iff (v : Value) (s : String) : v.isStr s = true ↔ v = .str s := by
  cases v <;> simp [isStr]

/-- The name of the type, as Python's messages have it. -/
def typeName : Value → String
  | .none => "NoneType"
  | .bool _ => "bool"
  | .int _ => "int"
  | .str _ => "str"
  | .list _ => "list"
  | .dict _ => "dict"

/-- What a key of a dict is compared by: `True` is the key `1`. -/
inductive HashKey where
  | none
  | num (n : Int)
  | text (s : String)
  deriving DecidableEq

/-- `hash(v)`; lists and dicts have none. -/
def hashKey : Value → Except String HashKey
  | .none => .ok .none
  | .bool b => .ok (.num (if b then 1 else 0))
  | .int n => .ok (.num n)
  | .str s => .ok (.text s)
  | .list xs => .error ("unhashable type: '" ++ typeName (.list xs) ++ "'")
  | .dict kvs => .error ("unhashable type: '" ++ typeName (.dict kvs) ++ "'")

/-- `iter(v)`: the items, the keys or the characters. -/
def items : Value → Except String (List Value)
  | .list xs => .ok xs
  | .dict kvs => .ok (kvs.map fun e => .str e.1)
  | .str s => .ok (s.toList.map fun c => .str (String.singleton c))
  | v => .error ("'" ++ typeName v ++ "' object is not iterable")

mutual

/-- `v == w`. -/
def pyEq : Value → Value → Bool
  | .none, .none => true
  | .bool a, .bool b => a == b
  | .bool a, .int n => (if a then 1 else 0) == n
  | .int n, .bool a => n == (if a then 1 else 0)
  | .int m, .int n => m == n
  | .str s, .str t => s == t
  | .list xs, .list ys => pyEqItems xs ys
  | .dict kvs, .dict lws => kvs.length == lws.length && pyEqEntries kvs lws
  | _, _ => false

/-- The items are pairwise equal. -/
def pyEqItems : List Value → List Value → Bool
  | [], [] => true
  | x :: xs, y :: ys => pyEq x y && pyEqItems xs ys
  | _, _ => false

/-- Each entry is one of the other dict, whatever the order. -/
def pyEqEntries : List (String × Value) → List (String × Value) → Bool
  | [], _ => true
  | (k, v) :: kvs, lws =>
      (match Dict.lookup k lws with
        | some w => pyEq v w
        | .none => false)
      && pyEqEntries kvs lws

end

end Value

/-- `d.get(key)`: the value, or `None`. -/
def Payload.get (d : Payload) (key : String) : Value := (d.get? key).getD .none

/-- `d.get(key, default)`. -/
def Payload.getD (d : Payload) (key : String) (default : Value) : Value :=
  (d.get? key).getD default

/-- `{key: value}`. -/
def Payload.single (key : String) (value : Value) : Payload := Dict.empty.set key value

end CmlCloudManager.Pipeline
