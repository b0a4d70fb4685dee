/-!
# JSON values

The engine speaks JSON in three places: save records, the web views and the answers of its
tools. A value is null, a boolean, a decimal number, a string, an array or an object whose
fields keep the order in which they were given.

A number is an integer mantissa and a count of decimal places, so `1.0` (mantissa 10, one
place) and `1` (mantissa 1, no place) are different values with different texts, as the
overlay opacity needs.
-/

namespace Novel.Json

/-- A JSON value; object fields keep their order. -/
inductive Value where
  | null
  | bool (b : Bool)
  | number (mantissa : Int) (places : Nat)
  | str (s : String)
  | arr (items : List Value)
  | obj (fields : List (String × Value))
  deriving Inhabited, Repr

namespace Value

def nat (n : Nat) : Value := .number n 0

@[simp] theorem nat_inj {m n : Nat} : nat m = nat n ↔ m = n := by
  simp only [nat, number.injEq, and_true]
  exact Int.ofNat_inj

/-- A string, or null. -/
def optStr : Option String → Value
  | some s => .str s
  | none => .null

/-- A value, or null. -/
def opt {α : Type} (f : α → Value) : Option α → Value
  | some a => f a
  | none => .null

def strs (xs : List String) : Value := .arr (xs.map .str)

/-- The field of an object with this key, if any (the first one). -/
def field? (v : Value) (key : String) : Option Value :=
  match v with
  | .obj fs => (fs.find? (fun p => p.1 == key)).map Prod.snd
  | _ => none

/-- Add fields at the end of an object; other values are left alone. -/
def extend (v : Value) (more : List (String × Value)) : Value :=
  match v with
  | .obj fs => .obj (fs ++ more)
  | other => other

end Value

end Novel.Json
