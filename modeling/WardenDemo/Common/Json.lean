import Mathlib.Data.Finmap
import Mathlib.Data.Rat.Defs

/-!
# Python values

Scenario parameters come from the operator as arbitrary JSON, and the program
converts them where it uses them. `Json` is what the payload converter decodes,
`Dict` the maps keyed by strings.
-/

namespace WardenDemo

/-- A dict with string keys. -/
abbrev Dict (V : Type) := Finmap fun _ : String => V

namespace Dict

variable {V : Type}

def literal (entries : List (String × V)) : Dict V :=
  (entries.map fun entry => (⟨entry.1, entry.2⟩ : Sigma fun _ : String => V)).toFinmap

/-- What is found in a literal is one of its entries. -/
theorem mem_of_lookup_literal {entries : List (String × V)} {key : String} {value : V}
    (found : Finmap.lookup key (literal entries) = some value) : (key, value) ∈ entries := by
  rw [literal, Finmap.dlookup_list_toFinmap] at found
  obtain ⟨entry, mem, same⟩ := List.mem_map.mp (List.of_mem_dlookup found)
  cases same
  exact mem

/-- `base.update(other)`: the entries of `other` win. -/
def update (base other : Dict V) : Dict V := other ∪ base

@[simp] theorem lookup_update (base other : Dict V) (key : String) :
    Finmap.lookup key (update base other) =
      (Finmap.lookup key other).or (Finmap.lookup key base) := by
  by_cases mem : key ∈ other
  · obtain ⟨value, found⟩ := Finmap.mem_iff.mp mem
    rw [update, Finmap.lookup_union_left mem, found, Option.some_or]
  · rw [update, Finmap.lookup_union_right mem, Finmap.lookup_eq_none.mpr mem, Option.none_or]

theorem lookup_insert (dict : Dict V) (key other : String) (value : V) :
    Finmap.lookup other (Finmap.insert key value dict) =
      if other = key then some value else Finmap.lookup other dict := by
  split
  · next same => rw [same, Finmap.lookup_insert]
  · next differs => rw [Finmap.lookup_insert_of_ne _ differs]

end Dict

/-- A float, by the number it stands for. -/
inductive FloatValue where
  | finite (value : Rat)
  | infinity (negative : Bool)
  | nan
deriving DecidableEq, Repr

namespace FloatValue

/-- The double that the literal `0.4` stands for. -/
def pointFour : FloatValue := .finite (3602879701896397 / 2 ^ 53)

/-- The double that the literal `0.6` stands for. -/
def pointSix : FloatValue := .finite (5404319552844595 / 2 ^ 53)

/-- The double that the literal `0.9` stands for. -/
def pointNine : FloatValue := .finite (8106479329266893 / 2 ^ 53)

end FloatValue

inductive Json where
  | null
  | bool (value : Bool)
  | int (value : Int)
  | float (value : FloatValue)
  | str (value : String)
  | list (items : List Json)
  | object (fields : List (String × Json))

namespace Json

/-- `bool(value)`. -/
def truthy : Json → Bool
  | .null => false
  | .bool value => value
  | .int value => value != 0
  | .float value => value != .finite 0
  | .str value => value != ""
  | .list items => !items.isEmpty
  | .object fields => !fields.isEmpty

/-- The number a value is to a comparison; booleans are numbers. -/
def number : Json → Option FloatValue
  | .bool value => some (.finite (if value then 1 else 0))
  | .int value => some (.finite value)
  | .float value => some value
  | _ => none

/-- Numbers compare by value, and NaN is equal to nothing. -/
def sameNumber (first second : Json) : Bool :=
  match first.number, second.number with
  | some .nan, _ => false
  | some value, some other => value = other
  | _, _ => false

mutual

/-- `first == second`. Dicts compare without regard to order. -/
def same : Json → Json → Bool
  | .null, .null => true
  | .str first, .str second => first = second
  | .list first, .list second => sameItems first second
  | .object first, .object second =>
      first.length = second.length && sameFields first second
  | first, second => sameNumber first second

def sameItems : List Json → List Json → Bool
  | [], [] => true
  | first :: rest, second :: others => same first second && sameItems rest others
  | _, _ => false

def sameFields : List (String × Json) → List (String × Json) → Bool
  | [], _ => true
  | (key, value) :: rest, others =>
      (match others.lookup key with
        | some other => same value other
        | none => false) && sameFields rest others

end

/-- How text is read as an integer and values are written into strings. -/
structure Text where
  parseInt : String → Option Int
  format : Json → String

/-- `int(value)`, or nothing where it raises. -/
def toInt (text : Text) : Json → Option Int
  | .bool value => some (if value then 1 else 0)
  | .int value => some value
  | .float (.finite value) => some (value.num.tdiv value.den)
  | .str value => text.parseInt value
  | .null | .float _ | .list _ | .object _ => none

/-- How text is read as a float as well. -/
structure Numerals extends Text where
  parseFloat : String → Option FloatValue

/-- `float(value)` of an integer: the nearest double, ties to an even last digit,
or nothing past the range of doubles. -/
def floatOfInt (value : Int) : Option FloatValue :=
  let digit := 2 ^ (value.natAbs.log2 - 52)
  let below := value.natAbs / digit
  let rest := value.natAbs % digit
  let nearest :=
    if 2 * rest < digit ∨ (2 * rest = digit ∧ below % 2 = 0) then below else below + 1
  if nearest * digit < 2 ^ 1024 then some (.finite (value.sign * (nearest * digit))) else none

/-- `float(value)`, or nothing where it raises. -/
def toFloat (numerals : Numerals) : Json → Option FloatValue
  | .bool value => some (.finite (if value then 1 else 0))
  | .int value => floatOfInt value
  | .float value => some value
  | .str value => numerals.parseFloat value
  | .null | .list _ | .object _ => none

end Json

/-- `draw < value`, for a finite draw. -/
def FloatValue.above (draw : Rat) : FloatValue → Bool
  | .finite value => decide (draw < value)
  | .infinity negative => !negative
  | .nan => false

end WardenDemo
