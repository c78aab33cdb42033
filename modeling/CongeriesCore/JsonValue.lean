import Mathlib.Algebra.Group.Int.Defs
import Mathlib.Algebra.Group.Nat.Defs
import Mathlib.Data.Int.Init
import Mathlib.Data.List.Nodup
import Mathlib.Tactic.Common

/-! # JSON values and their digests

The values that cross the serialization boundary. A float is its IEEE 754 double bits.
SHA-256 is a parameter: `Sha256.json` stands for the digest of a value's canonical
encoding (sorted keys, compact separators), `Sha256.text` for that of a string. -/

namespace CongeriesCore

inductive JsonValue
  | null
  | bool (value : Bool)
  | int (value : ℤ)
  | float (bits : UInt64)
  | str (value : String)
  | arr (items : List JsonValue)
  | obj (fields : List (String × JsonValue))

namespace JsonValue

def ofOption {α : Type} (encode : α → JsonValue) : Option α → JsonValue
  | none => .null
  | some value => encode value

/-- Entry of a sorted object, placed before the first larger key. -/
def insertField (field : String × JsonValue) : List (String × JsonValue) → List (String × JsonValue)
  | [] => [field]
  | other :: fields =>
    if field.1 < other.1 then field :: other :: fields else other :: insertField field fields

mutual

/-- The value with every object's keys in order, as `json.dumps(sort_keys=True)` visits it. -/
def canonical : JsonValue → JsonValue
  | .arr items => .arr (canonicalItems items)
  | .obj fields => .obj (canonicalFields fields)
  | .null => .null
  | .bool value => .bool value
  | .int value => .int value
  | .float bits => .float bits
  | .str value => .str value

def canonicalItems : List JsonValue → List JsonValue
  | [] => []
  | item :: items => canonical item :: canonicalItems items

def canonicalFields : List (String × JsonValue) → List (String × JsonValue)
  | [] => []
  | (key, value) :: fields => insertField (key, canonical value) (canonicalFields fields)

end

/-- Whether the IEEE 754 double with these bits is the integer `value`. -/
def floatIsInt (bits : UInt64) (value : ℤ) : Bool :=
  let exponent : ℕ := bits.toNat / 2 ^ 52 % 2048
  let fraction : ℕ := bits.toNat % 2 ^ 52
  let mantissa : ℕ := if exponent = 0 then fraction else fraction + 2 ^ 52
  let sign : ℤ := if bits.toNat / 2 ^ 63 = 1 then -1 else 1
  exponent != 2047 &&
    sign * mantissa * 2 ^ (max exponent 1 - 1) == value * 2 ^ 1074

/-- Python `==` with a string, an integer or `None` on the right. -/
def equalsScalar : JsonValue → JsonValue → Bool
  | .null, .null => true
  | .str first, .str second => first == second
  | .int first, .int second => first == second
  | .bool first, .int second => (if first then 1 else 0) == second
  | .float bits, .int second => floatIsInt bits second
  | _, _ => false

/-- Whether two doubles are equal: neither is a NaN, and both are zero or the same. -/
def floatsEqual (first second : UInt64) : Bool :=
  let magnitude (bits : UInt64) : ℕ := bits.toNat % 2 ^ 63
  magnitude first ≤ 2047 * 2 ^ 52 && magnitude second ≤ 2047 * 2 ^ 52 &&
    (first == second || (magnitude first == 0 && magnitude second == 0))

def boolToInt (value : Bool) : ℤ := if value then 1 else 0

mutual

/-- Python `==`: booleans are integers, and the order of an object's keys does not count. -/
def equals : JsonValue → JsonValue → Bool
  | .arr items, .arr others => equalsItems items others
  | .obj fields, .obj others => fields.length == others.length && equalsFields fields others
  | .null, .null => true
  | .str first, .str second => first == second
  | .bool first, .bool second => first == second
  | .bool first, .int second => boolToInt first == second
  | .int first, .bool second => first == boolToInt second
  | .int first, .int second => first == second
  | .float bits, .int second => floatIsInt bits second
  | .int first, .float bits => floatIsInt bits first
  | .float bits, .bool second => floatIsInt bits (boolToInt second)
  | .bool first, .float bits => floatIsInt bits (boolToInt first)
  | .float first, .float second => floatsEqual first second
  | _, _ => false

def equalsItems : List JsonValue → List JsonValue → Bool
  | [], [] => true
  | item :: items, other :: others => equals item other && equalsItems items others
  | _, _ => false

def equalsFields : List (String × JsonValue) → List (String × JsonValue) → Bool
  | [], _ => true
  | (key, value) :: fields, others =>
    (match others.lookup key with
      | some other => equals value other
      | none => false) && equalsFields fields others

end

@[simp] theorem equals_null : JsonValue.null.equals .null = true := by simp [equals]

@[simp] theorem equals_str_self (text : String) : (JsonValue.str text).equals (.str text) = true := by
  simp [equals]

@[simp] theorem equals_int_self (value : ℤ) : (JsonValue.int value).equals (.int value) = true := by
  simp [equals]

theorem equals_ofOption_str_self {α : Type} (text : α → String) (value : Option α) :
    (ofOption (fun item => .str (text item)) value).equals
      (ofOption (fun item => .str (text item)) value) = true := by
  cases value with
  | none => exact equals_null
  | some item => exact equals_str_self _

theorem equals_arr_self {items : List JsonValue} (each : ∀ item ∈ items, item.equals item = true) :
    (JsonValue.arr items).equals (.arr items) = true := by
  have all : equalsItems items items = true := by
    induction items with
    | nil => simp [equalsItems]
    | cons item items ih =>
      have rest := ih fun other member => each other (.tail _ member)
      simp [equalsItems, each item (.head _), rest]
  simpa [equals] using all

theorem equals_obj_self {fields : List (String × JsonValue)} (nodup : (fields.map Prod.fst).Nodup)
    (each : ∀ field ∈ fields, field.2.equals field.2 = true) :
    (JsonValue.obj fields).equals (.obj fields) = true := by
  have found : ∀ key value, (key, value) ∈ fields → fields.lookup key = some value := by
    intro key value member
    clear each
    induction fields with
    | nil => cases member
    | cons field fields ih =>
      obtain ⟨absent, distinct⟩ := List.nodup_cons.mp nodup
      rcases List.mem_cons.mp member with rfl | member
      · rw [List.lookup_cons, beq_self_eq_true]
      · have other : key ≠ field.1 := by
          rintro rfl
          exact absent (List.mem_map.mpr ⟨_, member, rfl⟩)
        rw [List.lookup_cons]
        have miss : (key == field.1) = false := beq_eq_false_iff_ne.mpr other
        simp only [miss]
        exact ih distinct member
  have all : ∀ part : List (String × JsonValue), (∀ field ∈ part, field ∈ fields) →
      equalsFields part fields = true := by
    intro part listed
    induction part with
    | nil => simp [equalsFields]
    | cons field part ih =>
      obtain ⟨key, value⟩ := field
      have member := listed (key, value) (.head _)
      have rest := ih fun other inside => listed other (.tail _ inside)
      simp [equalsFields, found key value member, each (key, value) member, rest]
  simpa [equals] using all fields fun _ member => member

end JsonValue

/-- `^[0-9a-f]{64}$`. -/
def isSha256 (value : String) : Bool :=
  value.toList.length == 64 && value.toList.all fun c => c.isDigit || ('a' ≤ c && c ≤ 'f')

structure Sha256Digest where
  value : String
  matches_ : isSha256 value = true
  deriving DecidableEq, Repr

theorem Sha256Digest.ne_empty (digest : Sha256Digest) : digest.value ≠ "" := by
  intro empty
  have matched := digest.matches_
  rw [empty] at matched
  cases matched

class Sha256 where
  json : JsonValue → Sha256Digest
  text : String → Sha256Digest

/-- `hashlib.sha256(json.dumps(value, sort_keys=True, …)).hexdigest()`. -/
def JsonValue.sha256 [Sha256] (value : JsonValue) : Sha256Digest := Sha256.json value.canonical

end CongeriesCore
