import AgentCore.Foundation.Json

/-! The meaning of a JSON Schema made of the keywords `type`, `enum`, `minimum`, `maximum`,
`minLength`, `maxLength`, `minItems`, `uniqueItems`, `required`, `properties`,
`additionalProperties` and `items`. Each keyword is an assertion of its own, and one about
another type of value than the one at hand holds of it. A `type` is a name and
`additionalProperties` a boolean; the order of two numbers is a parameter. -/

namespace AgentCore.Foundation

namespace Json

def asBool : Json → Option Bool
  | bool b => some b
  | _ => none

def asObject : Json → Option (List (String × Json))
  | obj fields => some fields
  | _ => none

def asNumber : Json → Option JsonNumber
  | num n => some n
  | _ => none

def asInt : Json → Option Int
  | num (.int z) => some z
  | _ => none

def keys (v : Json) : List String := (v.asObject.getD []).map Prod.fst

end Json

namespace JsonSchema

def HasType (name : String) : Json → Bool
  | .null => name = "null"
  | .bool _ => name = "boolean"
  | .num (.int _) => name = "integer" || name = "number"
  | .num (.float _) => name = "number"
  | .str _ => name = "string"
  | .arr _ => name = "array"
  | .obj _ => name = "object"

variable (less : JsonNumber → JsonNumber → Bool) (fields : List (String × Json)) (value : Json)

def TypeHolds : Prop :=
  ∀ name, (fields.lookup "type").bind Json.asStr = some name → HasType name value = true

def EnumHolds : Prop :=
  ∀ allowed, (fields.lookup "enum").bind Json.asArray = some allowed → value ∈ allowed

def RangeHolds : Prop :=
  ∀ n, value = .num n →
    (∀ low, (fields.lookup "minimum").bind Json.asNumber = some low → less n low = false) ∧
      ∀ high, (fields.lookup "maximum").bind Json.asNumber = some high → less high n = false

def LengthHolds : Prop :=
  ∀ s, value = .str s →
    (∀ low, (fields.lookup "minLength").bind Json.asInt = some low → low ≤ s.length) ∧
      ∀ high, (fields.lookup "maxLength").bind Json.asInt = some high → s.length ≤ high

def ItemCountHolds : Prop :=
  ∀ items, value = .arr items →
    (∀ low, (fields.lookup "minItems").bind Json.asInt = some low → low ≤ items.length) ∧
      ((fields.lookup "uniqueItems").bind Json.asBool = some true → items.Nodup)

def RequiredHolds : Prop :=
  ∀ members names, value = .obj members →
    (fields.lookup "required").bind Json.asArray = some names →
      ∀ name, .str name ∈ names → name ∈ value.keys

def AdditionalHolds : Prop :=
  (fields.lookup "additionalProperties").bind Json.asBool = some false →
    ∀ key ∈ value.keys, key ∈ ((fields.lookup "properties").getD .null).keys

/-- What the keywords of one schema say of a value, its parts apart. -/
structure Asserts : Prop where
  type : TypeHolds fields value
  enum : EnumHolds fields value
  range : RangeHolds less fields value
  length : LengthHolds fields value
  items : ItemCountHolds fields value
  required : RequiredHolds fields value
  additional : AdditionalHolds fields value

variable {fields value}

def PropertyOf (fields : List (String × Json)) (value schema member : Json) : Prop :=
  ∃ properties name, (fields.lookup "properties").bind Json.asObject = some properties ∧
    (name, schema) ∈ properties ∧ value.get name = some member

def ItemOf (fields : List (String × Json)) (value schema item : Json) : Prop :=
  ∃ items, value = .arr items ∧ fields.lookup "items" = some schema ∧ item ∈ items

inductive Satisfies : Json → Json → Prop
  | keywords {fields : List (String × Json)} {value : Json} (asserts : Asserts less fields value)
      (properties : ∀ schema member, PropertyOf fields value schema member → Satisfies schema member)
      (items : ∀ schema item, ItemOf fields value schema item → Satisfies schema item) :
      Satisfies (.obj fields) value

lemma Satisfies.asserts (h : Satisfies less (.obj fields) value) : Asserts less fields value := by
  cases h with
  | keywords asserts _ _ => exact asserts

end JsonSchema

end AgentCore.Foundation
