import AgentCore.Foundation.JsonSchema
import AgentCore.Harness.Manifest

/-! The validator of an operation's arguments against its schema, and what an accepted value
still has to keep to satisfy the schema: the validator knows every keyword it lets pass, and
passes over some of them. -/

namespace AgentCore.Registry

open Foundation Foundation.JsonSchema Harness List Option

variable {properties : List (String × Json)} {schema : Json}

inductive SchemaValidationIssue
  | missingRequired (fields : List String)
  | unexpectedProperty (property : String)
  | enumMismatch (property : Option String) (allowed : List String)
  | typeMismatch
  | outOfRange
deriving DecidableEq

def schemaType (fields : List (String × Json)) : String :=
  ((fields.lookup "type").bind Json.asStr).getD "object"

def propertiesOf (fields : List (String × Json)) : Option (List (String × Json)) :=
  (fields.lookup "properties").bind Json.asObject

def checkVocabulary (fields : List (String × Json)) : Except SchemaValidationIssue Unit :=
  if fields.all (fun f => f.1 ∈ schemaKeywords) then .ok () else .error .typeMismatch

def checkAdditionalProperties (fields members : List (String × Json)) :
    Except SchemaValidationIssue Unit :=
  if ((fields.lookup "additionalProperties").bind Json.asBool).getD true then .ok ()
  else
    match propertiesOf fields with
    | none => .ok ()
    | some properties =>
      match members.find? fun m => decide (m.1 ∉ properties.map Prod.fst) with
      | some m => .error (.unexpectedProperty m.1)
      | none => .ok ()

def missingFields (names : List Json) (members : List (String × Json)) : List String :=
  (names.filterMap Json.asStr).filter fun name => decide (name ∉ members.map Prod.fst)

def checkRequiredFields (fields members : List (String × Json)) :
    Except SchemaValidationIssue Unit :=
  match (fields.lookup "required").bind Json.asArray with
  | none => .ok ()
  | some names =>
    if missingFields names members = [] then .ok ()
    else .error (.missingRequired (missingFields names members))

def validateStringDetailed (property : Option String) (fields : List (String × Json)) (value : Json) :
    Except SchemaValidationIssue Unit :=
  match value with
  | .str _ =>
    match (fields.lookup "enum").bind Json.asArray with
    | none => .ok ()
    | some allowed =>
      if value ∈ allowed then .ok ()
      else .error (.enumMismatch property (allowed.filterMap Json.asStr))
  | _ => .error .typeMismatch

def isInteger : JsonNumber → Bool
  | .int _ => true
  | .float _ => false

section

variable (less : JsonNumber → JsonNumber → Bool)

def validateNumberDetailed (fields : List (String × Json)) (value : Json) :
    Except SchemaValidationIssue Unit :=
  match value with
  | .num n =>
    if (fields.lookup "type").bind Json.asStr = some "integer" ∧ isInteger n = false then
      .error .typeMismatch
    else if ((fields.lookup "minimum").bind Json.asNumber).any (fun low => less n low) then
      .error .outOfRange
    else if ((fields.lookup "maximum").bind Json.asNumber).any (fun high => less high n) then
      .error .outOfRange
    else .ok ()
  | _ => .error .typeMismatch

mutual

def validateAgainstSchemaDetailed : Json → Json → Except SchemaValidationIssue Unit
  | .obj fields, value => do
    checkVocabulary fields
    if schemaType fields = "object" then
      match value with
      | .obj members => do
        checkAdditionalProperties fields members
        checkRequiredFields fields members
        validateProperties fields members
      | _ => .error .typeMismatch
    else if schemaType fields = "string" then validateStringDetailed none fields value
    else if schemaType fields = "integer" ∨ schemaType fields = "number" then
      validateNumberDetailed less fields value
    else if schemaType fields = "boolean" then
      match value with
      | .bool _ => .ok ()
      | _ => .error .typeMismatch
    else if schemaType fields = "array" then
      match value with
      | .arr items => validateItems fields items
      | _ => .error .typeMismatch
    else .error .typeMismatch
  | .null, _ | .bool _, _ | .num _, _ | .str _, _ | .arr _, _ => .error .typeMismatch

/-- An object has one member of each name: the first named `properties` is the only one. -/
def validateProperties : List (String × Json) → List (String × Json) →
    Except SchemaValidationIssue Unit
  | [], _ => .ok ()
  | (key, v) :: rest, members =>
    if "properties" = key then validatePropertySchemas v members else validateProperties rest members

def validatePropertySchemas : Json → List (String × Json) → Except SchemaValidationIssue Unit
  | .obj properties, members => validateEachProperty properties members
  | .null, _ | .bool _, _ | .num _, _ | .str _, _ | .arr _, _ => .ok ()

def validateEachProperty : List (String × Json) → List (String × Json) →
    Except SchemaValidationIssue Unit
  | [], _ => .ok ()
  | (name, schema) :: rest, members => do
    match members.lookup name with
    | some member => validateAgainstSchemaDetailed schema member
    | none => .ok ()
    validateEachProperty rest members

def validateItems : List (String × Json) → List Json → Except SchemaValidationIssue Unit
  | [], _ => .ok ()
  | (key, schema) :: rest, items =>
    if "items" = key then items.forM fun item => validateAgainstSchemaDetailed schema item
    else validateItems rest items

end

/-! ## What an accepted value has been checked for -/

variable {less} {fields members : List (String × Json)} {value : Json} {name : String}

lemma checkAdditionalProperties_eq_ok (h : checkAdditionalProperties fields members = .ok ())
    (hproperties : propertiesOf fields = some properties)
    (hclosed : (fields.lookup "additionalProperties").bind Json.asBool = some false) :
    ∀ key ∈ members.map Prod.fst, key ∈ properties.map Prod.fst := by
  intro key hkey
  obtain ⟨member, hmember, rfl⟩ := mem_map.mp hkey
  rw [checkAdditionalProperties, hclosed, hproperties] at h
  simp only [getD_some, Bool.false_eq_true, if_false] at h
  split at h
  · cases h
  · rename_i hfind
    have hlisted := find?_eq_none.mp hfind member hmember
    exact Decidable.not_not.mp fun hmissing => hlisted (decide_eq_true hmissing)

lemma checkRequiredFields_eq_ok (h : checkRequiredFields fields members = .ok ())
    (hnames : (fields.lookup "required").bind Json.asArray = some names)
    (hname : .str name ∈ names) : name ∈ members.map Prod.fst := by
  rw [checkRequiredFields, hnames] at h
  simp only at h
  split at h
  · rename_i hnone
    by_contra hmissing
    have hmem : name ∈ missingFields names members :=
      mem_filter.mpr ⟨mem_filterMap.mpr ⟨_, hname, rfl⟩, decide_eq_true hmissing⟩
    rw [hnone] at hmem
    exact not_mem_nil hmem
  · cases h

lemma forM_eq_ok {ε α : Type} {check : α → Except ε Unit} {l : List α} :
    l.forM check = .ok () ↔ ∀ a ∈ l, check a = .ok () := by
  induction l with
  | nil => simp [pure, Except.pure]
  | cons a l ih =>
    rw [forall_mem_cons, ← ih]
    exact check_bind_eq_ok

lemma first_named {ε : Type} {check : Json → Except ε Unit}
    {g : List (String × Json) → Except ε Unit} (hnil : g [] = .ok ())
    (hcons : ∀ key v rest, g ((key, v) :: rest) = if name = key then check v else g rest)
    (fields : List (String × Json)) : g fields = (fields.lookup name).elim (.ok ()) check := by
  induction fields with
  | nil => exact hnil
  | cons field rest ih =>
    rw [hcons, Json.lookup_cons_eq, ih]
    split <;> rfl

lemma validateEachProperty_eq (properties members : List (String × Json)) :
    validateEachProperty less properties members = properties.forM fun p =>
      (members.lookup p.1).elim (.ok ()) (validateAgainstSchemaDetailed less p.2) := by
  induction properties with
  | nil => rw [validateEachProperty]; rfl
  | cons p rest ih =>
    rw [validateEachProperty, ih]
    cases hmember : members.lookup p.1 <;> simp [List.forM, hmember]

lemma validateProperties_eq (fields members : List (String × Json)) :
    validateProperties less fields members =
      (propertiesOf fields).elim (.ok ()) (validateEachProperty less · members) := by
  rw [first_named (g := (validateProperties less · members)) (by rw [validateProperties])
    (fun _ _ _ => by rw [validateProperties]), propertiesOf]
  cases fields.lookup "properties" with
  | none => rfl
  | some v => cases v <;> simp [validatePropertySchemas, Json.asObject]

lemma validateItems_eq (fields : List (String × Json)) (items : List Json) :
    validateItems less fields items = (fields.lookup "items").elim (.ok ()) fun schema =>
      items.forM fun item => validateAgainstSchemaDetailed less schema item :=
  first_named (g := (validateItems less · items)) (by rw [validateItems])
    (fun _ _ _ => by rw [validateItems]) fields

lemma validateNumberDetailed_eq_ok (h : validateNumberDetailed less fields value = .ok ()) :
    ∃ n, value = .num n ∧
      ((fields.lookup "type").bind Json.asStr = some "integer" → isInteger n = true) ∧
      RangeHolds less fields value := by
  unfold validateNumberDetailed at h
  split at h
  · rename_i n
    split_ifs at h with htype hlow hhigh
    refine ⟨n, rfl, fun hint => ?_, ?_⟩
    · cases hn : isInteger n with
      | true => rfl
      | false => exact absurd ⟨hint, hn⟩ htype
    · intro m hm
      obtain rfl : n = m := Json.num.inj hm
      refine ⟨fun low hlow' => ?_, fun high hhigh' => ?_⟩
      · rw [hlow'] at hlow
        simpa using hlow
      · rw [hhigh'] at hhigh
        simpa using hhigh
  · cases h

inductive Accepted (less : JsonNumber → JsonNumber → Bool) (fields : List (String × Json)) :
    Json → Prop
  | object {members : List (String × Json)} (type : schemaType fields = "object")
      (additional : checkAdditionalProperties fields members = .ok ())
      (required : checkRequiredFields fields members = .ok ())
      (properties : validateProperties less fields members = .ok ()) :
      Accepted less fields (.obj members)
  | string {s : String} (type : schemaType fields = "string")
      (enum : EnumHolds fields (.str s)) : Accepted less fields (.str s)
  | number {n : JsonNumber} (type : schemaType fields = "integer" ∨ schemaType fields = "number")
      (integer : (fields.lookup "type").bind Json.asStr = some "integer" → isInteger n = true)
      (range : RangeHolds less fields (.num n)) : Accepted less fields (.num n)
  | boolean {b : Bool} (type : schemaType fields = "boolean") : Accepted less fields (.bool b)
  | array {items : List Json} (type : schemaType fields = "array")
      (each : validateItems less fields items = .ok ()) : Accepted less fields (.arr items)

lemma validateStringDetailed_eq_ok (h : validateStringDetailed property fields value = .ok ()) :
    ∃ s, value = .str s ∧ EnumHolds fields value := by
  unfold validateStringDetailed at h
  split at h
  · rename_i s
    refine ⟨s, rfl, fun allowed hallowed => ?_⟩
    rw [hallowed] at h
    simp only at h
    split_ifs at h with hmem
    exact hmem
  · cases h

lemma accepted_of_ok (h : validateAgainstSchemaDetailed less (.obj fields) value = .ok ()) :
    Accepted less fields value := by
  rw [validateAgainstSchemaDetailed.eq_def] at h
  obtain ⟨_, -, h⟩ := bind_eq_ok.mp h
  split_ifs at h with hobject hstring hnumber hboolean harray
  · split at h
    · obtain ⟨_, hadditional, h⟩ := bind_eq_ok.mp h
      obtain ⟨_, hrequired, h⟩ := bind_eq_ok.mp h
      exact .object hobject hadditional hrequired h
    · cases h
  · obtain ⟨s, rfl, henum⟩ := validateStringDetailed_eq_ok h
    exact .string hstring henum
  · obtain ⟨n, rfl, hint, hrange⟩ := validateNumberDetailed_eq_ok h
    exact .number hnumber hint hrange
  · split at h
    · exact .boolean hboolean
    · cases h
  · split at h
    · exact .array harray h
    · cases h

namespace Accepted

lemma typeHolds (h : Accepted less fields value) : TypeHolds fields value := by
  intro name hname
  have htype : schemaType fields = name := by rw [schemaType, hname, getD_some]
  cases h with
  | object type _ _ _ | string type _ | boolean type | array type _ =>
    obtain rfl := type.symm.trans htype
    rfl
  | @number n type integer _ =>
    rcases type with type | type
    · obtain rfl := type.symm.trans htype
      cases n with
      | int z => rfl
      | float text => cases integer hname
    · obtain rfl := type.symm.trans htype
      cases n with
      | int z => rfl
      | float text => rfl

lemma rangeHolds (h : Accepted less fields value) : RangeHolds less fields value := by
  cases h with
  | number _ _ range => exact range
  | object | string | boolean | array =>
    intro n hn
    cases hn

lemma requiredHolds (h : Accepted less fields value) : RequiredHolds fields value := by
  intro members names hvalue hnames name hname
  cases h with
  | object _ _ required _ => exact checkRequiredFields_eq_ok required hnames hname
  | string | number | boolean | array => cases hvalue

lemma additionalHolds (h : Accepted less fields value)
    (hproperties : propertiesOf fields = some properties) : AdditionalHolds fields value := by
  intro hclosed key hkey
  cases h with
  | object _ additional _ _ =>
    have hlisted := checkAdditionalProperties_eq_ok additional hproperties hclosed key hkey
    obtain ⟨v, hv, hobj⟩ := bind_eq_some_iff.mp hproperties
    rw [hv, getD_some, Json.keys, hobj, getD_some]
    exact hlisted
  | string | number | boolean | array => exact absurd hkey not_mem_nil

lemma enumHolds (h : Accepted less fields value) (htype : schemaType fields = "string") :
    EnumHolds fields value := by
  cases h with
  | string _ enum => exact enum
  | object type _ _ _ | boolean type | array type _ =>
    exact absurd (type.symm.trans htype) (by decide)
  | number type _ _ =>
    rcases type with type | type
    · exact absurd (type.symm.trans htype) (by decide)
    · exact absurd (type.symm.trans htype) (by decide)

lemma property (h : Accepted less fields value) {member : Json}
    (hp : PropertyOf fields value schema member) :
    validateAgainstSchemaDetailed less schema member = .ok () := by
  obtain ⟨properties, name, hproperties, hschema, hmember⟩ := hp
  cases h with
  | object _ _ _ each =>
    rw [validateProperties_eq, propertiesOf, hproperties, elim_some, validateEachProperty_eq] at each
    have hchecked := forM_eq_ok.mp each _ hschema
    rwa [show lookup name _ = some member from hmember] at hchecked
  | string | number | boolean | array => cases hmember

lemma item (h : Accepted less fields value) {item : Json} (hi : ItemOf fields value schema item) :
    validateAgainstSchemaDetailed less schema item = .ok () := by
  obtain ⟨items, hvalue, hschema, hitem⟩ := hi
  cases h with
  | array _ each =>
    obtain rfl := Json.arr.inj hvalue
    rw [validateItems_eq, hschema] at each
    exact forM_eq_ok.mp each _ hitem
  | object | string | number | boolean => cases hvalue

end Accepted

/-! ## The keywords passed over -/

/-- What the keywords say that the validator lets into a schema and does not look at. -/
structure UncheckedHolds (fields : List (String × Json)) (value : Json) : Prop where
  length : LengthHolds fields value
  items : ItemCountHolds fields value
  enum : schemaType fields ≠ "string" → EnumHolds fields value
  additional : propertiesOf fields = none → AdditionalHolds fields value

inductive KeepsUnchecked : Json → Json → Prop
  | keywords {fields : List (String × Json)} {value : Json} (unchecked : UncheckedHolds fields value)
      (properties : ∀ schema member, PropertyOf fields value schema member →
        KeepsUnchecked schema member)
      (items : ∀ schema item, ItemOf fields value schema item → KeepsUnchecked schema item) :
      KeepsUnchecked (.obj fields) value

lemma asserts_of_accepted (h : Accepted less fields value) (hu : UncheckedHolds fields value) :
    Asserts less fields value where
  type := h.typeHolds
  range := h.rangeHolds
  required := h.requiredHolds
  length := hu.length
  items := hu.items
  enum := by
    by_cases htype : schemaType fields = "string"
    · exact h.enumHolds htype
    · exact hu.enum htype
  additional := by
    cases hproperties : propertiesOf fields with
    | none => exact hu.additional hproperties
    | some properties => exact h.additionalHolds hproperties

lemma satisfies_iff_keepsUnchecked (h : validateAgainstSchemaDetailed less schema value = .ok ()) :
    Satisfies less schema value ↔ KeepsUnchecked schema value := by
  constructor
  · intro hs
    induction hs with
    | keywords asserts _ _ ihProperties ihItems =>
      have haccepted := accepted_of_ok h
      refine .keywords ⟨asserts.length, asserts.items, fun _ => asserts.enum,
        fun _ => asserts.additional⟩ ?_ ?_
      · intro schema member hp
        exact ihProperties schema member hp (haccepted.property hp)
      · intro schema item hi
        exact ihItems schema item hi (haccepted.item hi)
  · intro hk
    induction hk with
    | keywords unchecked _ _ ihProperties ihItems =>
      have haccepted := accepted_of_ok h
      refine .keywords (asserts_of_accepted haccepted unchecked) ?_ ?_
      · intro schema member hp
        exact ihProperties schema member hp (haccepted.property hp)
      · intro schema item hi
        exact ihItems schema item hi (haccepted.item hi)

/-- The keywords that restrict a text, a list, a choice or the names of an object hold of the
value and of all its parts that have a schema. -/
inductive KeywordsHold : Json → Json → Prop
  | keywords {fields : List (String × Json)} {value : Json} (length : LengthHolds fields value)
      (count : ItemCountHolds fields value) (enum : EnumHolds fields value)
      (additional : AdditionalHolds fields value)
      (properties : ∀ schema member, PropertyOf fields value schema member →
        KeywordsHold schema member)
      (items : ∀ schema item, ItemOf fields value schema item → KeywordsHold schema item) :
      KeywordsHold (.obj fields) value

lemma keywordsHold_of_satisfies (h : Satisfies less schema value) : KeywordsHold schema value := by
  induction h with
  | keywords asserts _ _ ihProperties ihItems =>
    exact .keywords asserts.length asserts.items asserts.enum asserts.additional ihProperties ihItems

lemma KeywordsHold.keepsUnchecked (h : KeywordsHold schema value) :
    KeepsUnchecked schema value := by
  induction h with
  | keywords length count enum additional _ _ ihProperties ihItems =>
    exact .keywords ⟨length, count, fun _ => enum, fun _ => additional⟩ ihProperties ihItems

/-- They hold of an accepted value exactly if those that the validator passes over do. -/
theorem keywords_enforced_iff {value : Json}
    (h : validateAgainstSchemaDetailed less schema value = .ok ()) :
    KeywordsHold schema value ↔ KeepsUnchecked schema value := by
  constructor
  · exact KeywordsHold.keepsUnchecked
  · intro hk
    exact keywordsHold_of_satisfies ((satisfies_iff_keepsUnchecked h).mpr hk)

def nonemptyText : Json := .obj [("type", .str "string"), ("minLength", .num (.int 1))]

theorem keywords_enforced_letter :
    KeywordsHold nonemptyText (.str "a") ↔ KeepsUnchecked nonemptyText (.str "a") :=
  @keywords_enforced_iff nonemptyText (fun _ _ => false) (.str "a") (by decide +kernel)

/-- The empty text passes for one of at least one letter. -/
theorem keywords_unenforced_empty :
    validateSchemaStructure nonemptyText = .ok () ∧
      validateAgainstSchemaDetailed (fun _ _ => false) nonemptyText (.str "") = .ok () ∧
      ¬ KeywordsHold nonemptyText (.str "") := by
  refine ⟨by decide +kernel, by decide +kernel, fun h => ?_⟩
  cases h with
  | keywords length _ _ _ _ _ => exact absurd ((length "" rfl).1 1 rfl) (by decide)

/-! ## Schemas that turn every value away -/

end

end AgentCore.Registry
