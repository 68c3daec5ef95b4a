/-
  SuiteCompiler/Document/Value.lean
  =================================
  The values that documents are made of.  Whole numbers and floating-point numbers
  are kept apart, since they are written differently, and the fields of an object
  keep their order.  Most fields of a suite are not checked when it is read, so
  values of any kind travel through the compiler up to the place where one is used.
-/
import SuiteCompiler.Number.Double

namespace SuiteCompiler

open Number (Double)

/-- A value of a document. -/
inductive Value where
  | null
  | bool (b : Bool)
  | int (n : Int)
  | float (x : Double)
  | text (s : String)
  | list (items : List Value)
  | object (fields : List (String × Value))
  deriving Repr, Inhabited

/-- The fields of an object, in order. -/
abbrev Fields := List (String × Value)

/-- The kinds of values. -/
inductive Kind where
  | null
  | bool
  | int
  | float
  | text
  | list
  | object
  deriving DecidableEq, Repr

/-- The name by which messages call a kind. -/
def Kind.name : Kind → String
  | .null => "NoneType"
  | .bool => "bool"
  | .int => "int"
  | .float => "float"
  | .text => "str"
  | .list => "list"
  | .object => "dict"

namespace Value

/-! ### Equality -/

mutual

/-- Whether two values are equal. -/
def equal : Value → Value → Bool
  | .null, .null => true
  | .bool a, .bool b => a == b
  | .int a, .int b => a == b
  | .float a, .float b => a == b
  | .text a, .text b => a == b
  | .list a, .list b => equalItems a b
  | .object a, .object b => equalFields a b
  | _, _ => false

/-- Whether two lists of values are equal. -/
def equalItems : List Value → List Value → Bool
  | [], [] => true
  | a :: as, b :: bs => equal a b && equalItems as bs
  | _, _ => false

/-- Whether two lists of fields are equal. -/
def equalFields : List (String × Value) → List (String × Value) → Bool
  | [], [] => true
  | (m, a) :: as, (n, b) :: bs => m == n && equal a b && equalFields as bs
  | _, _ => false

end

mutual

theorem equal_iff : ∀ a b : Value, equal a b = true ↔ a = b
  | .null, b => by cases b <;> simp [equal]
  | .bool _, b => by cases b <;> simp [equal]
  | .int _, b => by cases b <;> simp [equal]
  | .float _, b => by cases b <;> simp [equal]
  | .text _, b => by cases b <;> simp [equal]
  | .list as, b => by
    cases b with
    | list bs => simpa [equal] using equalItems_iff as bs
    | _ => simp [equal]
  | .object as, b => by
    cases b with
    | object bs => simpa [equal] using equalFields_iff as bs
    | _ => simp [equal]

theorem equalItems_iff : ∀ as bs : List Value, equalItems as bs = true ↔ as = bs
  | [], bs => by cases bs <;> simp [equalItems]
  | a :: as, bs => by
    cases bs with
    | nil => simp [equalItems]
    | cons b bs => simp [equalItems, equal_iff a b, equalItems_iff as bs]

theorem equalFields_iff : ∀ as bs : List (String × Value), equalFields as bs = true ↔ as = bs
  | [], bs => by cases bs <;> simp [equalFields]
  | (m, a) :: as, bs => by
    cases bs with
    | nil => simp [equalFields]
    | cons field bs =>
      obtain ⟨n, b⟩ := field
      simp [equalFields, equal_iff a b, equalFields_iff as bs]

end

instance : DecidableEq Value := fun a b => decidable_of_iff _ (equal_iff a b)

/-! ### Kinds and truth -/

/-- The kind of a value. -/
def kind : Value → Kind
  | .null => .null
  | .bool _ => .bool
  | .int _ => .int
  | .float _ => .float
  | .text _ => .text
  | .list _ => .list
  | .object _ => .object

/-- Whether a value counts as given: null, false, zeros and empty texts, lists and objects do
not. -/
def isTruthy : Value → Bool
  | .null => false
  | .bool b => b
  | .int n => n ≠ 0
  | .float x => !x.isZero
  | .text s => s ≠ ""
  | .list items => !items.isEmpty
  | .object fields => !fields.isEmpty

/-- The value itself if it counts as given, else another one. -/
def orElse (v other : Value) : Value := if v.isTruthy then v else other

/-- The text itself if the value is one. -/
def text? : Value → Option String
  | .text s => some s
  | _ => none

/-- The empty text, which stands for a name or title that is not given. -/
def empty : Value := .text ""

end Value

namespace Fields

/-- The value of a field. -/
def get? (fields : Fields) (name : String) : Option Value := fields.lookup name

/-- The value of a field, null if there is none. -/
def get (fields : Fields) (name : String) : Value := (fields.lookup name).getD .null

/-- Whether there is a field of that name. -/
def has (fields : Fields) (name : String) : Bool := (fields.lookup name).isSome

/-- The fields with one of them set: it keeps its place if it was there and comes last if not. -/
def set (name : String) (value : Value) : Fields → Fields
  | [] => [(name, value)]
  | (n, v) :: rest => if n = name then (n, value) :: rest else (n, v) :: set name value rest

/-- A field that is set has its value. -/
@[simp] theorem get?_set_self (name : String) (value : Value) (fields : Fields) :
    (fields.set name value).get? name = some value := by
  induction fields with
  | nil => simp [set, get?]
  | cons field fields ih =>
    obtain ⟨n, v⟩ := field
    by_cases h : n = name
    · simp [set, get?, h]
    · have h' : (name == n) = false := by simpa using Ne.symm h
      simpa [set, get?, h, List.lookup_cons, h'] using ih

/-- Setting a field leaves the others as they are. -/
theorem get?_set_of_ne {name other : String} (h : other ≠ name) (value : Value) (fields : Fields) :
    (fields.set name value).get? other = fields.get? other := by
  induction fields with
  | nil =>
    have h' : (other == name) = false := by simpa using h
    simp [set, get?, List.lookup_cons, h']
  | cons field fields ih =>
    obtain ⟨n, v⟩ := field
    by_cases hn : n = name
    · have h' : (other == n) = false := by simpa [hn] using h
      simp [set, get?, hn, List.lookup_cons, hn ▸ h']
    · cases ho : other == n <;> simp_all [set, get?, List.lookup_cons]

/-- The fields with others set one after another. -/
def setAll (fields others : Fields) : Fields :=
  others.foldl (fun fields (name, value) => set name value fields) fields

/-- The fields that remain when a name is given more than once: each name at its first place, with
its last value. -/
def ofPairs (pairs : List (String × Value)) : Fields :=
  pairs.foldl (fun fields (name, value) => set name value fields) []

end Fields

end SuiteCompiler
