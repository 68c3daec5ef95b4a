/-
  SuiteCompiler/Template/Schema.lean
  ==================================
  The schema: which renderer serves a method of the page or of an element, and the
  composer.  A renderer is checked when it is registered, so a look-up only asks
  whether there is one.

  An inserted renderer serves its method (`renderer?_insert_self`) and changes
  nothing for any other method of either kind (`renderer?_insert_of_ne`).
-/
import SuiteCompiler.Template.Basic
import SuiteCompiler.Text.Identifier

namespace SuiteCompiler

/-- Why a renderer is not registered. -/
inductive SchemaFault where
  | unknownKind (kind : Value)
  | invalidMethod (method : Value) (kind : TargetKind)
  | notCallable (kind : TargetKind) (method : String)
  | alreadyRegistered (kind : TargetKind) (method : String)
  deriving DecidableEq, Repr

/-- The text that reports a fault. -/
def SchemaFault.message : SchemaFault → String
  | .unknownKind kind =>
    let names := ", ".intercalate (TargetKind.all.map TargetKind.name)
    s!"Unknown target kind {kind.literal} (expected one of: {names})"
  | .invalidMethod method kind => s!"Invalid method name {method.literal} for {kind.name}"
  | .notCallable kind method => s!"Renderer for {kind.name}.{method} is not callable"
  | .alreadyRegistered kind method => s!"Renderer for {kind.name}.{method} already registered"

/-- How a registration tells its kind: by the kind itself, or by a value that has to be its name. -/
inductive KindArgument where
  | kind (k : TargetKind)
  | value (v : Value)
  deriving DecidableEq, Repr

instance : Coe Value KindArgument := ⟨.value⟩

/-- The kind that is told. -/
def KindArgument.resolve : KindArgument → Except SchemaFault TargetKind
  | .kind k => .ok k
  | .value v =>
    match v.text?.bind TargetKind.ofName? with
    | some k => .ok k
    | none => .error (.unknownKind v)

/-- What is looked up is an entry. -/
theorem mem_of_lookup {κ α : Type} [BEq κ] [LawfulBEq κ] {entries : List (κ × α)} {key : κ} {a : α}
    (h : entries.lookup key = some a) : (key, a) ∈ entries := by
  obtain ⟨before, after, rfl, -⟩ := List.lookup_eq_some_iff.1 h
  simp

/-- Removing the entries of a key leaves the look-up of the others as it is. -/
theorem lookup_filter_ne {κ α : Type} [BEq κ] [LawfulBEq κ] [DecidableEq κ] {key other : κ}
    (h : other ≠ key) (entries : List (κ × α)) :
    (entries.filter (·.1 ≠ key)).lookup other = entries.lookup other := by
  induction entries with
  | nil => rfl
  | cons entry entries ih =>
    obtain ⟨k, a⟩ := entry
    by_cases hk : k = key
    · have hb : (other == k) = false := by simpa [hk] using h
      rw [List.filter_cons_of_neg (by simp [hk]), ih]
      simp only [List.lookup_cons, hb]
    · rw [List.filter_cons_of_pos (by simp [hk])]
      simp only [List.lookup_cons, ih]

/-- The renderers of each kind, by method, and the composer. -/
structure Schema where
  composer : Composer
  page : List (String × Renderer) := []
  element : List (String × Renderer) := []

namespace Schema

/-- The renderers of a kind. -/
def renderers (s : Schema) : TargetKind → List (String × Renderer)
  | .page => s.page
  | .element => s.element

/-- The renderer of a method. -/
def renderer? (s : Schema) (kind : TargetKind) (method : String) : Option Renderer :=
  (s.renderers kind).lookup method

/-- Makes a renderer the one that serves a method. -/
def insert (s : Schema) (kind : TargetKind) (method : String) (renderer : Renderer) : Schema :=
  match kind with
  | .page => { s with page := (method, renderer) :: s.page.filter (·.1 ≠ method) }
  | .element => { s with element := (method, renderer) :: s.element.filter (·.1 ≠ method) }

/-- The renderer that is inserted serves its method. -/
theorem renderer?_insert_self (s : Schema) (kind : TargetKind) (method : String)
    (renderer : Renderer) :
    (s.insert kind method renderer).renderer? kind method = some renderer := by
  cases kind <;> simp [insert, renderer?, renderers]

/-- Every other method of either kind is served as before. -/
theorem renderer?_insert_of_ne (s : Schema) {kind kind' : TargetKind} {method method' : String}
    (h : kind' ≠ kind ∨ method' ≠ method) (renderer : Renderer) :
    (s.insert kind method renderer).renderer? kind' method' = s.renderer? kind' method' := by
  rcases h with h | h
  · cases kind with
    | page =>
      cases kind' with
      | page => exact absurd rfl h
      | element => rfl
    | element =>
      cases kind' with
      | page => rfl
      | element => exact absurd rfl h
  · have hb : (method' == method) = false := by simpa using h
    cases kind <;> cases kind' <;>
      simp only [insert, renderer?, renderers, List.lookup_cons, hb, lookup_filter_ne h]

/-- A change of a schema, which may fail; what it wrote before it fails stays written. -/
abbrev Change (α : Type) := ExceptT SchemaFault (StateM Schema) α

/-- Registers a renderer for a method of a kind; none stands for a thing that is no renderer.  An
earlier one gives way only if `replace` says so. -/
def register (kind : KindArgument) (method : Value) (renderer : Option Renderer)
    (replace : Bool) : Change Unit := do
  let k ← kind.resolve
  let some m := method.text? | throw (.invalidMethod method k)
  unless Text.isIdentifier m do throw (.invalidMethod method k)
  let some r := renderer | throw (.notCallable k m)
  if ((← get).renderer? k m).isSome && !replace then throw (.alreadyRegistered k m)
  modify fun s => s.insert k m r

/-- Registers a renderer that is given after all else, and gives it back. -/
def template (kind : KindArgument) (method : Value) (replace : Bool)
    (renderer : Option Renderer) : Change (Option Renderer) := do
  register kind method renderer replace
  return renderer

/-- The renderer of a method that is not known to be a text. -/
def find? (s : Schema) (kind : TargetKind) :
    Value → Except TemplateFault (Option (String × Renderer))
  | .text method => .ok ((s.renderer? kind method).map fun r => (method, r))
  | .list _ => .error (.unhashable .list)
  | .object _ => .error (.unhashable .object)
  | _ => .ok none

/-- Whether a method has a renderer. -/
def supports (s : Schema) (kind : TargetKind) (method : Value) : Except TemplateFault Bool :=
  (s.find? kind method).map (·.isSome)

/-- The methods of a kind that have a renderer, by code point. -/
def methods (s : Schema) (kind : TargetKind) : List String :=
  ((s.renderers kind).map (·.1)).mergeSort fun a b => decide (a ≤ b)

/-- The text of a command by the renderer of its method. -/
def render (s : Schema) (kind : TargetKind) (method : Value) (context : String → RenderContext) :
    Except TemplateFault String := do
  match ← s.find? kind method with
  | some (name, renderer) => renderer (context name)
  | none => throw (.unsupported method)

end Schema

end SuiteCompiler
