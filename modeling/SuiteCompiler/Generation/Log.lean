/-
  SuiteCompiler/Generation/Log.lean
  =================================
  Computations that keep a log.  A computation has an outcome and the records that
  were logged on the way to it; the records stay when the outcome is a failure.
-/

namespace SuiteCompiler

/-- The levels of log records, from the least to the most severe. -/
inductive LogLevel where
  | debug
  | info
  | warning
  | error
  | critical
  deriving DecidableEq, Repr

namespace LogLevel

/-- The name of a level. -/
def name : LogLevel → String
  | .debug => "DEBUG"
  | .info => "INFO"
  | .warning => "WARNING"
  | .error => "ERROR"
  | .critical => "CRITICAL"

/-- The rank of a level. -/
def rank : LogLevel → Nat
  | .debug => 10
  | .info => 20
  | .warning => 30
  | .error => 40
  | .critical => 50

/-- The levels. -/
def all : List LogLevel := [.debug, .info, .warning, .error, .critical]

/-- The level of a name. -/
def ofName? (s : String) : Option LogLevel := all.find? (·.name = s)

end LogLevel

/-- A line of the log. -/
structure LogRecord where
  level : LogLevel
  text : String
  deriving DecidableEq, Repr

/-- A computation that may fail, with what it logged. -/
structure Logged (ε α : Type) where
  outcome : Except ε α
  records : List LogRecord

namespace Logged

variable {ε α β : Type}

/-- Logs a line. -/
def log (level : LogLevel) (text : String) : Logged ε Unit := ⟨.ok (), [⟨level, text⟩]⟩

/-- The computation that only has an outcome. -/
def lift (outcome : Except ε α) : Logged ε α := ⟨outcome, []⟩

/-- The computation that fails. -/
def fail (e : ε) : Logged ε α := ⟨.error e, []⟩

/-- One computation after another, unless the first one fails. -/
def andThen (x : Logged ε α) (f : α → Logged ε β) : Logged ε β :=
  match x.outcome with
  | .error e => ⟨.error e, x.records⟩
  | .ok a => ⟨(f a).outcome, x.records ++ (f a).records⟩

instance : Monad (Logged ε) where
  pure a := ⟨.ok a, []⟩
  bind := andThen

/-- The computation of every element in order. -/
def each (f : α → Logged ε β) : List α → Logged ε (List β)
  | [] => pure []
  | a :: rest => do
    let b ← f a
    let bs ← each f rest
    return b :: bs

/-! ### The outcome -/

@[simp] theorem outcome_pure (a : α) : (pure a : Logged ε α).outcome = .ok a := rfl

@[simp] theorem outcome_fail (e : ε) : (fail e : Logged ε α).outcome = .error e := rfl

@[simp] theorem outcome_lift (x : Except ε α) : (lift x).outcome = x := rfl

@[simp] theorem outcome_log (level : LogLevel) (text : String) :
    (log level text : Logged ε Unit).outcome = .ok () := rfl

/-- The outcome does not depend on the log. -/
@[simp] theorem outcome_bind (x : Logged ε α) (f : α → Logged ε β) :
    (x >>= f).outcome = x.outcome >>= fun a => (f a).outcome := by
  simp only [bind, andThen]
  cases x.outcome <;> rfl

end Logged

end SuiteCompiler
