/-!
# Logs

A computation in `Logged` may fail and writes a log either way: what was logged before a fault is
kept with it. `Logged.result_bind` says that the results alone compose as if there were no log.
-/

namespace FlowGate

inductive LogLevel where
  | debug
  | info
  | warning
  deriving DecidableEq, Repr

namespace LogLevel

def name : LogLevel → String
  | debug => "DEBUG"
  | info => "INFO"
  | warning => "WARNING"

/-- The rank by which levels are held against a threshold. -/
def rank : LogLevel → Nat
  | debug => 10
  | info => 20
  | warning => 30

end LogLevel

inductive LogSource where
  | flowDocument
  | loader
  | flowCheck
  | domainCheck
  | eventCheck
  | commandLine
  deriving DecidableEq, Repr

def LogSource.name : LogSource → String
  | flowDocument => "dddflow.model.flow"
  | loader => "dddflow.config.project_loader"
  | flowCheck => "dddflow.validator.flow_validator"
  | domainCheck => "dddflow.validator.domain_validator"
  | eventCheck => "dddflow.validator.system_validator"
  | commandLine => "dddflow.tools.validate_project"

structure LogEntry where
  level : LogLevel
  source : LogSource
  message : String
  deriving DecidableEq, Repr

def LogEntry.line (e : LogEntry) : String :=
  e.level.name ++ " " ++ e.source.name ++ ": " ++ e.message

/-- A computation that may fail and writes a log. -/
structure Logged (ε α : Type) where
  result : Except ε α
  log : List LogEntry

namespace Logged

variable {ε α β : Type}

/-- The second computation after the first; a fault ends both and keeps what was logged. -/
protected def bind (x : Logged ε α) (f : α → Logged ε β) : Logged ε β :=
  match x.result with
  | .ok a => ⟨(f a).result, x.log ++ (f a).log⟩
  | .error e => ⟨.error e, x.log⟩

instance : Monad (Logged ε) where
  pure a := ⟨.ok a, []⟩
  bind := Logged.bind

def lift (r : Except ε α) : Logged ε α := ⟨r, []⟩

def fail (e : ε) : Logged ε α := ⟨.error e, []⟩

def mapError {δ : Type} (f : ε → δ) (x : Logged ε α) : Logged δ α := ⟨x.result.mapError f, x.log⟩

def write (level : LogLevel) (source : LogSource) (message : String) : Logged ε Unit :=
  ⟨.ok (), [⟨level, source, message⟩]⟩

@[simp] theorem result_pure (a : α) : (pure a : Logged ε α).result = .ok a := rfl

@[simp] theorem result_lift (r : Except ε α) : (lift r).result = r := rfl

@[simp] theorem result_fail (e : ε) : (fail e : Logged ε α).result = .error e := rfl

@[simp] theorem result_write (level : LogLevel) (source : LogSource) (message : String) :
    (write level source message : Logged ε Unit).result = .ok () := rfl

theorem result_bind (x : Logged ε α) (f : α → Logged ε β) :
    (x >>= f).result = x.result.bind fun a => (f a).result := by
  show (Logged.bind x f).result = _
  unfold Logged.bind
  cases x.result <;> rfl

end Logged

end FlowGate
