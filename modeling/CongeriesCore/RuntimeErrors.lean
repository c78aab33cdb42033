import CongeriesCore.JsonValue

/-! # Structured errors

`ErrorDetail` is the public error; `Raised` is what a Python call may raise: a
`CoreError`, which `except CoreError` catches, or an exception that it does not. -/

namespace CongeriesCore

inductive ErrorCategory
  | invalidRequest
  | denied
  | unavailable
  | timeout
  | cancelled
  | conflict
  | versionMismatch
  | partialResult
  | unsupportedCapability
  | protocolFailure
  deriving DecidableEq, Repr

def ErrorCategory.value : ErrorCategory → String
  | .invalidRequest => "invalid_request"
  | .denied => "denied"
  | .unavailable => "unavailable"
  | .timeout => "timeout"
  | .cancelled => "cancelled"
  | .conflict => "conflict"
  | .versionMismatch => "version_mismatch"
  | .partialResult => "partial_result"
  | .unsupportedCapability => "unsupported_capability"
  | .protocolFailure => "protocol_failure"

inductive JsonScalar
  | null
  | bool (value : Bool)
  | int (value : ℤ)
  | float (bits : UInt64)
  | str (value : String)
  deriving DecidableEq, Repr

def JsonScalar.value : JsonScalar → JsonValue
  | .null => .null
  | .bool value => .bool value
  | .int value => .int value
  | .float bits => .float bits
  | .str value => .str value

structure ErrorDetail where
  category : ErrorCategory
  code : String
  message : String
  retryable : Bool
  causeId : Option String
  metadata : List (String × JsonScalar) := []
  required : code ≠ "" ∧ message ≠ ""
  deriving DecidableEq, Repr

inductive Raised
  | core (detail : ErrorDetail)
  | value (message : String)
  | assertion (message : String)
  | key (message : String)
  | other (name : String)
  | cancelledError
  deriving DecidableEq, Repr

def Raised.isCore : Raised → Bool
  | .core _ => true
  | _ => false

/-- `asyncio.CancelledError` is a `BaseException` that `except Exception` does not catch. -/
def Raised.isException : Raised → Bool
  | .cancelledError => false
  | _ => true

/-- `type(error).__name__`. -/
def Raised.typeName : Raised → String
  | .core _ => "CoreError"
  | .value _ => "ValueError"
  | .assertion _ => "AssertionError"
  | .key _ => "KeyError"
  | .other name => name
  | .cancelledError => "CancelledError"

def coreError (category : ErrorCategory) (code message : String)
    (required : code ≠ "" ∧ message ≠ "" := by decide) : Raised :=
  .core ⟨category, code, message, false, none, [], required⟩

/-- `core_error(…, retryable=True, cause_id=causeId)`. -/
def retryableError (category : ErrorCategory) (code message : String)
    (causeId : Option String := none) (required : code ≠ "" ∧ message ≠ "" := by decide) :
    Raised :=
  .core ⟨category, code, message, true, causeId, [], required⟩

/-- `raise ValueError(message)` unless the condition holds. -/
def requireValue (condition : Bool) (message : String) : Except Raised Unit :=
  if condition then .ok () else .error (.value message)

@[simp] theorem requireValue_eq_ok {condition : Bool} {message : String} {done : Unit} :
    requireValue condition message = .ok done ↔ condition = true := by
  cases condition <;> simp [requireValue]

theorem requireValue_error {condition : Bool} {message : String} {error : Raised}
    (failed : requireValue condition message = .error error) : error = .value message := by
  cases condition with
  | true => cases failed
  | false =>
    cases failed
    rfl

/-- `if not condition: raise error`. -/
def ensure (condition : Bool) (error : Raised) : Except Raised Unit :=
  if condition then .ok () else .error error

@[simp] theorem ensure_eq_ok {condition : Bool} {error : Raised} {done : Unit} :
    ensure condition error = .ok done ↔ condition = true := by
  cases condition <;> simp [ensure]

theorem ensure_ok {condition : Bool} {error : Raised} (holds : condition = true) :
    ensure condition error = .ok () := ensure_eq_ok.mpr holds

theorem bind_ok {α β : Type} {first : Except Raised α} {rest : α → Except Raised β} {value : β}
    (done : first >>= rest = .ok value) :
    ∃ middle, first = .ok middle ∧ rest middle = .ok value := by
  cases first with
  | error error => cases done
  | ok middle => exact ⟨middle, rfl, done⟩

theorem bind_error {α β : Type} {first : Except Raised α} {rest : α → Except Raised β}
    {error : Raised} (failed : first >>= rest = .error error) :
    first = .error error ∨ ∃ middle, first = .ok middle ∧ rest middle = .error error := by
  cases first with
  | error raised =>
    cases failed
    exact .inl rfl
  | ok middle => exact .inr ⟨middle, rfl, failed⟩

/-- A computation that raises nothing but a `CoreError` and returns a value with `post`. -/
def Coded {α : Type} (post : α → Prop) : Except Raised α → Prop
  | .ok value => post value
  | .error (.core _) => True
  | .error _ => False

theorem Coded.bind {α β : Type} {middle : α → Prop} {post : β → Prop} {first : Except Raised α}
    {rest : α → Except Raised β} (coded : Coded middle first)
    (continues : ∀ value, middle value → Coded post (rest value)) :
    Coded post (first >>= rest) := by
  match first, coded with
  | .ok value, holds => exact continues value holds
  | .error (.core _), _ => trivial

theorem Coded.mono {α : Type} {weaker post : α → Prop} {computation : Except Raised α}
    (coded : Coded post computation) (implies : ∀ value, post value → weaker value) :
    Coded weaker computation := by
  match computation, coded with
  | .ok value, holds => exact implies value holds
  | .error (.core _), _ => trivial

theorem Coded.of_ok {α : Type} {post : α → Prop} {computation : Except Raised α} {value : α}
    (coded : Coded post computation) (done : computation = .ok value) : post value := by
  subst done
  exact coded

theorem coded_ensure (condition : Bool) (detail : ErrorDetail) :
    Coded (fun _ => condition = true) (ensure condition (.core detail)) := by
  cases condition with
  | true => rfl
  | false => trivial

end CongeriesCore
