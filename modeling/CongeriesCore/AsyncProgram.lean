import Mathlib.Logic.Relation
import Mathlib.Tactic.Common

/-! # Coroutines over an interface of operations

A coroutine either finishes, raises, or suspends on one operation and resumes with
that operation's outcome. An environment gives every operation its effect on a state,
with a choice that stands for whatever the operation's owner decides: a result, a
failure before the effect, or a failure after it. -/

namespace AsyncProgram

/-- The operations a coroutine may suspend on, with the type each one answers. -/
structure Interface where
  Op : Type
  Answer : Op → Type

inductive Program (I : Interface) (ε α : Type) where
  | ret (value : α)
  | raise (error : ε)
  | await (op : I.Op) (resume : Except ε (I.Answer op) → Program I ε α)

variable {I : Interface} {ε α β γ σ : Type}

namespace Program

/-- Run `program` and continue with its outcome, whichever it is. -/
def andThen : Program I ε α → (Except ε α → Program I ε β) → Program I ε β
  | .ret value, continuation => continuation (.ok value)
  | .raise error, continuation => continuation (.error error)
  | .await op resume, continuation =>
    .await op fun outcome => (resume outcome).andThen continuation

def ofExcept : Except ε α → Program I ε α
  | .ok value => .ret value
  | .error error => .raise error

protected def bind (program : Program I ε α) (continuation : α → Program I ε β) :
    Program I ε β :=
  program.andThen fun
    | .ok value => continuation value
    | .error error => .raise error

instance : Monad (Program I ε) where
  pure := .ret
  bind := .bind

/-- `try: program except error: handler error`. -/
def catching (program : Program I ε α) (handler : ε → Program I ε α) : Program I ε α :=
  program.andThen fun
    | .ok value => .ret value
    | .error error => handler error

/-- `try: program finally: cleanup`; an exception of the cleanup replaces the outcome. -/
def finallyDo (program : Program I ε α) (cleanup : Program I ε Unit) : Program I ε α :=
  program.andThen fun outcome => cleanup.bind fun _ => ofExcept outcome

def perform (op : I.Op) : Program I ε (I.Answer op) :=
  .await op ofExcept

/-- A `for` loop that threads an accumulator. -/
def foldM (body : β → α → Program I ε β) : β → List α → Program I ε β
  | accumulator, [] => .ret accumulator
  | accumulator, item :: items =>
    (body accumulator item).bind fun next => foldM body next items

end Program

/-- What the operations do: under a permitted choice an operation answers and changes
the state. -/
structure Environment (I : Interface) (ε σ : Type) where
  Choice : I.Op → Type
  permits : (op : I.Op) → Choice op → σ → Prop
  answer : (op : I.Op) → Choice op → σ → Except ε (I.Answer op) × σ

/-- One resumption of a suspended coroutine. -/
inductive Step (E : Environment I ε σ) : Program I ε α × σ → Program I ε α × σ → Prop
  | resume {op : I.Op} {resume : Except ε (I.Answer op) → Program I ε α} {state : σ}
      (choice : E.Choice op) (permitted : E.permits op choice state) :
      Step E (.await op resume, state)
        (resume (E.answer op choice state).1, (E.answer op choice state).2)

/-- Any number of resumptions; a coroutine cut off between two of them has crashed there. -/
abbrev Steps (E : Environment I ε σ) (α : Type) :
    Program I ε α × σ → Program I ε α × σ → Prop :=
  Relation.ReflTransGen (Step E)

theorem Steps.next {E : Environment I ε σ} {op : I.Op}
    {resume : Except ε (I.Answer op) → Program I ε α} {before after : σ}
    {outcome : Except ε (I.Answer op)} {target : Program I ε α × σ} (choice : E.Choice op)
    (permitted : E.permits op choice before) (answered : E.answer op choice before = (outcome, after))
    (rest : Steps E α (resume outcome, after) target) :
    Steps E α (.await op resume, before) target := by
  have step := @Step.resume I ε α σ E op resume before choice permitted
  rw [answered] at step
  exact .head step rest

/-- The environment may answer an operation so. -/
def Environment.Gives (E : Environment I ε σ) (op : I.Op) (before : σ)
    (outcome : Except ε (I.Answer op)) (after : σ) : Prop :=
  ∃ choice, E.permits op choice before ∧ E.answer op choice before = (outcome, after)

theorem Steps.given {E : Environment I ε σ} {op : I.Op}
    {resume : Except ε (I.Answer op) → Program I ε α} {before after : σ}
    {outcome : Except ε (I.Answer op)} {target : Program I ε α × σ}
    (gives : E.Gives op before outcome after) (rest : Steps E α (resume outcome, after) target) :
    Steps E α (.await op resume, before) target := by
  obtain ⟨choice, permitted, answered⟩ := gives
  exact .next choice permitted answered rest

/-- The steps of a coroutine are steps of whatever continues with its outcome. -/
theorem Steps.andThen {E : Environment I ε σ} {program rest : Program I ε α} {before after : σ}
    (steps : Steps E α (program, before) (rest, after))
    (continuation : Except ε α → Program I ε β) :
    Steps E β (program.andThen continuation, before) (rest.andThen continuation, after) := by
  generalize htarget : (rest, after) = target at steps
  induction steps generalizing rest after with
  | refl => cases htarget; exact .refl
  | tail _ last ih =>
    subst htarget
    cases last with
    | resume choice permitted => exact (ih rfl).tail (.resume choice permitted)

theorem Steps.bind {E : Environment I ε σ} {program rest : Program I ε α} {before after : σ}
    (steps : Steps E α (program, before) (rest, after)) (continuation : α → Program I ε β) :
    Steps E β (program >>= continuation, before) (rest >>= continuation, after) :=
  steps.andThen _

/-- Execute with an oracle for the choices, for at most `fuel` resumptions. -/
def execute (E : Environment I ε σ) (oracle : ℕ → (op : I.Op) → σ → E.Choice op) :
    ℕ → ℕ → Program I ε α × σ → Program I ε α × σ
  | fuel + 1, tick, (.await op resume, state) =>
    let result := E.answer op (oracle tick op state) state
    execute E oracle fuel (tick + 1) (resume result.1, result.2)
  | _, _, configuration => configuration

/-- Whether a coroutine has returned normally. -/
def Program.returned : Program I ε α → Bool
  | .ret _ => true
  | _ => false

def Program.raised? : Program I ε α → Option ε
  | .raise error => some error
  | _ => none

theorem Program.raised?_eq_some {program : Program I ε α} {error : ε} :
    program.raised? = some error ↔ program = .raise error := by
  cases program with
  | ret value => simp [raised?]
  | raise error => simp [raised?]
  | await op resume => simp [raised?]

/-- How a coroutine ended, if it has. -/
def Program.outcome? : Program I ε α → Option (Except ε α)
  | .ret value => some (.ok value)
  | .raise error => some (.error error)
  | .await _ _ => none

theorem Program.outcome?_eq_some {program : Program I ε α} {outcome : Except ε α}
    (ended : program.outcome? = some outcome) : program = .ofExcept outcome := by
  cases program with
  | ret value =>
    cases ended
    rfl
  | raise error =>
    cases ended
    rfl
  | await op resume => cases ended

theorem Program.eq_ret_of_returned {program : Program I ε Unit}
    (returned : program.returned = true) : program = .ret () := by
  cases program with
  | ret value => rfl
  | raise error => cases returned
  | await op resume => cases returned

theorem execute_steps {E : Environment I ε σ} {oracle : ℕ → (op : I.Op) → σ → E.Choice op}
    (permitted : ∀ tick op state, E.permits op (oracle tick op state) state)
    (fuel tick : ℕ) (configuration : Program I ε α × σ) :
    Steps E α configuration (execute E oracle fuel tick configuration) := by
  induction fuel generalizing tick configuration with
  | zero => exact .refl
  | succ fuel ih =>
    obtain ⟨program, state⟩ := configuration
    cases program with
    | ret value => exact .refl
    | raise error => exact .refl
    | await op resume =>
      exact .head (.resume _ (permitted tick op state)) (ih (tick + 1) _)

theorem execute_returned {E : Environment I ε σ}
    {oracle : ℕ → (op : I.Op) → σ → E.Choice op}
    (permitted : ∀ tick op state, E.permits op (oracle tick op state) state)
    {fuel tick : ℕ} {configuration result : Program I ε Unit × σ}
    (executed : execute E oracle fuel tick configuration = result)
    (returned : result.1.returned = true) : Steps E Unit configuration (.ret (), result.2) := by
  rw [← Program.eq_ret_of_returned returned, ← executed]
  exact execute_steps permitted fuel tick configuration

/-- Execute with an oracle for the choices while `permitted` approves of them, for at most `fuel`
resumptions. -/
def executeWhile (E : Environment I ε σ) (permitted : I.Op → Bool)
    (oracle : (op : I.Op) → σ → E.Choice op) : ℕ → Program I ε α × σ → Program I ε α × σ
  | fuel + 1, (.await op resume, state) =>
    if permitted op then
      let result := E.answer op (oracle op state) state
      executeWhile E permitted oracle fuel (resume result.1, result.2)
    else (.await op resume, state)
  | _, configuration => configuration

theorem executeWhile_steps {E : Environment I ε σ} {permitted : I.Op → Bool}
    {oracle : (op : I.Op) → σ → E.Choice op}
    (permits : ∀ op state, permitted op = true → E.permits op (oracle op state) state)
    (fuel : ℕ) (configuration : Program I ε α × σ) :
    Steps E α configuration (executeWhile E permitted oracle fuel configuration) := by
  induction fuel generalizing configuration with
  | zero => exact .refl
  | succ fuel ih =>
    obtain ⟨program, state⟩ := configuration
    cases program with
    | ret value => exact .refl
    | raise error => exact .refl
    | await op resume =>
      unfold executeWhile
      split
      · rename_i approved
        exact .head (.resume _ (permits op state approved)) (ih _)
      · exact .refl

end AsyncProgram
