import CongeriesCore.AsyncContract
import Mathlib.Data.List.Basic

/-! # Systems of coroutines

Two ways to run coroutines: a sequence of calls, one at a time, any of which may be cut
off after any step; and a pool of calls whose steps interleave at every suspension. In
both, coroutines that are safe when they start keep the invariant in every state reached
and meet the need of every operation on which any of them is ever suspended. -/

namespace AsyncProgram

variable {I : Interface} {ε α σ : Type}

section Steps

variable {E : Environment I ε σ} {C : Contract I σ} {post : Except ε α → σ → Prop}
  {program rest : Program I ε α} {before after : σ}

theorem Program.Safe.step (reflexive : ∀ state, C.rely state state) (kept : C.invariant before)
    (safe : program.Safe E C post before) (step : Step E (program, before) (rest, after)) :
    C.invariant after ∧ C.guarantee before after ∧ rest.Safe E C post after := by
  cases step with
  | resume choice permitted => exact (safe _ (reflexive _) kept).2 choice permitted

theorem Program.Safe.steps (reflexive : ∀ state, C.rely state state) (kept : C.invariant before)
    (safe : program.Safe E C post before) (steps : Steps E α (program, before) (rest, after)) :
    C.invariant after ∧ rest.Safe E C post after := by
  generalize htarget : (rest, after) = target at steps
  induction steps generalizing rest after with
  | refl => cases htarget; exact ⟨kept, safe⟩
  | tail _ last ih =>
    subst htarget
    rename_i middle _
    obtain ⟨keeps, later⟩ := ih rfl
    obtain ⟨done, -, settled⟩ := later.step reflexive keeps last
    exact ⟨done, settled⟩

theorem Program.Safe.ended {outcome : Except ε α} (reflexive : ∀ state, C.rely state state)
    (kept : C.invariant before) (safe : program.Safe E C post before)
    (steps : Steps E α (program, before) (.ofExcept outcome, after)) : post outcome after := by
  have last := (safe.steps reflexive kept steps).2
  cases outcome with
  | ok value => exact last
  | error error => exact last

/-- A coroutine runs to an end if each operation it suspends on has an answer. -/
theorem Program.Safe.finishes {invariant : σ → Prop} {guarantee : σ → σ → Prop}
    (kept : invariant before)
    (safe : program.Safe E (.alone invariant guarantee fun op state =>
      ∃ choice, E.permits op choice state) post before) :
    ∃ outcome after, Steps E α (program, before) (.ofExcept outcome, after) := by
  induction program generalizing before with
  | ret value => exact ⟨.ok value, before, .refl⟩
  | raise error => exact ⟨.error error, before, .refl⟩
  | await op resume ih =>
    obtain ⟨⟨choice, permitted⟩, steps⟩ := safe before rfl kept
    obtain ⟨keeps, -, later⟩ := steps choice permitted
    obtain ⟨outcome, after, rest⟩ := ih _ keeps later
    exact ⟨outcome, after, .head (.resume choice permitted) rest⟩

end Steps

section Sequence

/-- Calls made one at a time. `starts` relates the state before a call to the coroutine
the call runs and the state in which it starts. -/
structure Sequence (I : Interface) (ε α σ : Type) where
  environment : Environment I ε σ
  initial : σ → Prop
  starts : σ → Program I ε α → σ → Prop

namespace Sequence

variable (S : Sequence I ε α σ)

/-- The states reached by whole calls and by calls cut off after any step. -/
inductive Reachable : σ → Prop
  | initial {state : σ} : S.initial state → Reachable state
  | call {before start after : σ} {program rest : Program I ε α} :
      Reachable before → S.starts before program start →
      Steps S.environment α (program, start) (rest, after) → Reachable after

variable {S} {C : Contract I σ}

/-- Every call is safe in the state it starts in. -/
structure Meets (S : Sequence I ε α σ) (C : Contract I σ) : Prop where
  reflexive : ∀ state, C.rely state state
  initial : ∀ state, S.initial state → C.invariant state
  starts : ∀ before program start, C.invariant before → S.starts before program start →
    C.invariant start ∧ program.Safe S.environment C (fun _ _ => True) start

theorem Meets.reachable (meets : S.Meets C) {state : σ} (reached : S.Reachable state) :
    C.invariant state := by
  induction reached with
  | initial start => exact meets.initial _ start
  | call _ starts steps ih =>
    obtain ⟨kept, safe⟩ := meets.starts _ _ _ ih starts
    exact (safe.steps meets.reflexive kept steps).1

end Sequence

end Sequence

section Pool

/-- Calls whose steps interleave. A thread is known by its position in the pool; the
environment may tell threads apart. -/
structure Pool (I : Interface) (ε α σ : Type) where
  environment : ℕ → Environment I ε σ
  initial : σ → Prop
  starts : ℕ → σ → Program I ε α → σ → Prop

structure Configuration (I : Interface) (ε α σ : Type) where
  state : σ
  threads : List (Program I ε α)

namespace Pool

variable (P : Pool I ε α σ)

inductive Moves : Configuration I ε α σ → Configuration I ε α σ → Prop
  | start {configuration : Configuration I ε α σ} {program : Program I ε α} {state : σ} :
      P.starts configuration.threads.length configuration.state program state →
      Moves configuration ⟨state, configuration.threads ++ [program]⟩
  | step {configuration : Configuration I ε α σ} {thread : ℕ} {program rest : Program I ε α}
      {state : σ} :
      configuration.threads[thread]? = some program →
      Step (P.environment thread) (program, configuration.state) (rest, state) →
      Moves configuration ⟨state, configuration.threads.set thread rest⟩

inductive Reachable : Configuration I ε α σ → Prop
  | initial {state : σ} : P.initial state → Reachable ⟨state, []⟩
  | move {before after : Configuration I ε α σ} :
      Reachable before → P.Moves before after → Reachable after

end Pool

/-- Each thread has its own contract and postcondition; what one guarantees, every other
may rely on. -/
structure Pool.Meets (P : Pool I ε α σ) (C : ℕ → Contract I σ) (invariant : σ → Prop)
    (post : ℕ → Except ε α → σ → Prop) : Prop where
  shared : ∀ thread, (C thread).invariant = invariant
  reflexive : ∀ thread state, (C thread).rely state state
  transitive : ∀ thread first second third, (C thread).rely first second →
    (C thread).rely second third → (C thread).rely first third
  stable : ∀ thread outcome before after, (C thread).rely before after →
    post thread outcome before → post thread outcome after
  compatible : ∀ thread other before after, thread ≠ other →
    (C thread).guarantee before after → (C other).rely before after
  initial : ∀ state, P.initial state → invariant state
  starts : ∀ thread before program start, invariant before →
    P.starts thread before program start →
    invariant start ∧ (C thread).guarantee before start ∧
      program.Safe (P.environment thread) (C thread) (post thread) start

namespace Pool.Meets

variable {P : Pool I ε α σ} {C : ℕ → Contract I σ} {invariant : σ → Prop}
  {post : ℕ → Except ε α → σ → Prop}

theorem safe_rely (meets : P.Meets C invariant post) {thread other : ℕ} {program : Program I ε α}
    {before after : σ} (distinct : thread ≠ other) (guaranteed : (C thread).guarantee before after)
    (safe : program.Safe (P.environment other) (C other) (post other) before) :
    program.Safe (P.environment other) (C other) (post other) after := by
  have relied := meets.compatible thread other before after distinct guaranteed
  exact safe.stable (meets.transitive other)
    (fun outcome => meets.stable other outcome before after relied) relied

theorem reachable (meets : P.Meets C invariant post) {configuration : Configuration I ε α σ}
    (reached : P.Reachable configuration) :
    invariant configuration.state ∧ ∀ (thread : ℕ) (program : Program I ε α),
      configuration.threads[thread]? = some program →
      program.Safe (P.environment thread) (C thread) (post thread) configuration.state := by
  induction reached with
  | initial start => exact ⟨meets.initial _ start, by simp⟩
  | @move before after _ moves ih =>
    obtain ⟨kept, safe⟩ := ih
    cases moves with
    | start starts =>
      obtain ⟨keeps, guaranteed, started⟩ := meets.starts _ _ _ _ kept starts
      refine ⟨keeps, fun thread running found => ?_⟩
      rcases Nat.lt_trichotomy thread before.threads.length with earlier | rfl | later
      · rw [List.getElem?_append_left earlier] at found
        exact meets.safe_rely (Nat.ne_of_gt earlier) guaranteed (safe thread running found)
      · rw [List.getElem?_concat_length] at found
        cases found
        exact started
      · rw [List.getElem?_eq_none (by simp; omega)] at found
        cases found
    | @step moved program rest state found step =>
      have running := safe moved program found
      cases step with
      | resume choice permitted =>
        have shared := meets.shared moved
        obtain ⟨-, steps⟩ := running _ (meets.reflexive moved _) (shared ▸ kept)
        obtain ⟨keeps, guaranteed, later⟩ := steps choice permitted
        refine ⟨shared ▸ keeps, fun thread running found' => ?_⟩
        by_cases same : moved = thread
        · subst same
          rw [List.getElem?_set_self (List.getElem?_eq_some_iff.mp found).1] at found'
          cases found'
          exact later
        · rw [List.getElem?_set_ne same] at found'
          exact meets.safe_rely same guaranteed (safe thread running found')

theorem need (meets : P.Meets C invariant post) {configuration : Configuration I ε α σ}
    (reached : P.Reachable configuration) {thread : ℕ} {op : I.Op}
    {resume : Except ε (I.Answer op) → Program I ε α}
    (found : configuration.threads[thread]? = some (.await op resume)) :
    (C thread).need op configuration.state := by
  obtain ⟨kept, safe⟩ := meets.reachable reached
  exact (safe thread _ found _ (meets.reflexive thread _) (meets.shared thread ▸ kept)).1

/-- A relation that every step of a thread guarantees holds over a whole run. -/
theorem preserves (meets : P.Meets C invariant post) {relation : σ → σ → Prop}
    (reflexive : ∀ state, relation state state)
    (transitive : ∀ first second third, relation first second → relation second third →
      relation first third)
    (guaranteed : ∀ thread before after, (C thread).guarantee before after → relation before after)
    {before after : Configuration I ε α σ} (reached : P.Reachable before)
    (run : Relation.ReflTransGen P.Moves before after) :
    relation before.state after.state := by
  have both : P.Reachable after ∧ relation before.state after.state := by
    induction run with
    | refl => exact ⟨reached, reflexive _⟩
    | tail _ moves ih =>
      obtain ⟨reached, related⟩ := ih
      refine ⟨.move reached moves, transitive _ _ _ related ?_⟩
      obtain ⟨kept, safe⟩ := meets.reachable reached
      cases moves with
      | start starts => exact guaranteed _ _ _ (meets.starts _ _ _ _ kept starts).2.1
      | @step moved program rest state found step =>
        have running := safe moved program found
        cases step with
        | resume choice permitted =>
          obtain ⟨-, steps⟩ := running _ (meets.reflexive moved _) (meets.shared moved ▸ kept)
          exact guaranteed _ _ _ (steps choice permitted).2.1
  exact both.2

/-- A finished thread satisfies its postcondition from then on. -/
theorem raised (meets : P.Meets C invariant post) {configuration : Configuration I ε α σ}
    (reached : P.Reachable configuration) {thread : ℕ} {error : ε}
    (found : configuration.threads[thread]? = some (.raise error)) :
    post thread (.error error) configuration.state :=
  (meets.reachable reached).2 thread _ found

end Pool.Meets

/-- Run the threads of `schedule` one step each with an oracle for the choices, while
`permitted` approves of them. -/
def Pool.execute (P : Pool I ε α σ)
    (oracle : (thread : ℕ) → (op : I.Op) → σ → (P.environment thread).Choice op)
    (permitted : (thread : ℕ) → (op : I.Op) → σ → Bool) :
    List ℕ → Configuration I ε α σ → Configuration I ε α σ
  | [], configuration => configuration
  | thread :: schedule, configuration =>
    match configuration.threads[thread]? with
    | some (.await op resume) =>
      if permitted thread op configuration.state then
        let result := (P.environment thread).answer op (oracle thread op configuration.state)
          configuration.state
        P.execute oracle permitted schedule
          ⟨result.2, configuration.threads.set thread (resume result.1)⟩
      else configuration
    | _ => P.execute oracle permitted schedule configuration

theorem Pool.execute_reachable {P : Pool I ε α σ}
    {oracle : (thread : ℕ) → (op : I.Op) → σ → (P.environment thread).Choice op}
    {permitted : (thread : ℕ) → (op : I.Op) → σ → Bool}
    (permits : ∀ thread op state, permitted thread op state = true →
      (P.environment thread).permits op (oracle thread op state) state)
    (schedule : List ℕ) {configuration : Configuration I ε α σ}
    (reached : P.Reachable configuration) :
    P.Reachable (P.execute oracle permitted schedule configuration) := by
  induction schedule generalizing configuration with
  | nil => exact reached
  | cons thread schedule ih =>
    unfold Pool.execute
    split
    · rename_i op resume found
      split
      · rename_i approved
        have step : Step (P.environment thread) (.await op resume, configuration.state) _ :=
          .resume (oracle thread op configuration.state) (permits thread op _ approved)
        exact ih (.move reached (.step found step))
      · exact reached
    · exact ih reached

/-- Whether the thread can be run by one step. -/
def Configuration.advances (configuration : Configuration I ε α σ)
    (permitted : (thread : ℕ) → (op : I.Op) → σ → Bool) (thread : ℕ) : Bool :=
  match configuration.threads[thread]? with
  | some (.await op _) => permitted thread op configuration.state
  | _ => false

theorem Pool.execute_moves {P : Pool I ε α σ}
    {oracle : (thread : ℕ) → (op : I.Op) → σ → (P.environment thread).Choice op}
    {permitted : (thread : ℕ) → (op : I.Op) → σ → Bool}
    (permits : ∀ thread op state, permitted thread op state = true →
      (P.environment thread).permits op (oracle thread op state) state)
    {configuration : Configuration I ε α σ} {thread : ℕ}
    (advances : configuration.advances permitted thread = true) :
    P.Moves configuration (P.execute oracle permitted [thread] configuration) := by
  unfold Configuration.advances at advances
  split at advances
  · rename_i op resume found
    have step : Step (P.environment thread) (.await op resume, configuration.state) _ :=
      .resume (oracle thread op configuration.state) (permits thread op _ advances)
    simp only [Pool.execute, found, advances, if_true]
    exact .step found step
  · cases advances

end Pool

section Instrumented

/-- The environment with a record beside its state: `record` sees every outcome and the
states around it, `allows` may narrow what the environment permits. -/
def Environment.instrumented {γ : Type} (E : Environment I ε σ)
    (allows : (op : I.Op) → E.Choice op → σ × γ → Prop)
    (record : (op : I.Op) → Except ε (I.Answer op) → σ → σ → γ → γ) : Environment I ε (σ × γ) where
  Choice := E.Choice
  permits op choice state := E.permits op choice state.1 ∧ allows op choice state
  answer op choice state :=
    let result := E.answer op choice state.1
    (result.1, result.2, record op result.1 state.1 result.2 state.2)

theorem Environment.instrumented_answer {γ : Type} {E : Environment I ε σ}
    {allows : (op : I.Op) → E.Choice op → σ × γ → Prop}
    {record : (op : I.Op) → Except ε (I.Answer op) → σ → σ → γ → γ} {op : I.Op}
    {choice : E.Choice op} {state : σ × γ} {outcome : Except ε (I.Answer op)} {after : σ}
    (answered : E.answer op choice state.1 = (outcome, after)) :
    (E.instrumented allows record).answer op choice state =
      (outcome, after, record op outcome state.1 after state.2) := by
  unfold instrumented
  simp only [answered]

end Instrumented

end AsyncProgram
