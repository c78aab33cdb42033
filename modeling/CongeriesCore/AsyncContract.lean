import CongeriesCore.AsyncProgram

/-! # Contracts of coroutines

A contract says what holds in every state, what a coroutine may assume its environment
does between two of its own steps, what each of its own steps guarantees, and what must
hold when it suspends on an operation. `Safe` is the weakest precondition of a coroutine
under a contract; the rules follow the structure of the coroutine. -/

namespace AsyncProgram

structure Contract (I : Interface) (σ : Type) where
  invariant : σ → Prop
  rely : σ → σ → Prop
  guarantee : σ → σ → Prop
  need : (op : I.Op) → σ → Prop

variable {I : Interface} {ε α β σ : Type}

/-- A coroutine that runs alone: nothing else changes the state between its steps. -/
def Contract.alone (invariant : σ → Prop) (guarantee : σ → σ → Prop)
    (need : (op : I.Op) → σ → Prop) : Contract I σ where
  invariant := invariant
  rely := Eq
  guarantee := guarantee
  need := need

/-- The postcondition that asks `value` of a result and `error` of an exception. -/
def Ends (value : α → σ → Prop) (error : σ → Prop) : Except ε α → σ → Prop
  | .ok result, state => value result state
  | .error _, state => error state

namespace Program

def Safe (E : Environment I ε σ) (C : Contract I σ) (post : Except ε α → σ → Prop) :
    Program I ε α → σ → Prop
  | .ret value, state => post (.ok value) state
  | .raise error, state => post (.error error) state
  | .await op resume, state =>
    ∀ current, C.rely state current → C.invariant current →
      C.need op current ∧ ∀ choice, E.permits op choice current →
        C.invariant (E.answer op choice current).2 ∧
        C.guarantee current (E.answer op choice current).2 ∧
        (resume (E.answer op choice current).1).Safe E C post (E.answer op choice current).2

variable {E : Environment I ε σ} {C : Contract I σ} {state : σ}

@[simp] theorem safe_ret {post : Except ε α → σ → Prop} {value : α} :
    (Program.ret value : Program I ε α).Safe E C post state ↔ post (.ok value) state := Iff.rfl

@[simp] theorem safe_raise {post : Except ε α → σ → Prop} {error : ε} :
    (Program.raise error : Program I ε α).Safe E C post state ↔ post (.error error) state := Iff.rfl

@[simp] theorem safe_pure {post : Except ε α → σ → Prop} {value : α} :
    (pure value : Program I ε α).Safe E C post state ↔ post (.ok value) state := Iff.rfl

theorem safe_ofExcept {post : Except ε α → σ → Prop} {outcome : Except ε α}
    (h : post outcome state) : (ofExcept outcome : Program I ε α).Safe E C post state := by
  cases outcome with
  | ok value => exact h
  | error error => exact h

theorem Safe.andThen {middle : Except ε α → σ → Prop} {post : Except ε β → σ → Prop}
    {program : Program I ε α} {continuation : Except ε α → Program I ε β}
    (first : program.Safe E C middle state)
    (rest : ∀ outcome after, middle outcome after → (continuation outcome).Safe E C post after) :
    (program.andThen continuation).Safe E C post state := by
  induction program generalizing state with
  | ret value => exact rest _ _ first
  | raise error => exact rest _ _ first
  | await op resume ih =>
    intro current relied kept
    obtain ⟨needed, steps⟩ := first current relied kept
    refine ⟨needed, fun choice permitted => ?_⟩
    obtain ⟨keeps, guaranteed, later⟩ := steps choice permitted
    exact ⟨keeps, guaranteed, ih _ later⟩

theorem Safe.bind {middle : Except ε α → σ → Prop} {post : Except ε β → σ → Prop}
    {program : Program I ε α} {continuation : α → Program I ε β}
    (first : program.Safe E C middle state)
    (value : ∀ value after, middle (.ok value) after → (continuation value).Safe E C post after)
    (error : ∀ error after, middle (.error error) after → post (.error error) after) :
    (program >>= continuation).Safe E C post state := by
  refine Safe.andThen first fun outcome after reached => ?_
  cases outcome with
  | ok result => exact value result after reached
  | error raised => exact error raised after reached

theorem Safe.catching {middle post : Except ε α → σ → Prop}
    {program : Program I ε α} {handler : ε → Program I ε α}
    (first : program.Safe E C middle state)
    (value : ∀ value after, middle (.ok value) after → post (.ok value) after)
    (error : ∀ error after, middle (.error error) after → (handler error).Safe E C post after) :
    (program.catching handler).Safe E C post state := by
  refine Safe.andThen first fun outcome after reached => ?_
  cases outcome with
  | ok result => exact value result after reached
  | error raised => exact error raised after reached

theorem Safe.mono {weak strong : Except ε α → σ → Prop} {program : Program I ε α}
    (safe : program.Safe E C strong state)
    (weaken : ∀ outcome after, strong outcome after → weak outcome after) :
    program.Safe E C weak state := by
  induction program generalizing state with
  | ret value => exact weaken _ _ safe
  | raise error => exact weaken _ _ safe
  | await op resume ih =>
    intro current relied kept
    obtain ⟨needed, steps⟩ := safe current relied kept
    refine ⟨needed, fun choice permitted => ?_⟩
    obtain ⟨keeps, guaranteed, later⟩ := steps choice permitted
    exact ⟨keeps, guaranteed, ih _ later⟩

section Ends

variable {value : α → σ → Prop} {error : σ → Prop}

theorem Safe.next {later : β → σ → Prop} {program : Program I ε α}
    {continuation : α → Program I ε β} (first : program.Safe E C (Ends value error) state)
    (rest : ∀ result after, value result after →
      (continuation result).Safe E C (Ends later error) after) :
    (program >>= continuation).Safe E C (Ends later error) state :=
  first.bind rest fun _ _ failed => failed

/-- A coroutine that raises nothing. -/
theorem Safe.onward {post : Except ε β → σ → Prop} {program : Program I ε α}
    {continuation : α → Program I ε β} (first : program.Safe E C (Ends value fun _ => False) state)
    (rest : ∀ result after, value result after → (continuation result).Safe E C post after) :
    (program >>= continuation).Safe E C post state :=
  first.bind rest fun _ _ impossible => impossible.elim

theorem safe_return {result : α} (held : value result state) :
    (Program.ret result : Program I ε α).Safe E C (Ends value error) state := held

theorem safe_raising {raised : ε} (held : error state) :
    (Program.raise raised : Program I ε α).Safe E C (Ends value error) state := held

theorem safe_checked {outcome : Except ε α}
    (done : ∀ result, outcome = .ok result → value result state) (failed : error state) :
    (ofExcept outcome : Program I ε α).Safe E C (Ends value error) state := by
  cases outcome with
  | ok result => exact done result rfl
  | error raised => exact failed

/-- A check that raises, or lets the coroutine go on from the same state. -/
theorem safe_guarded {later : β → σ → Prop} {outcome : Except ε α} {continuation : α → Program I ε β}
    (failed : error state)
    (rest : ∀ result, outcome = .ok result →
      (continuation result).Safe E C (Ends later error) state) :
    (ofExcept outcome >>= continuation).Safe E C (Ends later error) state := by
  cases outcome with
  | ok result => exact rest result rfl
  | error raised => exact failed

theorem Safe.weaken {stronger : α → σ → Prop} {harder : σ → Prop} {program : Program I ε α}
    (safe : program.Safe E C (Ends stronger harder) state)
    (values : ∀ result after, stronger result after → value result after)
    (errors : ∀ after, harder after → error after) :
    program.Safe E C (Ends value error) state := by
  refine safe.mono fun outcome after reached => ?_
  cases outcome with
  | ok result => exact values result after reached
  | error raised => exact errors after reached

end Ends

theorem safe_perform {post : Except ε (I.Answer op) → σ → Prop}
    (h : ∀ current, C.rely state current → C.invariant current →
      C.need op current ∧ ∀ choice, E.permits op choice current →
        C.invariant (E.answer op choice current).2 ∧
        C.guarantee current (E.answer op choice current).2 ∧
        post (E.answer op choice current).1 (E.answer op choice current).2) :
    (perform op : Program I ε (I.Answer op)).Safe E C post state := by
  intro current relied kept
  obtain ⟨needed, steps⟩ := h current relied kept
  refine ⟨needed, fun choice permitted => ?_⟩
  obtain ⟨keeps, guaranteed, reached⟩ := steps choice permitted
  exact ⟨keeps, guaranteed, safe_ofExcept reached⟩

/-- A check that passes. -/
theorem safe_passed {post : Except ε β → σ → Prop} {outcome : Except ε α} {value : α}
    {continuation : α → Program I ε β} (passed : outcome = .ok value)
    (rest : (continuation value).Safe E C post state) :
    (ofExcept outcome >>= continuation).Safe E C post state := by
  rw [passed]
  exact rest

/-- The loop rule: the body keeps `kept` until it raises. -/
theorem safe_foldM {body : β → α → Program I ε β} {post : Except ε β → σ → Prop}
    (kept : β → List α → σ → Prop)
    (step : ∀ accumulator item items before, kept accumulator (item :: items) before →
      (body accumulator item).Safe E C
        (fun outcome after => match outcome with
          | .ok next => kept next items after
          | .error error => post (.error error) after) before)
    (done : ∀ accumulator after, kept accumulator [] after → post (.ok accumulator) after)
    (items : List α) (accumulator : β) (start : kept accumulator items state) :
    (foldM body accumulator items).Safe E C post state := by
  induction items generalizing accumulator state with
  | nil => exact done _ _ start
  | cons item items ih =>
    exact Safe.bind (step _ _ _ _ start) (fun next after reached => ih next reached)
      fun error after reached => reached

section Alone

variable {invariant : σ → Prop} {guarantee : σ → σ → Prop} {need : (op : I.Op) → σ → Prop}

theorem safe_perform_alone {op : I.Op} {post : Except ε (I.Answer op) → σ → Prop}
    (h : invariant state → need op state ∧ ∀ choice, E.permits op choice state →
      invariant (E.answer op choice state).2 ∧ guarantee state (E.answer op choice state).2 ∧
      post (E.answer op choice state).1 (E.answer op choice state).2) :
    (perform op : Program I ε (I.Answer op)).Safe E (.alone invariant guarantee need) post state := by
  refine safe_perform fun current relied kept => ?_
  obtain rfl : state = current := relied
  exact h kept

/-- What a coroutine that runs alone has guaranteed step by step holds of the whole of it. -/
theorem Safe.remember {post : Except ε α → σ → Prop} {program : Program I ε α}
    (reflexive : ∀ state, guarantee state state)
    (transitive : ∀ first second third, guarantee first second → guarantee second third →
      guarantee first third)
    (kept : invariant state) (safe : program.Safe E (.alone invariant guarantee need) post state) :
    program.Safe E (.alone invariant guarantee need)
      (fun outcome after => invariant after ∧ guarantee state after ∧ post outcome after)
      state := by
  induction program generalizing state with
  | ret value => exact ⟨kept, reflexive state, safe⟩
  | raise error => exact ⟨kept, reflexive state, safe⟩
  | await op resume ih =>
    intro current relied keeps
    obtain rfl : state = current := relied
    obtain ⟨needed, steps⟩ := safe _ rfl keeps
    refine ⟨needed, fun choice permitted => ?_⟩
    obtain ⟨kept', guaranteed, later⟩ := steps choice permitted
    refine ⟨kept', guaranteed, (ih _ kept' later).mono fun outcome after reached => ?_⟩
    exact ⟨reached.1, transitive _ _ _ guaranteed reached.2.1, reached.2.2⟩

end Alone

/-- Every operation the coroutine may suspend on satisfies `allowed`. -/
def Only (allowed : I.Op → Prop) : Program I ε α → Prop
  | .ret _ => True
  | .raise _ => True
  | .await op resume => allowed op ∧ ∀ outcome, (resume outcome).Only allowed

variable {allowed : I.Op → Prop}

@[simp] theorem only_ret {value : α} : (Program.ret value : Program I ε α).Only allowed := trivial

@[simp] theorem only_pure {value : α} : (pure value : Program I ε α).Only allowed := trivial

@[simp] theorem only_raise {error : ε} : (Program.raise error : Program I ε α).Only allowed :=
  trivial

@[simp] theorem only_ofExcept {outcome : Except ε α} :
    (ofExcept outcome : Program I ε α).Only allowed := by
  cases outcome <;> trivial

@[simp] theorem only_perform {op : I.Op} :
    (perform op : Program I ε (I.Answer op)).Only allowed ↔ allowed op :=
  ⟨fun only => only.1, fun allows => ⟨allows, fun _ => only_ofExcept⟩⟩

theorem Only.andThen {program : Program I ε α} {continuation : Except ε α → Program I ε β}
    (first : program.Only allowed) (rest : ∀ outcome, (continuation outcome).Only allowed) :
    (program.andThen continuation).Only allowed := by
  induction program with
  | ret value => exact rest _
  | raise error => exact rest _
  | await op resume ih => exact ⟨first.1, fun outcome => ih outcome (first.2 outcome)⟩

theorem Only.bind {program : Program I ε α} {continuation : α → Program I ε β}
    (first : program.Only allowed) (rest : ∀ value, (continuation value).Only allowed) :
    (program >>= continuation).Only allowed := by
  refine Only.andThen first fun outcome => ?_
  cases outcome with
  | ok value => exact rest value
  | error error => trivial

theorem Only.catching {program : Program I ε α} {handler : ε → Program I ε α}
    (first : program.Only allowed) (rest : ∀ error, (handler error).Only allowed) :
    (program.catching handler).Only allowed := by
  refine Only.andThen first fun outcome => ?_
  cases outcome with
  | ok value => trivial
  | error error => exact rest error

theorem only_ite {condition : Prop} [Decidable condition] {program other : Program I ε α}
    (yes : condition → program.Only allowed) (no : ¬ condition → other.Only allowed) :
    (if condition then program else other).Only allowed := by
  split
  · exact yes ‹_›
  · exact no ‹_›

theorem Only.mono {other : I.Op → Prop} {program : Program I ε α} (only : program.Only allowed)
    (wider : ∀ op, allowed op → other op) : program.Only other := by
  induction program with
  | ret value => trivial
  | raise error => trivial
  | await op resume ih => exact ⟨wider _ only.1, fun outcome => ih outcome (only.2 outcome)⟩

/-- A coroutine all of whose operations step safely from any state is safe. -/
theorem Only.safe {post : Except ε α → σ → Prop} {program : Program I ε α}
    (only : program.Only allowed)
    (steps : ∀ op before, allowed op → C.invariant before → C.need op before ∧
      ∀ choice, E.permits op choice before →
        C.invariant (E.answer op choice before).2 ∧
        C.guarantee before (E.answer op choice before).2)
    (done : ∀ outcome after, post outcome after) : program.Safe E C post state := by
  induction program generalizing state with
  | ret value => exact done _ _
  | raise error => exact done _ _
  | await op resume ih =>
    intro current _ kept
    obtain ⟨needed, step⟩ := steps op current only.1 kept
    refine ⟨needed, fun choice permitted => ?_⟩
    exact ⟨(step choice permitted).1, (step choice permitted).2, ih _ (only.2 _)⟩

/-- What the steps of the coroutine and of its environment keep relates its start to its end. -/
theorem Safe.across {related : σ → σ → Prop} {post : Except ε α → σ → Prop}
    {program : Program I ε α} (reflexive : ∀ state, related state state)
    (transitive : ∀ first second third, related first second → related second third →
      related first third)
    (relies : ∀ before after, C.rely before after → related before after)
    (guarantees : ∀ before after, C.guarantee before after → related before after)
    (safe : program.Safe E C post state) :
    program.Safe E C (fun outcome after => related state after ∧ post outcome after) state := by
  induction program generalizing state with
  | ret value => exact ⟨reflexive state, safe⟩
  | raise error => exact ⟨reflexive state, safe⟩
  | await op resume ih =>
    intro current relied kept
    obtain ⟨needed, steps⟩ := safe current relied kept
    refine ⟨needed, fun choice permitted => ?_⟩
    obtain ⟨keeps, guaranteed, later⟩ := steps choice permitted
    refine ⟨keeps, guaranteed, (ih _ later).mono fun outcome after reached => ?_⟩
    have step := transitive _ _ _ (relies _ _ relied) (guarantees _ _ guaranteed)
    exact ⟨transitive _ _ _ step reached.1, reached.2⟩

/-- What the environment may do between two steps does not break a contract. -/
theorem Safe.stable {post : Except ε α → σ → Prop} {program : Program I ε α} {before after : σ}
    (transitive : ∀ first second third, C.rely first second → C.rely second third →
      C.rely first third)
    (posts : ∀ outcome, post outcome before → post outcome after)
    (relied : C.rely before after) (safe : program.Safe E C post before) :
    program.Safe E C post after := by
  cases program with
  | ret value => exact posts _ safe
  | raise error => exact posts _ safe
  | await op resume =>
    intro current later kept
    exact safe current (transitive _ _ _ relied later) kept

end Program

end AsyncProgram
