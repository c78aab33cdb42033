import CongeriesCore.AsyncOutcome

/-! # Coroutines under an oracle

An oracle fixes what each operation answers, from all that has happened before. A coroutine then
has one run: its outcome and its trace are a function of the oracle. -/

namespace AsyncProgram

variable {I : Interface} {ε α β : Type}

/-- What each operation answers after a trace. -/
abbrev Oracle (I : Interface) (ε : Type) :=
  List (Event I ε) → (op : I.Op) → Except ε (I.Answer op)

namespace Program

/-- The outcome of a coroutine under an oracle, and the trace it leaves. -/
def answered (oracle : Oracle I ε) : Program I ε α → List (Event I ε) →
    Except ε α × List (Event I ε)
  | .ret value, trace => (.ok value, trace)
  | .raise error, trace => (.error error, trace)
  | .await op resume, trace =>
    (resume (oracle trace op)).answered oracle (trace ++ [⟨op, oracle trace op⟩])

variable {oracle : Oracle I ε} {program : Program I ε α} {trace after : List (Event I ε)}

@[simp] theorem answered_ret {value : α} :
    (Program.ret value : Program I ε α).answered oracle trace = (.ok value, trace) := rfl

@[simp] theorem answered_raise {error : ε} :
    (Program.raise error : Program I ε α).answered oracle trace = (.error error, trace) := rfl

@[simp] theorem answered_ofExcept {outcome : Except ε α} :
    (ofExcept outcome : Program I ε α).answered oracle trace = (outcome, trace) := by
  cases outcome with
  | ok value => rfl
  | error error => rfl

@[simp] theorem answered_perform {op : I.Op} :
    (perform op : Program I ε (I.Answer op)).answered oracle trace =
      (oracle trace op, trace ++ [⟨op, oracle trace op⟩]) := answered_ofExcept

theorem answered_andThen {continuation : Except ε α → Program I ε β} :
    (program.andThen continuation).answered oracle trace =
      (continuation (program.answered oracle trace).1).answered oracle
        (program.answered oracle trace).2 := by
  induction program generalizing trace with
  | ret value => rfl
  | raise error => rfl
  | await op resume ih => exact ih (oracle trace op)

/-- A part that returns is gone on from. -/
theorem answered_bind {value : α} {continuation : α → Program I ε β}
    (returns : program.answered oracle trace = (.ok value, after)) :
    (program >>= continuation).answered oracle trace =
      (continuation value).answered oracle after := by
  have whole : (program >>= continuation).answered oracle trace = _ := answered_andThen
  rw [returns] at whole
  exact whole

/-- A part that raises ends the whole. -/
theorem answered_bind_error {error : ε} {continuation : α → Program I ε β}
    (raises : program.answered oracle trace = (.error error, after)) :
    (program >>= continuation).answered oracle trace = (.error error, after) := by
  have whole : (program >>= continuation).answered oracle trace = _ := answered_andThen
  rw [raises] at whole
  exact whole

theorem answered_catching {value : α} {handler : ε → Program I ε α}
    (returns : program.answered oracle trace = (.ok value, after)) :
    (program.catching handler).answered oracle trace = (.ok value, after) := by
  have whole : (program.catching handler).answered oracle trace = _ := answered_andThen
  rw [returns] at whole
  exact whole

/-- The run is one of those that record whatever is answered. -/
theorem steps_answered (oracle : Oracle I ε) (program : Program I ε α)
    (trace : List (Event I ε)) :
    Steps (recording fun _ _ => True) α (program, trace)
      (.ofExcept (program.answered oracle trace).1, (program.answered oracle trace).2) := by
  induction program generalizing trace with
  | ret value => exact .refl
  | raise error => exact .refl
  | await op resume ih =>
    have rest := ih (oracle trace op) (trace ++ [⟨op, oracle trace op⟩])
    have step := @Step.resume I ε α _ (recording fun _ _ => True) op resume trace (oracle trace op)
      trivial
    exact .head step rest

/-- What is safe whatever is answered holds at the end of the run under an oracle. -/
theorem Safe.answered {post : Except ε α → List (Event I ε) → Prop}
    {need : (op : I.Op) → List (Event I ε) → Prop}
    (safe : program.Safe (recording fun _ _ => True) (.traced need) post trace)
    (oracle : Oracle I ε) :
    post (program.answered oracle trace).1 (program.answered oracle trace).2 := by
  have ended := (safe.traced (steps_answered oracle program trace)).1
  generalize program.answered oracle trace = result at ended ⊢
  obtain ⟨outcome, last⟩ := result
  cases outcome with
  | ok value => exact ended
  | error error => exact ended

end Program

end AsyncProgram
