import CongeriesCore.AsyncProgram

/-! # Operations that are coroutines themselves

A handler carries each operation of a coroutine out by a coroutine over another interface. -/

namespace AsyncProgram

variable {I J : Interface} {ε α β γ : Type}

namespace Program

theorem andThen_assoc (program : Program I ε α) (continuation : Except ε α → Program I ε β)
    (last : Except ε β → Program I ε γ) :
    (program.andThen continuation).andThen last =
      program.andThen fun outcome => (continuation outcome).andThen last := by
  induction program with
  | ret value => rfl
  | raise error => rfl
  | await op resume ih => simp only [andThen, ih]

theorem andThen_ofExcept (program : Program I ε α) : program.andThen ofExcept = program := by
  induction program with
  | ret value => rfl
  | raise error => rfl
  | await op resume ih => simp only [andThen, ih]

def handled (handler : (op : I.Op) → Program J ε (I.Answer op)) : Program I ε α → Program J ε α
  | .ret value => .ret value
  | .raise error => .raise error
  | .await op resume => (handler op).andThen fun outcome => (resume outcome).handled handler

variable (handler : (op : I.Op) → Program J ε (I.Answer op))

@[simp] theorem handled_ofExcept (outcome : Except ε α) :
    (ofExcept outcome : Program I ε α).handled handler = ofExcept outcome := by
  cases outcome with
  | ok value => rfl
  | error error => rfl

@[simp] theorem handled_perform (op : I.Op) :
    (perform op : Program I ε (I.Answer op)).handled handler = handler op := by
  have ends : (fun outcome : Except ε (I.Answer op) =>
      (ofExcept outcome : Program I ε (I.Answer op)).handled handler) = ofExcept := by
    funext outcome
    exact handled_ofExcept handler outcome
  simp only [perform, handled, ends, andThen_ofExcept]

theorem handled_andThen (program : Program I ε α) (continuation : Except ε α → Program I ε β) :
    (program.andThen continuation).handled handler =
      (program.handled handler).andThen fun outcome => (continuation outcome).handled handler := by
  induction program with
  | ret value => rfl
  | raise error => rfl
  | await op resume ih => simp only [andThen, handled, ih, andThen_assoc]

theorem handled_bind (program : Program I ε α) (continuation : α → Program I ε β) :
    (program >>= continuation).handled handler =
      program.handled handler >>= fun value => (continuation value).handled handler := by
  change (program.andThen _).handled handler = (program.handled handler).andThen _
  rw [handled_andThen]
  congr 1
  funext outcome
  cases outcome with
  | ok value => rfl
  | error error => rfl

theorem handled_ite {condition : Prop} [Decidable condition] (first second : Program I ε α) :
    (if condition then first else second).handled handler =
      if condition then first.handled handler else second.handled handler := by
  split
  · rfl
  · rfl

end Program

end AsyncProgram
