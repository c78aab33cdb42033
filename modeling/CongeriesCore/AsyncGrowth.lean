import CongeriesCore.AsyncOutcome

/-! # Growth of traces

A coroutine whose operations are all of one kind leaves a trace that has grown by operations of
that kind: what the trace shows of other operations stays as it was. -/

namespace AsyncProgram

variable {I : Interface} {ε α β : Type}

/-- The trace has grown by operations of this kind. -/
def Grown (allowed : I.Op → Prop) (trace after : List (Event I ε)) : Prop :=
  ∃ added, after = trace ++ added ∧ ∀ event ∈ added, allowed event.1

namespace Grown

variable {allowed wider : I.Op → Prop} {trace middle after : List (Event I ε)}

theorem refl (trace : List (Event I ε)) : Grown allowed trace trace := by
  refine ⟨[], by simp, ?_⟩
  intro event member
  cases member

theorem trans (first : Grown allowed trace middle) (second : Grown allowed middle after) :
    Grown allowed trace after := by
  obtain ⟨added, rfl, inside⟩ := first
  obtain ⟨more, rfl, inside'⟩ := second
  refine ⟨added ++ more, by simp, ?_⟩
  intro event member
  rcases List.mem_append.mp member with early | late
  · exact inside event early
  · exact inside' event late

theorem mono (grown : Grown allowed trace after) (widens : ∀ op, allowed op → wider op) :
    Grown wider trace after := by
  obtain ⟨added, rfl, inside⟩ := grown
  exact ⟨added, rfl, fun event member => widens _ (inside event member)⟩

theorem of_split {before : List (Event I ε)} {event : Event I ε}
    (split : trace = before ++ event :: after) : Grown (fun _ => True) before trace :=
  ⟨event :: after, split, fun _ _ => trivial⟩

/-- One operation more. -/
theorem event {op : I.Op} (allows : allowed op) (outcome : Except ε (I.Answer op)) :
    Grown allowed trace (trace ++ [⟨op, outcome⟩]) := by
  refine ⟨[⟨op, outcome⟩], rfl, ?_⟩
  intro event member
  obtain rfl := List.mem_singleton.mp member
  exact allows

theorem subset (grown : Grown allowed trace after) {event : Event I ε} (member : event ∈ trace) :
    event ∈ after := by
  obtain ⟨added, rfl, -⟩ := grown
  exact List.mem_append_left _ member

/-- An event of another kind had happened before. -/
theorem mem (grown : Grown allowed trace after) {event : Event I ε} (member : event ∈ after)
    (other : ¬allowed event.1) : event ∈ trace := by
  obtain ⟨added, rfl, inside⟩ := grown
  rcases List.mem_append.mp member with early | late
  · exact early
  · exact absurd (inside event late) other

theorem countP_eq (grown : Grown allowed trace after) {kind : Event I ε → Bool}
    (others : ∀ event, allowed event.1 → kind event = false) :
    after.countP kind = trace.countP kind := by
  obtain ⟨added, rfl, inside⟩ := grown
  have none : added.countP kind = 0 := by
    apply List.countP_eq_zero.mpr
    intro event member
    simp [others event (inside event member)]
  rw [List.countP_append, none, Nat.add_zero]

end Grown

/-- Events before each of which there were fewer than `most` of their kind are at most so many. -/
theorem countP_le {kind : α → Bool} {trace : List α} {most : ℕ}
    (fewer : ∀ before event after, trace = before ++ event :: after → kind event = true →
      before.countP kind < most) : trace.countP kind ≤ most := by
  induction trace using List.reverseRecOn with
  | nil => simp
  | append_singleton trace event ih =>
    rw [List.countP_append, List.countP_singleton]
    split
    · rename_i found
      exact fewer trace event [] rfl found
    · apply ih
      intro before earlier after split
      exact fewer before earlier (after ++ [event]) (by simp [split])

/-- Of a kind of events that happens at most once there is only one. -/
theorem eq_of_countP_le_one {kind : α → Bool} {trace : List α} (once : trace.countP kind ≤ 1)
    {first second : α} (member : first ∈ trace) (member' : second ∈ trace)
    (isKind : kind first = true) (isKind' : kind second = true) : first = second := by
  rw [List.countP_eq_length_filter] at once
  have found : first ∈ trace.filter kind := List.mem_filter.mpr ⟨member, isKind⟩
  have found' : second ∈ trace.filter kind := List.mem_filter.mpr ⟨member', isKind'⟩
  match trace.filter kind, once, found, found' with
  | [only], _, found, found' =>
    rw [List.mem_singleton.mp found, List.mem_singleton.mp found']

theorem Program.exists_of_returned {program : Program I ε α}
    (returned : program.returned = true) : ∃ value, program = .ret value := by
  cases program with
  | ret value => exact ⟨value, rfl⟩
  | raise error => cases returned
  | await op resume => cases returned

/-- Execute while every operation answers as it is told to. -/
def answering (answers : (op : I.Op) → Except ε (I.Answer op)) (fuel : ℕ)
    (program : Program I ε α) : Program I ε α × List (Event I ε) :=
  executeWhile (recording fun _ _ => True) (fun _ => true) (fun op _ => answers op) fuel (program, [])

theorem answering_steps (answers : (op : I.Op) → Except ε (I.Answer op)) (fuel : ℕ)
    (program : Program I ε α) :
    Steps (recording fun _ _ => True) α (program, []) (answering answers fuel program) :=
  executeWhile_steps (fun _ _ _ => trivial) fuel (program, [])

/-- Answers that the environment permits lead to one of its runs. -/
theorem answering_permitted {permits : (op : I.Op) → Except ε (I.Answer op) → Prop}
    {answers : (op : I.Op) → Except ε (I.Answer op)} (permitted : ∀ op, permits op (answers op))
    (fuel : ℕ) (program : Program I ε α) :
    Steps (recording permits) α (program, []) (answering answers fuel program) := by
  have same : ∀ fuel (configuration : Program I ε α × List (Event I ε)),
      executeWhile (recording permits) (fun _ => true) (fun op _ => answers op) fuel configuration =
        executeWhile (recording fun _ _ => True) (fun _ => true) (fun op _ => answers op) fuel
          configuration := by
    intro fuel
    induction fuel with
    | zero =>
      intro configuration
      rfl
    | succ fuel ih =>
      intro configuration
      obtain ⟨program, trace⟩ := configuration
      cases program with
      | ret value => rfl
      | raise error => rfl
      | await op resume => exact ih _
  have steps := @executeWhile_steps I ε α _ (recording permits) (fun _ => true)
    (fun op _ => answers op) (fun op _ _ => permitted op) fuel (program, [])
  rw [same] at steps
  exact steps

namespace Program

variable {permits : (op : I.Op) → Except ε (I.Answer op) → Prop}
  {need : (op : I.Op) → List (Event I ε) → Prop} {allowed : I.Op → Prop}
  {trace : List (Event I ε)}

/-- A coroutine all of whose operations may happen at any time lets the trace grow by them. -/
theorem Only.safe_grown {program : Program I ε α} (only : program.Only allowed)
    (needs : ∀ op after, allowed op → Grown allowed trace after → need op after) :
    program.Safe (recording permits) (.traced need) (fun _ after => Grown allowed trace after)
      trace := by
  induction program generalizing trace with
  | ret value => exact .refl trace
  | raise error => exact .refl trace
  | await op resume ih =>
    intro current same _
    obtain rfl : trace = current := same
    refine ⟨needs op _ only.1 (.refl _), fun outcome permitted => ⟨trivial, trivial, ?_⟩⟩
    have first : Grown allowed trace (trace ++ [⟨op, outcome⟩]) := .event only.1 outcome
    have later := @ih outcome (trace ++ [⟨op, outcome⟩]) (only.2 outcome)
      fun op after allows grown => needs op after allows (first.trans grown)
    exact later.mono fun _ after grown => first.trans grown

/-- A first part of one kind of operations. -/
theorem Only.safe_bind {program : Program I ε α} {continuation : α → Program I ε β}
    {post : Except ε β → List (Event I ε) → Prop} (only : program.Only allowed)
    (needs : ∀ op after, allowed op → Grown allowed trace after → need op after)
    (value : ∀ value after, Grown allowed trace after →
      (continuation value).Safe (recording permits) (.traced need) post after)
    (error : ∀ error after, Grown allowed trace after → post (.error error) after) :
    (program >>= continuation).Safe (recording permits) (.traced need) post trace :=
  (only.safe_grown needs).bind value error

/-- One operation and what follows its answer. -/
theorem safe_perform_bind {op : I.Op} {continuation : I.Answer op → Program I ε β}
    {post : Except ε β → List (Event I ε) → Prop} (needed : need op trace)
    (value : ∀ answer, permits op (.ok answer) →
      (continuation answer).Safe (recording permits) (.traced need) post
        (trace ++ [⟨op, .ok answer⟩]))
    (error : ∀ error, permits op (.error error) → post (.error error) (trace ++ [⟨op, .error error⟩])) :
    (perform op >>= continuation).Safe (recording permits) (.traced need) post trace := by
  have performed : (perform op : Program I ε (I.Answer op)).Safe (recording permits) (.traced need)
      (fun outcome after => permits op outcome ∧ after = trace ++ [⟨op, outcome⟩]) trace :=
    safe_perform_traced needed fun outcome permitted => ⟨permitted, rfl⟩
  apply performed.bind
  · intro answer after reached
    obtain ⟨permitted, rfl⟩ := reached
    exact value answer permitted
  · intro raised after reached
    obtain ⟨permitted, rfl⟩ := reached
    exact error raised permitted

/-- A check between two operations. -/
theorem safe_ofExcept_bind {outcome : Except ε α} {continuation : α → Program I ε β}
    {post : Except ε β → List (Event I ε) → Prop}
    (value : ∀ value, outcome = .ok value →
      (continuation value).Safe (recording permits) (.traced need) post trace)
    (error : ∀ error, outcome = .error error → post (.error error) trace) :
    (ofExcept outcome >>= continuation).Safe (recording permits) (.traced need) post trace := by
  cases outcome with
  | ok result => exact value result rfl
  | error raised => exact error raised rfl

end Program

end AsyncProgram
