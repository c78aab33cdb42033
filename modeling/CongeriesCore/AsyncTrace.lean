import CongeriesCore.AsyncContract
import Mathlib.Data.List.Basic
import Mathlib.Data.List.Induction

/-! # Traces of a coroutine

An environment whose operations have no effect but to be recorded: each answers whatever
its owner chooses, and the state is the list of what has happened so far. What a
coroutine does with the answers is then all that its trace shows. -/

namespace AsyncProgram

/-- An operation with the outcome it had. -/
abbrev Event (I : Interface) (ε : Type) := (op : I.Op) × Except ε (I.Answer op)

variable {I : Interface} {ε α β : Type}

def recording (permits : (op : I.Op) → Except ε (I.Answer op) → Prop) :
    Environment I ε (List (Event I ε)) where
  Choice op := Except ε (I.Answer op)
  permits op outcome _ := permits op outcome
  answer op outcome trace := (outcome, trace ++ [⟨op, outcome⟩])

/-- What has to hold of the trace when the coroutine suspends on an operation. -/
def Contract.traced (need : (op : I.Op) → List (Event I ε) → Prop) :
    Contract I (List (Event I ε)) :=
  .alone (fun _ => True) (fun _ _ => True) need

/-- Events before each of which there was no other of their kind happen at most once. -/
theorem countP_le_one {kind : α → Bool} {trace : List α}
    (first : ∀ before event after, trace = before ++ event :: after → kind event = true →
      before.countP kind = 0) : trace.countP kind ≤ 1 := by
  induction trace using List.reverseRecOn with
  | nil => simp
  | append_singleton trace event ih =>
    rw [List.countP_append, List.countP_singleton]
    split
    · rename_i found
      simp [first trace event [] rfl found]
    · exact ih fun before earlier after split => first before earlier (after ++ [event]) (by simp [split])

namespace Program

variable {permits : (op : I.Op) → Except ε (I.Answer op) → Prop}
  {need : (op : I.Op) → List (Event I ε) → Prop} {trace : List (Event I ε)}

theorem safe_perform_traced {op : I.Op}
    {post : Except ε (I.Answer op) → List (Event I ε) → Prop} (needed : need op trace)
    (answered : ∀ outcome, permits op outcome → post outcome (trace ++ [⟨op, outcome⟩])) :
    (perform op : Program I ε (I.Answer op)).Safe (recording permits) (.traced need) post trace :=
  safe_perform_alone fun _ => ⟨needed, fun outcome permitted =>
    ⟨trivial, trivial, answered outcome permitted⟩⟩

/-- The events a coroutine adds to a trace: each operation was permitted its outcome, and
needed what the events before it had established. -/
theorem Safe.traced {post : Except ε α → List (Event I ε) → Prop} {program rest : Program I ε α}
    {after : List (Event I ε)} (safe : program.Safe (recording permits) (.traced need) post trace)
    (steps : Steps (recording permits) α (program, trace) (rest, after)) :
    rest.Safe (recording permits) (.traced need) post after ∧
      ∃ added, after = trace ++ added ∧ ∀ before event later, added = before ++ event :: later →
        need event.1 (trace ++ before) ∧ permits event.1 event.2 := by
  generalize htarget : (rest, after) = target at steps
  induction steps generalizing rest after with
  | refl =>
    cases htarget
    refine ⟨safe, [], by simp, fun before event later split => ?_⟩
    simp at split
  | tail _ last ih =>
    subst htarget
    cases last with
    | @resume op resume state outcome permitted =>
      obtain ⟨suspended, added, recorded, needs⟩ := ih rfl
      obtain ⟨needed, steps⟩ := suspended state rfl trivial
      refine ⟨(steps outcome permitted).2.2, added ++ [⟨op, outcome⟩], ?_, ?_⟩
      · simp [recording, recorded]
      · intro before event later split
        rcases List.eq_nil_or_concat later with rfl | ⟨earlier, last, rfl⟩
        · obtain ⟨rfl, ends⟩ := List.append_inj' split rfl
          obtain rfl := List.singleton_inj.mp ends
          exact ⟨recorded ▸ needed, permitted⟩
        · have split : added ++ [⟨op, outcome⟩] = (before ++ event :: earlier) ++ [last] := by
            simpa using split
          exact needs before event earlier (List.append_inj' split rfl).1

end Program

end AsyncProgram
