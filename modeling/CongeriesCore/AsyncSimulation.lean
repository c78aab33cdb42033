import CongeriesCore.AsyncGrowth

/-! # Simulations of coroutines

What the trace of a coroutine shows, whatever its operations answer, holds over any environment
whose states the traces stand for. Two coroutines that differ only where their first part does not
lead are the same. -/

namespace AsyncProgram

/-- Events of one kind, between two of which there is always one of another kind, and one before the
first, are no more than those. -/
theorem countP_le_countP {γ : Type} {kind other : γ → Bool} {trace : List γ}
    (led : ∀ before event after, trace = before ++ event :: after → kind event = true →
      ∃ earlier leader since, before = earlier ++ leader :: since ∧ other leader = true ∧
        kind leader = false ∧ since.countP kind = 0) :
    ∀ early, early <+: trace → early.countP kind ≤ early.countP other := by
  induction trace using List.reverseRecOn with
  | nil =>
    intro early start
    simp [List.prefix_nil.mp start]
  | append_singleton trace event ih =>
    have shorter : ∀ early, early <+: trace → early.countP kind ≤ early.countP other := by
      apply ih
      intro before earlier after split
      exact led before earlier (after ++ [event]) (by simp [split])
    intro early start
    rcases List.prefix_concat_iff.mp start with rfl | inside
    · by_cases found : kind event = true
      · obtain ⟨earlier, leader, since, rfl, leads, aside, quiet⟩ := led trace event [] rfl found
        have few := shorter earlier (List.prefix_append _ _)
        simp only [List.countP_append, List.countP_cons, List.countP_nil, leads, aside, quiet,
          found, if_true, Bool.false_eq_true, if_false]
        omega
      · have few := shorter trace (List.prefix_refl _)
        simp only [List.countP_append, List.countP_cons, List.countP_nil, found, if_false,
          Bool.false_eq_true]
        omega
    · exact shorter early inside

namespace Program

variable {I : Interface} {ε α β σ : Type}

section Recording

variable {permits : (op : I.Op) → Except ε (I.Answer op) → Prop}
  {need : (op : I.Op) → List (Event I ε) → Prop} {trace : List (Event I ε)}
  {post : Except ε α → List (Event I ε) → Prop} {held : Except ε α → Prop} {program : Program I ε α}

/-- What a coroutine yields, whatever it comes to need, it establishes as well. -/
theorem Safe.yielding (safe : program.Safe (recording permits) (.traced need) post trace)
    (yields : program.Yields permits held) :
    program.Safe (recording permits) (.traced need)
      (fun outcome after => held outcome ∧ post outcome after) trace := by
  induction program generalizing trace with
  | ret value => exact ⟨yields, safe⟩
  | raise error => exact ⟨yields, safe⟩
  | await op resume ih =>
    intro current same kept
    obtain ⟨needed, steps⟩ := safe current same kept
    refine ⟨needed, fun outcome permitted => ?_⟩
    obtain ⟨keeps, guaranteed, later⟩ := steps outcome permitted
    exact ⟨keeps, guaranteed, ih outcome later (yields outcome permitted)⟩

/-- The traces stand for states of another environment: what the coroutine comes to need in a
trace lets the environment keep its contract, with answers that the trace may record. -/
structure Simulates (permits : (op : I.Op) → Except ε (I.Answer op) → Prop)
    (need : (op : I.Op) → List (Event I ε) → Prop) (E : Environment I ε σ) (C : Contract I σ)
    (stands : List (Event I ε) → σ → Prop) : Prop where
  stable : ∀ trace before after, stands trace before → C.rely before after → C.invariant after →
    stands trace after
  needs : ∀ op trace state, need op trace → stands trace state → C.invariant state →
    C.need op state
  steps : ∀ op trace state choice, need op trace → stands trace state → C.invariant state →
    E.permits op choice state →
      permits op (E.answer op choice state).1 ∧ C.invariant (E.answer op choice state).2 ∧
      C.guarantee state (E.answer op choice state).2 ∧
      stands (trace ++ [⟨op, (E.answer op choice state).1⟩]) (E.answer op choice state).2

theorem Safe.simulated {E : Environment I ε σ} {C : Contract I σ}
    {stands : List (Event I ε) → σ → Prop} (simulates : Simulates permits need E C stands)
    (safe : program.Safe (recording permits) (.traced need) post trace) {state : σ}
    (start : stands trace state) :
    program.Safe E C (fun outcome after => ∃ trace, stands trace after ∧ post outcome trace)
      state := by
  induction program generalizing trace state with
  | ret value => exact ⟨trace, start, safe⟩
  | raise error => exact ⟨trace, start, safe⟩
  | await op resume ih =>
    intro current relied kept
    have now := simulates.stable trace state current start relied kept
    obtain ⟨needed, steps⟩ := safe trace rfl trivial
    refine ⟨simulates.needs op trace current needed now kept, fun choice permitted => ?_⟩
    obtain ⟨recorded, keeps, guaranteed, later⟩ :=
      simulates.steps op trace current choice needed now kept permitted
    exact ⟨keeps, guaranteed, ih _ (steps _ recorded).2.2 later⟩

end Recording

/-! ## All runs -/

section Runs

/-- Whatever is answered, all that has happened is so. -/
def Leaves (held : List (Event I ε) → Prop) (program : Program I ε α) : Prop :=
  ∀ rest trace, Steps (recording fun _ _ => True) α (program, []) (rest, trace) → held trace

/-- Whatever is answered, what is returned after all that has happened is so. -/
def Delivers (held : α → List (Event I ε) → Prop) (program : Program I ε α) : Prop :=
  ∀ value trace, Steps (recording fun _ _ => True) α (program, []) (.ret value, trace) →
    held value trace

variable {need : (op : I.Op) → List (Event I ε) → Prop}
  {post : Except ε α → List (Event I ε) → Prop} {program : Program I ε α}

/-- Each operation comes after what it needs. -/
theorem Safe.leaves (safe : program.Safe (recording fun _ _ => True) (.traced need) post []) :
    program.Leaves fun trace => ∀ before event after, trace = before ++ event :: after →
      need event.1 before := by
  intro rest trace steps before event after split
  obtain ⟨-, added, grown, met⟩ := safe.traced steps
  rw [List.nil_append] at grown
  rw [grown] at split
  exact (met before event after split).1

theorem Safe.delivers (safe : program.Safe (recording fun _ _ => True) (.traced need) post []) :
    program.Delivers fun value trace => post (.ok value) trace := by
  intro value trace steps
  exact (safe.traced steps).1

end Runs

/-! ## Coroutines that are the same -/

variable {program : Program I ε α} {held : Except ε α → Prop}

theorem andThen_congr {first second : Except ε α → Program I ε β}
    (yields : program.Yields (fun _ _ => True) held)
    (same : ∀ outcome, held outcome → first outcome = second outcome) :
    program.andThen first = program.andThen second := by
  induction program with
  | ret value => exact same _ yields
  | raise error => exact same _ yields
  | await op resume ih =>
    simp only [andThen, Program.await.injEq, heq_eq_eq, true_and]
    funext outcome
    exact ih outcome (yields outcome trivial)

theorem bind_congr {first second : α → Program I ε β}
    (yields : program.Yields (fun _ _ => True) held)
    (same : ∀ value, held (.ok value) → first value = second value) :
    program >>= first = program >>= second := by
  apply andThen_congr yields
  intro outcome holds
  cases outcome with
  | ok value => exact same value holds
  | error error => rfl

theorem check_congr {outcome : Except ε α} {first second : α → Program I ε β}
    (same : ∀ value, outcome = .ok value → first value = second value) :
    ofExcept outcome >>= first = ofExcept outcome >>= second := by
  cases outcome with
  | ok value => exact same value rfl
  | error error => rfl

end Program

end AsyncProgram
