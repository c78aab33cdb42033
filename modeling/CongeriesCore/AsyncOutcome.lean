import CongeriesCore.AsyncTrace

/-! # Outcomes of a coroutine, whatever its operations answer

`Yields` is the weakest precondition of a coroutine over a recording environment for what it
ends with alone, and `Can` its dual: some of its runs end so. `Reaches` is such a dual for the
operations that a coroutine comes to. The steps of a composed coroutine come apart into the steps of
its parts. -/

namespace AsyncProgram

variable {I : Interface} {ε α β σ : Type}

section Parts

variable {E : Environment I ε σ}

theorem Steps.ended_ret {value : α} {before after : σ} {target : Program I ε α}
    (steps : Steps E α (.ret value, before) (target, after)) :
    target = .ret value ∧ after = before := by
  rcases Relation.ReflTransGen.cases_head steps with same | ⟨next, step, -⟩
  · cases same
    exact ⟨rfl, rfl⟩
  · cases step

theorem Steps.ended_raise {error : ε} {before after : σ} {target : Program I ε α}
    (steps : Steps E α (.raise error, before) (target, after)) :
    target = .raise error ∧ after = before := by
  rcases Relation.ReflTransGen.cases_head steps with same | ⟨next, step, -⟩
  · cases same
    exact ⟨rfl, rfl⟩
  · cases step

theorem Steps.ended_ofExcept {outcome result : Except ε α} {before after : σ}
    (steps : Steps E α (.ofExcept outcome, before) (.ofExcept result, after)) :
    outcome = result ∧ after = before := by
  cases outcome with
  | ok value =>
    obtain ⟨same, still⟩ := Steps.ended_ret steps
    cases result with
    | ok other =>
      cases same
      exact ⟨rfl, still⟩
    | error error => cases same
  | error error =>
    obtain ⟨same, still⟩ := Steps.ended_raise steps
    cases result with
    | ok other => cases same
    | error other =>
      cases same
      exact ⟨rfl, still⟩

theorem Steps.ofExcept_ended {outcome : Except ε α} {target : Program I ε α} {before after : σ}
    (steps : Steps E α (.ofExcept outcome, before) (target, after)) :
    target = .ofExcept outcome ∧ after = before := by
  cases outcome with
  | ok value => exact Steps.ended_ret steps
  | error error => exact Steps.ended_raise steps

theorem Steps.ret_ended {value : α} {outcome : Except ε α} {before after : σ}
    (steps : Steps E α (.ret value, before) (.ofExcept outcome, after)) :
    outcome = .ok value ∧ after = before := by
  have whole : Steps E α (.ofExcept (.ok value), before) (.ofExcept outcome, after) := steps
  obtain ⟨same, still⟩ := whole.ended_ofExcept
  exact ⟨same.symm, still⟩

theorem Steps.raise_ended {error : ε} {outcome : Except ε α} {before after : σ}
    (steps : Steps E α (.raise error, before) (.ofExcept outcome, after)) :
    outcome = .error error ∧ after = before := by
  have whole : Steps E α (.ofExcept (.error error), before) (.ofExcept outcome, after) := steps
  obtain ⟨same, still⟩ := whole.ended_ofExcept
  exact ⟨same.symm, still⟩

theorem Steps.ofExcept_returned {outcome : Except ε α} {value : α} {before after : σ}
    (steps : Steps E α (.ofExcept outcome, before) (.ret value, after)) :
    outcome = .ok value ∧ after = before := by
  have whole : Steps E α (.ofExcept outcome, before) (.ofExcept (.ok value), after) := steps
  exact whole.ended_ofExcept

theorem Steps.ofExcept_raised {outcome : Except ε α} {error : ε} {before after : σ}
    (steps : Steps E α (.ofExcept outcome, before) (.raise error, after)) :
    outcome = .error error ∧ after = before := by
  have whole : Steps E α (.ofExcept outcome, before) (.ofExcept (.error error), after) := steps
  exact whole.ended_ofExcept

/-- A coroutine that has ended had ended its first part. -/
theorem Steps.andThen_ended {program : Program I ε α} {continuation : Except ε α → Program I ε β}
    {before after : σ} {outcome : Except ε β}
    (steps : Steps E β (program.andThen continuation, before) (.ofExcept outcome, after)) :
    ∃ middle state, Steps E α (program, before) (.ofExcept middle, state) ∧
      Steps E β (continuation middle, state) (.ofExcept outcome, after) := by
  induction program generalizing before with
  | ret value => exact ⟨.ok value, before, .refl, steps⟩
  | raise error => exact ⟨.error error, before, .refl, steps⟩
  | await op resume ih =>
    rcases Relation.ReflTransGen.cases_head steps with same | ⟨next, step, rest⟩
    · cases outcome with
      | ok value => cases same
      | error error => cases same
    · cases step with
      | resume choice permitted =>
        obtain ⟨middle, state, first, second⟩ := ih _ rest
        exact ⟨middle, state, .head (.resume choice permitted) first, second⟩

/-- A coroutine is still in its first part, or that part has ended. -/
theorem Steps.andThen_reached {program : Program I ε α} {continuation : Except ε α → Program I ε β}
    {before after : σ} {target : Program I ε β}
    (steps : Steps E β (program.andThen continuation, before) (target, after)) :
    (∃ rest, Steps E α (program, before) (rest, after)) ∨
      ∃ middle state, Steps E α (program, before) (.ofExcept middle, state) ∧
        Steps E β (continuation middle, state) (target, after) := by
  induction program generalizing before with
  | ret value => exact .inr ⟨.ok value, before, .refl, steps⟩
  | raise error => exact .inr ⟨.error error, before, .refl, steps⟩
  | await op resume ih =>
    rcases Relation.ReflTransGen.cases_head steps with same | ⟨next, step, rest⟩
    · cases same
      exact .inl ⟨_, .refl⟩
    · cases step with
      | resume choice permitted =>
        rcases ih _ rest with ⟨program, first⟩ | ⟨middle, state, first, second⟩
        · exact .inl ⟨program, .head (.resume choice permitted) first⟩
        · exact .inr ⟨middle, state, .head (.resume choice permitted) first, second⟩

theorem Steps.bind_reached {program : Program I ε α} {continuation : α → Program I ε β}
    {before after : σ} {target : Program I ε β}
    (steps : Steps E β (program >>= continuation, before) (target, after)) :
    (∃ rest, Steps E α (program, before) (rest, after)) ∨
      ∃ value state, Steps E α (program, before) (.ret value, state) ∧
        Steps E β (continuation value, state) (target, after) := by
  rcases Steps.andThen_reached steps with first | ⟨middle, state, first, second⟩
  · exact .inl first
  · cases middle with
    | ok value => exact .inr ⟨value, state, first, second⟩
    | error error =>
      obtain ⟨-, rfl⟩ := Steps.ended_raise second
      exact .inl ⟨_, first⟩

theorem Steps.bind_ended {program : Program I ε α} {continuation : α → Program I ε β}
    {before after : σ} {outcome : Except ε β}
    (steps : Steps E β (program >>= continuation, before) (.ofExcept outcome, after)) :
    (∃ value state, Steps E α (program, before) (.ret value, state) ∧
      Steps E β (continuation value, state) (.ofExcept outcome, after)) ∨
    ∃ error, outcome = .error error ∧ Steps E α (program, before) (.raise error, after) := by
  obtain ⟨middle, state, first, second⟩ := Steps.andThen_ended steps
  cases middle with
  | ok value => exact .inl ⟨value, state, first, second⟩
  | error error =>
    obtain ⟨same, rfl⟩ := Steps.ended_raise second
    cases outcome with
    | ok value => cases same
    | error other =>
      cases same
      exact .inr ⟨error, rfl, first⟩

end Parts

section Recorded

variable {permits : (op : I.Op) → Except ε (I.Answer op) → Prop} {trace after : List (Event I ε)}
  {program rest : Program I ε α}

/-- A trace only grows, by operations the coroutine may suspend on. -/
theorem Program.Only.recorded {allowed : I.Op → Prop} (only : program.Only allowed)
    (steps : Steps (recording permits) α (program, trace) (rest, after)) :
    ∃ added, after = trace ++ added ∧ ∀ event ∈ added, allowed event.1 := by
  have safe : program.Safe (recording permits) (.traced fun op _ => allowed op)
      (fun _ _ => True) trace :=
    only.safe (fun _ _ allows _ => ⟨allows, fun _ _ => ⟨trivial, trivial⟩⟩) fun _ _ => trivial
  obtain ⟨-, added, grown, needs⟩ := safe.traced steps
  refine ⟨added, grown, fun event member => ?_⟩
  obtain ⟨earlier, later, split⟩ := List.append_of_mem member
  exact (needs earlier event later split).1

theorem Program.only_true (program : Program I ε α) : program.Only fun _ => True := by
  induction program with
  | ret value => trivial
  | raise error => trivial
  | await op resume ih => exact ⟨trivial, ih⟩

theorem Steps.grows (steps : Steps (recording permits) α (program, trace) (rest, after)) :
    trace <+: after := by
  obtain ⟨added, grown, -⟩ := program.only_true.recorded steps
  exact ⟨added, grown.symm⟩

/-- An environment that permits more has the same steps. -/
theorem Steps.widen {wider : (op : I.Op) → Except ε (I.Answer op) → Prop}
    (widens : ∀ op outcome, permits op outcome → wider op outcome)
    (steps : Steps (recording permits) α (program, trace) (rest, after)) :
    Steps (recording wider) α (program, trace) (rest, after) := by
  generalize target : (rest, after) = last at steps
  induction steps generalizing rest after with
  | refl =>
    cases target
    exact .refl
  | tail _ step ih =>
    subst target
    cases step with
    | @resume op resume state outcome permitted =>
      have step := @Step.resume I ε α _ (recording wider) op resume state outcome
        (widens op outcome permitted)
      exact (ih rfl).tail step

/-- One operation adds itself. -/
theorem Steps.perform_ended {op : I.Op} {outcome : Except ε (I.Answer op)}
    (steps : Steps (recording permits) _ (Program.perform op, trace)
      (.ofExcept outcome, after)) : permits op outcome ∧ after = trace ++ [⟨op, outcome⟩] := by
  rcases Relation.ReflTransGen.cases_head steps with same | ⟨next, step, rest⟩
  · cases outcome with
    | ok value => cases same
    | error error => cases same
  · cases step with
    | resume answer permitted =>
      obtain ⟨same, grown⟩ := Steps.ended_ofExcept rest
      have answered : answer = outcome := same
      subst answered
      exact ⟨permitted, grown⟩

/-- What the items of a loop establish for good is established at its end. -/
theorem Steps.foldM_ended {body : Unit → β → Program I ε Unit} {Post : β → List (Event I ε) → Prop}
    (kept : ∀ item earlier later, earlier <+: later → Post item earlier → Post item later)
    (items : List β)
    (each : ∀ item ∈ items, ∀ before after outcome, Steps (recording permits) Unit
      (body () item, before) (.ofExcept outcome, after) → outcome = .ok () ∧ Post item after)
    {outcome : Except ε Unit} (steps : Steps (recording permits) Unit
      (Program.foldM body () items, trace) (.ofExcept outcome, after)) :
    ∀ item ∈ items, Post item after := by
  induction items generalizing trace with
  | nil =>
    intro item member
    cases member
  | cons head items ih =>
    obtain ⟨middle, state, first, second⟩ := Steps.andThen_ended steps
    obtain ⟨returned, held⟩ := each head (.head _) trace state middle first
    subst returned
    intro item member
    rcases List.mem_cons.mp member with rfl | later
    · exact kept item state after (Steps.grows second) held
    · exact ih (fun other inside => each other (.tail _ inside)) second item later

end Recorded

namespace Program

variable {permits : (op : I.Op) → Except ε (I.Answer op) → Prop}

/-- Where every operation answers as it is permitted, the coroutine ends under `post`. -/
def Yields (permits : (op : I.Op) → Except ε (I.Answer op) → Prop) (post : Except ε α → Prop) :
    Program I ε α → Prop
  | .ret value => post (.ok value)
  | .raise error => post (.error error)
  | .await op resume => ∀ outcome, permits op outcome → (resume outcome).Yields permits post

variable {post : Except ε α → Prop}

theorem yields_ofExcept {outcome : Except ε α} (holds : post outcome) :
    (ofExcept outcome : Program I ε α).Yields permits post := by
  cases outcome with
  | ok value => exact holds
  | error error => exact holds

theorem yields_perform {op : I.Op} {post : Except ε (I.Answer op) → Prop}
    (answers : ∀ outcome, permits op outcome → post outcome) :
    (perform op : Program I ε (I.Answer op)).Yields permits post :=
  fun outcome permitted => yields_ofExcept (answers outcome permitted)

theorem Yields.mono {strong : Except ε α → Prop} {program : Program I ε α}
    (yields : program.Yields permits strong) (weaken : ∀ outcome, strong outcome → post outcome) :
    program.Yields permits post := by
  induction program with
  | ret value => exact weaken _ yields
  | raise error => exact weaken _ yields
  | await op resume ih => exact fun outcome permitted => ih outcome (yields outcome permitted)

theorem Yields.andThen {middle : Except ε α → Prop} {post : Except ε β → Prop}
    {program : Program I ε α} {continuation : Except ε α → Program I ε β}
    (first : program.Yields permits middle)
    (rest : ∀ outcome, middle outcome → (continuation outcome).Yields permits post) :
    (program.andThen continuation).Yields permits post := by
  induction program with
  | ret value => exact rest _ first
  | raise error => exact rest _ first
  | await op resume ih => exact fun outcome permitted => ih outcome (first outcome permitted)

theorem Yields.bind {middle : Except ε α → Prop} {post : Except ε β → Prop}
    {program : Program I ε α} {continuation : α → Program I ε β}
    (first : program.Yields permits middle)
    (value : ∀ result, middle (.ok result) → (continuation result).Yields permits post)
    (error : ∀ raised, middle (.error raised) → post (.error raised)) :
    (program >>= continuation).Yields permits post := by
  apply first.andThen
  intro outcome reached
  cases outcome with
  | ok result => exact value result reached
  | error raised => exact error raised reached

theorem Yields.catching {middle : Except ε α → Prop} {program : Program I ε α}
    {handler : ε → Program I ε α} (first : program.Yields permits middle)
    (value : ∀ result, middle (.ok result) → post (.ok result))
    (error : ∀ raised, middle (.error raised) → (handler raised).Yields permits post) :
    (program.catching handler).Yields permits post := by
  apply first.andThen
  intro outcome reached
  cases outcome with
  | ok result => exact value result reached
  | error raised => exact error raised reached

theorem yields_ite {condition : Prop} [Decidable condition] {program other : Program I ε α}
    (yes : condition → program.Yields permits post) (no : ¬condition → other.Yields permits post) :
    (if condition then program else other).Yields permits post := by
  split
  · exact yes ‹_›
  · exact no ‹_›

theorem yields_foldM {body : β → α → Program I ε β} {post : Except ε β → Prop} (items : List α)
    (step : ∀ accumulator, ∀ item ∈ items, post (.ok accumulator) →
      (body accumulator item).Yields permits post)
    (accumulator : β) (start : post (.ok accumulator)) :
    (foldM body accumulator items).Yields permits post := by
  induction items generalizing accumulator with
  | nil => exact start
  | cons item items ih =>
    apply (step accumulator item (.head _) start).bind
    · intro next reached
      exact ih (fun accumulator other member => step accumulator other (.tail _ member)) next reached
    · intro raised reached
      exact reached

/-- What a coroutine yields holds at the end of each of its runs. -/
theorem Yields.ended {program : Program I ε α} (yields : program.Yields permits post)
    {trace after : List (Event I ε)} {outcome : Except ε α}
    (steps : Steps (recording permits) α (program, trace) (.ofExcept outcome, after)) :
    post outcome := by
  induction program generalizing trace with
  | ret value =>
    have whole : Steps (recording permits) α (.ofExcept (.ok value), trace)
      (.ofExcept outcome, after) := steps
    exact whole.ended_ofExcept.1 ▸ yields
  | raise error =>
    have whole : Steps (recording permits) α (.ofExcept (.error error), trace)
      (.ofExcept outcome, after) := steps
    exact whole.ended_ofExcept.1 ▸ yields
  | await op resume ih =>
    rcases Relation.ReflTransGen.cases_head steps with same | ⟨next, step, rest⟩
    · cases outcome with
      | ok value => cases same
      | error error => cases same
    · cases step with
      | resume answer permitted => exact ih _ (yields _ permitted) rest

theorem Yields.returned {program : Program I ε α} (yields : program.Yields permits post)
    {trace after : List (Event I ε)} {value : α}
    (steps : Steps (recording permits) α (program, trace) (.ret value, after)) :
    post (.ok value) := by
  have ended : Steps (recording permits) α (program, trace) (.ofExcept (.ok value), after) := steps
  exact yields.ended ended

theorem Yields.raised {program : Program I ε α} (yields : program.Yields permits post)
    {trace after : List (Event I ε)} {error : ε}
    (steps : Steps (recording permits) α (program, trace) (.raise error, after)) :
    post (.error error) := by
  have ended : Steps (recording permits) α (program, trace) (.ofExcept (.error error), after) :=
    steps
  exact yields.ended ended

theorem yields_true (program : Program I ε α) : program.Yields permits fun _ => True := by
  induction program with
  | ret value => trivial
  | raise error => trivial
  | await op resume ih => exact fun outcome _ => ih outcome

/-- What the coroutine returns, if it does, is as `post` says. -/
abbrev Returns (permits : (op : I.Op) → Except ε (I.Answer op) → Prop) (post : α → Prop)
    (program : Program I ε α) : Prop :=
  program.Yields permits fun outcome => ∀ value, outcome = .ok value → post value

section Returns

variable {post : β → Prop} {program : Program I ε β}

theorem returns_raise {error : ε} : (.raise error : Program I ε β).Returns permits post := nofun

theorem returns_ret {value : β} (holds : post value) :
    (.ret value : Program I ε β).Returns permits post := by
  intro other same
  cases same
  exact holds

/-- The parts before the last one may do anything. -/
theorem returns_bind {first : Program I ε α} {continuation : α → Program I ε β}
    (continues : ∀ value, (continuation value).Returns permits post) :
    (first >>= continuation).Returns permits post := by
  apply Yields.bind (yields_true first)
  · intro value _
    exact continues value
  · nofun

theorem Returns.bind_returns {middle : α → Prop} {first : Program I ε α}
    {continuation : α → Program I ε β} (returns : first.Returns permits middle)
    (continues : ∀ value, middle value → (continuation value).Returns permits post) :
    (first >>= continuation).Returns permits post := by
  apply Yields.bind returns
  · intro value reached
    exact continues value (reached value rfl)
  · nofun

theorem returns_checked {outcome : Except ε α} {continuation : α → Program I ε β}
    (continues : ∀ value, outcome = .ok value → (continuation value).Returns permits post) :
    (ofExcept outcome >>= continuation).Returns permits post := by
  cases outcome with
  | ok value => exact continues value rfl
  | error error => exact returns_raise

theorem Returns.catching {handler : ε → Program I ε β} (returns : program.Returns permits post)
    (handles : ∀ error, (handler error).Returns permits post) :
    (program.catching handler).Returns permits post := by
  apply Yields.catching returns
  · intro value holds
    exact holds
  · intro error _
    exact handles error

end Returns

/-- Its operations may answer so that the coroutine ends under `post`. -/
def Can (permits : (op : I.Op) → Except ε (I.Answer op) → Prop) (post : Except ε α → Prop) :
    Program I ε α → Prop
  | .ret value => post (.ok value)
  | .raise error => post (.error error)
  | .await op resume => ∃ outcome, permits op outcome ∧ (resume outcome).Can permits post

theorem can_ofExcept {outcome : Except ε α} (holds : post outcome) :
    (ofExcept outcome : Program I ε α).Can permits post := by
  cases outcome with
  | ok value => exact holds
  | error error => exact holds

theorem can_perform {op : I.Op} {post : Except ε (I.Answer op) → Prop}
    {outcome : Except ε (I.Answer op)} (permitted : permits op outcome) (holds : post outcome) :
    (perform op : Program I ε (I.Answer op)).Can permits post :=
  ⟨outcome, permitted, can_ofExcept holds⟩

theorem Can.andThen {middle : Except ε α → Prop} {post : Except ε β → Prop}
    {program : Program I ε α} {continuation : Except ε α → Program I ε β}
    (first : program.Can permits middle)
    (rest : ∀ outcome, middle outcome → (continuation outcome).Can permits post) :
    (program.andThen continuation).Can permits post := by
  induction program with
  | ret value => exact rest _ first
  | raise error => exact rest _ first
  | await op resume ih =>
    obtain ⟨outcome, permitted, later⟩ := first
    exact ⟨outcome, permitted, ih outcome later⟩

/-- A part that can end with this value can be gone on from. -/
theorem Can.bind {value : α} {post : Except ε β → Prop} {program : Program I ε α}
    {continuation : α → Program I ε β} (first : program.Can permits (· = .ok value))
    (rest : (continuation value).Can permits post) :
    (program >>= continuation).Can permits post := by
  apply first.andThen
  intro outcome ended
  subst ended
  exact rest

theorem can_passed {value : α} {outcome : Except ε α} {post : Except ε β → Prop}
    {continuation : α → Program I ε β} (passed : outcome = .ok value)
    (rest : (continuation value).Can permits post) :
    (ofExcept outcome >>= continuation).Can permits post := by
  subst passed
  exact rest

theorem can_failed {error : ε} {outcome : Except ε α} {post : Except ε β → Prop}
    {continuation : α → Program I ε β} (failed : outcome = .error error)
    (holds : post (.error error)) : (ofExcept outcome >>= continuation).Can permits post := by
  subst failed
  exact holds

/-- A part that can raise ends the whole. -/
theorem Can.raises {error : ε} {post : Except ε β → Prop} {program : Program I ε α}
    {continuation : α → Program I ε β} (first : program.Can permits (· = .error error))
    (holds : post (.error error)) : (program >>= continuation).Can permits post := by
  apply first.andThen
  intro outcome ended
  subst ended
  exact holds

theorem Can.caught {value : α} {program : Program I ε α} {handler : ε → Program I ε α}
    (first : program.Can permits (· = .ok value)) :
    (program.catching handler).Can permits (· = .ok value) := by
  apply first.andThen
  intro outcome ended
  subst ended
  rfl

theorem Can.ended {program : Program I ε α} (can : program.Can permits post)
    (trace : List (Event I ε)) : ∃ outcome after, post outcome ∧
      Steps (recording permits) α (program, trace) (.ofExcept outcome, after) := by
  induction program generalizing trace with
  | ret value => exact ⟨.ok value, trace, can, .refl⟩
  | raise error => exact ⟨.error error, trace, can, .refl⟩
  | await op resume ih =>
    obtain ⟨answer, permitted, later⟩ := can
    obtain ⟨outcome, after, holds, steps⟩ := ih answer later (trace ++ [⟨op, answer⟩])
    have step := @Step.resume I ε α _ (recording permits) op resume trace answer permitted
    exact ⟨outcome, after, holds, .head step steps⟩

/-- Where every operation answers as it is permitted, the coroutine comes to such operations only. -/
def Keeps (permits : (op : I.Op) → Except ε (I.Answer op) → Prop) (allowed : I.Op → Prop) :
    Program I ε α → Prop
  | .ret _ => True
  | .raise _ => True
  | .await op resume => allowed op ∧
      ∀ outcome, permits op outcome → (resume outcome).Keeps permits allowed

section Keeps

variable {allowed : I.Op → Prop} {program : Program I ε α}

theorem Only.keeps (only : program.Only allowed) : program.Keeps permits allowed := by
  induction program with
  | ret value => trivial
  | raise error => trivial
  | await op resume ih => exact ⟨only.1, fun outcome _ => ih outcome (only.2 outcome)⟩

theorem keeps_ofExcept {outcome : Except ε α} :
    (ofExcept outcome : Program I ε α).Keeps permits allowed := only_ofExcept.keeps

theorem keeps_perform {op : I.Op} (allows : allowed op) :
    (perform op : Program I ε (I.Answer op)).Keeps permits allowed :=
  ⟨allows, fun _ _ => keeps_ofExcept⟩

theorem Keeps.andThen {middle : Except ε α → Prop} {continuation : Except ε α → Program I ε β}
    (first : program.Keeps permits allowed) (yields : program.Yields permits middle)
    (rest : ∀ outcome, middle outcome → (continuation outcome).Keeps permits allowed) :
    (program.andThen continuation).Keeps permits allowed := by
  induction program with
  | ret value => exact rest _ yields
  | raise error => exact rest _ yields
  | await op resume ih =>
    exact ⟨first.1, fun outcome permitted =>
      ih outcome (first.2 outcome permitted) (yields outcome permitted)⟩

theorem Keeps.bind {continuation : α → Program I ε β} (first : program.Keeps permits allowed)
    (rest : ∀ value, (continuation value).Keeps permits allowed) :
    (program >>= continuation).Keeps permits allowed := by
  apply first.andThen (yields_true program)
  intro outcome _
  cases outcome with
  | ok value => exact rest value
  | error error => trivial

theorem keeps_checked {outcome : Except ε α} {continuation : α → Program I ε β}
    (rest : ∀ value, outcome = .ok value → (continuation value).Keeps permits allowed) :
    (ofExcept outcome >>= continuation).Keeps permits allowed := by
  cases outcome with
  | ok value => exact rest value rfl
  | error error => trivial

theorem Keeps.catching {handler : ε → Program I ε α} (first : program.Keeps permits allowed)
    (handles : ∀ error, (handler error).Keeps permits allowed) :
    (program.catching handler).Keeps permits allowed := by
  apply first.andThen (yields_true program)
  intro outcome _
  cases outcome with
  | ok value => trivial
  | error error => exact handles error

/-- What a run records is of operations that are allowed. -/
theorem Keeps.recorded {rest : Program I ε α} {trace after : List (Event I ε)}
    (keeps : program.Keeps permits allowed)
    (steps : Steps (recording permits) α (program, trace) (rest, after)) :
    ∃ added, after = trace ++ added ∧ ∀ event ∈ added, allowed event.1 := by
  generalize target : (rest, after) = last at steps
  have kept : last.1.Keeps permits allowed ∧
      ∃ added, last.2 = trace ++ added ∧ ∀ event ∈ added, allowed event.1 := by
    clear target
    induction steps with
    | refl => exact ⟨keeps, [], by simp, nofun⟩
    | tail _ step ih =>
      cases step with
      | @resume op resume state outcome permitted =>
        obtain ⟨suspended, added, grown, allows⟩ := ih
        refine ⟨suspended.2 outcome permitted, added ++ [⟨op, outcome⟩], ?_, ?_⟩
        · have grown : state = trace ++ added := grown
          change state ++ [⟨op, outcome⟩] = _
          rw [grown, List.append_assoc]
        · intro event member
          rcases List.mem_append.mp member with earlier | last
          · exact allows event earlier
          · rw [List.mem_singleton.mp last]
            exact suspended.1
  subst target
  exact kept.2

end Keeps

/-- Its operations may answer so that the coroutine comes to one of these. -/
def Reaches (permits : (op : I.Op) → Except ε (I.Answer op) → Prop) (reached : I.Op → Prop) :
    Program I ε α → Prop
  | .ret _ => False
  | .raise _ => False
  | .await op resume => ∃ outcome, permits op outcome ∧
      (reached op ∨ (resume outcome).Reaches permits reached)

variable {reached : I.Op → Prop}

theorem reaches_perform {op : I.Op} {outcome : Except ε (I.Answer op)}
    (permitted : permits op outcome) (holds : reached op) :
    (perform op : Program I ε (I.Answer op)).Reaches permits reached :=
  ⟨outcome, permitted, .inl holds⟩

theorem Reaches.andThen {program : Program I ε α} {continuation : Except ε α → Program I ε β}
    (reaches : program.Reaches permits reached) :
    (program.andThen continuation).Reaches permits reached := by
  induction program with
  | ret value => cases reaches
  | raise error => cases reaches
  | await op resume ih =>
    obtain ⟨outcome, permitted, now | later⟩ := reaches
    · exact ⟨outcome, permitted, .inl now⟩
    · exact ⟨outcome, permitted, .inr (ih outcome later)⟩

theorem Reaches.bind {program : Program I ε α} {continuation : α → Program I ε β}
    (reaches : program.Reaches permits reached) :
    (program >>= continuation).Reaches permits reached := reaches.andThen

theorem Can.andThen_reaches {middle : Except ε α → Prop} {program : Program I ε α}
    {continuation : Except ε α → Program I ε β} (first : program.Can permits middle)
    (rest : ∀ outcome, middle outcome → (continuation outcome).Reaches permits reached) :
    (program.andThen continuation).Reaches permits reached := by
  induction program with
  | ret value => exact rest _ first
  | raise error => exact rest _ first
  | await op resume ih =>
    obtain ⟨outcome, permitted, later⟩ := first
    exact ⟨outcome, permitted, .inr (ih outcome later)⟩

theorem Can.bind_reaches {value : α} {program : Program I ε α}
    {continuation : α → Program I ε β} (first : program.Can permits (· = .ok value))
    (rest : (continuation value).Reaches permits reached) :
    (program >>= continuation).Reaches permits reached := by
  apply first.andThen_reaches
  intro outcome ended
  subst ended
  exact rest

theorem passed_reaches {value : α} {outcome : Except ε α} {continuation : α → Program I ε β}
    (passed : outcome = .ok value) (rest : (continuation value).Reaches permits reached) :
    (ofExcept outcome >>= continuation).Reaches permits reached := by
  subst passed
  exact rest

/-- A coroutine has a run that comes there. -/
theorem Reaches.steps {program : Program I ε α} (reaches : program.Reaches permits reached)
    (trace : List (Event I ε)) : ∃ rest after, Steps (recording permits) α (program, trace)
      (rest, after) ∧ ∃ event ∈ after, reached event.1 ∧ permits event.1 event.2 := by
  induction program generalizing trace with
  | ret value => cases reaches
  | raise error => cases reaches
  | await op resume ih =>
    obtain ⟨outcome, permitted, continues⟩ := reaches
    have step := @Step.resume I ε α _ (recording permits) op resume trace outcome permitted
    rcases continues with now | later
    · have last : (⟨op, outcome⟩ : Event I ε) ∈ trace ++ [⟨op, outcome⟩] := by simp
      exact ⟨_, _, .single step, _, last, now, permitted⟩
    · obtain ⟨rest, after, steps, comes⟩ := ih outcome later (trace ++ [⟨op, outcome⟩])
      exact ⟨rest, after, .head step steps, comes⟩

end Program

end AsyncProgram
