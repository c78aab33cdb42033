import CongeriesCore.SampleParameters

/-! # Narrowing along a chain of child calls

A derived context is checked against the context it is derived from only, and there by the
key of its scope: the ancestors of the scope are whatever the caller supplies. -/

namespace CongeriesCore

/-- One `narrow` or `for_child_run` with the arguments of its caller. -/
inductive Derivation
  | narrow (scope : Option ScopeRef) (deadline : Option Deadline)
      (idempotencyKey : Option IdempotencyKey)
  | forChildRun (childRunId : RunId) (scope : Option ScopeRef) (deadline : Option Deadline)
      (idempotencyKey : Option IdempotencyKey)

def Derivation.scope : Derivation → Option ScopeRef
  | .narrow scope _ _ => scope
  | .forChildRun _ scope _ _ => scope

/-- The scopes between a scope and the root of its chain are scopes. -/
def ScopeRef.ancestor (scope : ScopeRef) (key : ScopeKey) (rest : List ScopeKey) (above : List ScopeKey)
    (chain : scope.ancestors = above ++ key :: rest) : ScopeRef where
  key := key
  ancestors := rest
  checked other carried := scope.checked other (by simp_all)
  shallow := by
    have bounded := scope.shallow
    simp only [chain, List.length_append, List.length_cons] at bounded
    omega

namespace RuntimeCallContext

def derive (context : RuntimeCallContext) : Derivation → Except Raised RuntimeCallContext
  | .narrow scope deadline idempotencyKey => context.narrow scope deadline idempotencyKey
  | .forChildRun childRunId scope deadline idempotencyKey =>
    context.forChildRun childRunId scope deadline idempotencyKey

def deriveAll : RuntimeCallContext → List Derivation → Except Raised RuntimeCallContext
  | context, [] => .ok context
  | context, derivation :: derivations => do
    let derived ← context.derive derivation
    derived.deriveAll derivations

/-- What a chain of child calls has to preserve of the context it started from. -/
def Within (inner outer : RuntimeCallContext) : Prop :=
  inner.scope.isEqualOrDescendantOf outer.scope = true ∧
    ∀ own, outer.deadline = some own →
      ∃ deadline, inner.deadline = some deadline ∧ deadline.at_ ≤ own.at_

theorem narrow_ok {context derived : RuntimeCallContext} {scope : Option ScopeRef}
    {deadline : Option Deadline} {idempotencyKey : Option IdempotencyKey}
    (accepted : context.narrow scope deadline idempotencyKey = .ok derived) :
    derived.scope = scope.getD context.scope ∧ derived.Within context := by
  unfold narrow at accepted
  obtain ⟨_, narrower, rest⟩ := bind_ok accepted
  have inside := ScopeRef.requireNarrowerThan_eq_ok.mp narrower
  dsimp only at rest
  split at rest
  · rename_i own effective given supplied
    split at rest
    · cases rest
    · rename_i notLater
      obtain rfl := Except.ok.inj rest
      refine ⟨rfl, inside, fun bound bounded => ⟨effective, supplied, ?_⟩⟩
      obtain rfl := Option.some.inj (given.symm.trans bounded)
      exact Nat.le_of_not_lt notLater
  · rename_i unbounded
    obtain rfl := Except.ok.inj rest
    refine ⟨rfl, inside, fun bound bounded => ?_⟩
    cases deadline with
    | none => exact absurd bounded (unbounded bound bound · (by simpa using bounded))
    | some earlier => exact absurd bounded (unbounded bound earlier · rfl)

theorem derive_ok {context derived : RuntimeCallContext} {derivation : Derivation}
    (accepted : context.derive derivation = .ok derived) :
    derived.scope = derivation.scope.getD context.scope ∧ derived.Within context := by
  cases derivation with
  | narrow scope deadline idempotencyKey => exact narrow_ok accepted
  | forChildRun childRunId scope deadline idempotencyKey =>
    obtain ⟨narrowed, narrows, built⟩ := bind_ok accepted
    obtain rfl := Except.ok.inj built
    have inherited := narrow_ok narrows
    exact ⟨inherited.1, inherited.2⟩

theorem Within.refl (context : RuntimeCallContext) : context.Within context :=
  ⟨ScopeRef.isEqualOrDescendantOf_of_key rfl, fun own given => ⟨own, given, DateTime.le_refl _⟩⟩

/-- The scope of `derivation` carries every ancestor of `current`, the scope it is to narrow. -/
def KeepsAncestors (current : ScopeRef) (derivation : Derivation) : Prop :=
  ∀ scope, derivation.scope = some scope → ∀ key ∈ current.ancestors, key ∈ scope.chain

/-- Every derivation of the sequence keeps the ancestors of the scope it finds. -/
def AncestorsKept : ScopeRef → List Derivation → Prop
  | _, [] => True
  | current, derivation :: derivations =>
    KeepsAncestors current derivation ∧
      AncestorsKept (derivation.scope.getD current) derivations

/-- A derivation that keeps the ancestors keeps the whole chain of its context. -/
theorem chain_kept {context derived : RuntimeCallContext} {derivation : Derivation}
    (accepted : context.derive derivation = .ok derived)
    (kept : KeepsAncestors context.scope derivation) :
    ∀ key ∈ context.scope.chain, key ∈ derived.scope.chain := by
  intro key carried
  obtain ⟨effective, inside, -⟩ := derive_ok accepted
  rcases List.mem_cons.mp carried with rfl | ancestor
  · exact List.contains_iff_mem.mp inside
  · cases supplied : derivation.scope with
    | none =>
      rw [effective, supplied]
      exact carried
    | some scope =>
      rw [effective, supplied]
      exact kept scope supplied key ancestor

theorem deriveAll_chain {initial final : RuntimeCallContext} {derivations : List Derivation}
    (kept : AncestorsKept initial.scope derivations)
    (derived : initial.deriveAll derivations = .ok final) :
    ∀ key ∈ initial.scope.chain, key ∈ final.scope.chain := by
  induction derivations generalizing initial with
  | nil =>
    obtain rfl := Except.ok.inj derived
    exact fun _ carried => carried
  | cons derivation derivations ih =>
    obtain ⟨next, accepted, rest⟩ := bind_ok derived
    have effective := (derive_ok accepted).1
    have later := ih (effective ▸ kept.2) rest
    exact fun key carried => later key (chain_kept accepted kept.1 key carried)

theorem deriveAll_deadline {initial final : RuntimeCallContext} {derivations : List Derivation}
    (derived : initial.deriveAll derivations = .ok final) {own : Deadline}
    (given : initial.deadline = some own) :
    ∃ deadline, final.deadline = some deadline ∧ deadline.at_ ≤ own.at_ := by
  induction derivations generalizing initial own with
  | nil =>
    obtain rfl := Except.ok.inj derived
    exact ⟨own, given, DateTime.le_refl _⟩
  | cons derivation derivations ih =>
    obtain ⟨next, accepted, rest⟩ := bind_ok derived
    obtain ⟨nearer, found, earlier⟩ := (derive_ok accepted).2.2 own given
    obtain ⟨last, reached, earliest⟩ := ih rest found
    exact ⟨last, reached, Nat.le_trans earliest earlier⟩

/-- A context one level up: the same call in a scope that contains its own. -/
theorem narrow_from_ancestor (context : RuntimeCallContext) {outer : ScopeRef}
    (contained : outer.key ∈ context.scope.chain) :
    ({ context with scope := outer } : RuntimeCallContext).narrow (some context.scope) =
      .ok context := by
  have inside : context.scope.requireNarrowerThan outer = .ok () :=
    ScopeRef.requireNarrowerThan_eq_ok.mpr (List.contains_iff_mem.mpr contained)
  obtain ⟨_, _, _, _, _, scope, deadline, _, _, _⟩ := context
  simp only at inside
  cases deadline with
  | none => simp [narrow, inside, bind, Except.bind, pure, Except.pure]
  | some own =>
    have notLater : ¬ own.at_ < own.at_ := Nat.lt_irrefl _
    simp [narrow, inside, bind, Except.bind, pure, Except.pure, notLater]

/-- A derivation that drops an ancestor leaves the scope of some context it descends from. -/
theorem escapes_of_dropped {context derived : RuntimeCallContext} {derivation : Derivation}
    (accepted : context.derive derivation = .ok derived)
    (dropped : ¬ KeepsAncestors context.scope derivation) :
    ∃ initial derivations, AncestorsKept initial.scope derivations ∧
      initial.deriveAll derivations = .ok context ∧ ¬ derived.Within initial := by
  simp only [KeepsAncestors, not_forall] at dropped
  obtain ⟨scope, supplied, key, above, missing⟩ := dropped
  obtain ⟨lower, rest, chain⟩ := List.append_of_mem above
  let outer := context.scope.ancestor key rest lower chain
  have contained : outer.key ∈ context.scope.chain := List.mem_cons_of_mem _ above
  refine ⟨{ context with scope := outer }, [.narrow (some context.scope) none none], ?_, ?_, ?_⟩
  · refine ⟨fun inner given other carried => ?_, trivial⟩
    obtain rfl := Option.some.inj given
    have upper : other ∈ rest := carried
    simp [ScopeRef.chain, chain, upper]
  · change (RuntimeCallContext.narrow _ _ _ _ >>= _) = _
    rw [narrow_from_ancestor context contained]
    rfl
  · intro inside
    have effective := (derive_ok accepted).1
    rw [supplied, Option.getD_some] at effective
    have carried := List.contains_iff_mem.mp inside.1
    exact missing (effective ▸ carried)

/-- A chain of child calls stays within the scope and the deadline it started from if no
call drops an ancestor, and each dropped ancestor is one that some chain escapes. -/
theorem deriveAll_within (context : RuntimeCallContext) :
    (∀ (final : RuntimeCallContext) (derivations : List Derivation),
      context.deriveAll derivations = .ok final →
      (AncestorsKept context.scope derivations → final.Within context) ∧
      ∀ own, context.deadline = some own →
        ∃ deadline, final.deadline = some deadline ∧ deadline.at_ ≤ own.at_) ∧
    (∀ (derived : RuntimeCallContext) (derivation : Derivation),
      context.derive derivation = .ok derived →
      ((∀ initial derivations, AncestorsKept initial.scope derivations →
        initial.deriveAll derivations = .ok context → derived.Within initial) ↔
      KeepsAncestors context.scope derivation)) := by
  have run : ∀ (initial final : RuntimeCallContext) (derivations : List Derivation),
      initial.deriveAll derivations = .ok final →
      AncestorsKept initial.scope derivations → final.Within initial := by
    intro initial final derivations derived kept
    have whole := deriveAll_chain kept derived initial.scope.key List.mem_cons_self
    exact ⟨List.contains_iff_mem.mpr whole, fun own => deriveAll_deadline derived⟩
  refine ⟨fun final derivations derived =>
    ⟨run context final derivations derived, fun own => deriveAll_deadline derived⟩, ?_⟩
  intro derived derivation accepted
  constructor
  · intro confined
    by_contra dropped
    obtain ⟨initial, derivations, kept, reached, escaped⟩ := escapes_of_dropped accepted dropped
    exact escaped (confined initial derivations kept reached)
  · intro kept initial derivations earlier reached
    have before := deriveAll_chain earlier reached initial.scope.key List.mem_cons_self
    have inside := chain_kept accepted kept initial.scope.key before
    refine ⟨List.contains_iff_mem.mpr inside, fun own given => ?_⟩
    obtain ⟨nearer, found, earlier⟩ := deriveAll_deadline reached given
    obtain ⟨last, bounded, earliest⟩ := (derive_ok accepted).2.2 nearer found
    exact ⟨last, bounded, Nat.le_trans earliest earlier⟩

end RuntimeCallContext

open SampleParameters

def sampleProject : ScopeRef :=
  ⟨⟨"app", "project", "project-1"⟩, [sampleScope.key], by decide, by decide⟩

/-- The key of `sampleProject`, without the workspace above it. -/
def sampleOrphanProject : ScopeRef := ⟨⟨"app", "project", "project-1"⟩, [], by decide, rootless⟩

/-- The first call narrows a workspace to one of its projects; the second call names the same
project and leaves the workspace out. -/
theorem deriveAll_escapes :
    ¬ ∀ (initial final : RuntimeCallContext) (derivations : List Derivation),
      initial.deriveAll derivations = .ok final → final.Within initial := by
  intro confined
  let derivations : List Derivation :=
    [.narrow (some sampleProject) none none, .narrow (some sampleOrphanProject) none none]
  have inside := confined sampleContext { sampleContext with scope := sampleOrphanProject }
    derivations rfl
  exact absurd inside.1 (by decide)

end CongeriesCore
