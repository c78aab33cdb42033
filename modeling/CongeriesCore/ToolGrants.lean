import CongeriesCore.ToolGateway

/-! # The grants of a Tool

The gateway accepts a grant that leaves a Tool as it is declared, within its limits, and denies
every other. -/

namespace CongeriesCore

open GatewayDispatch

namespace ToolGateway

def constraintNames : List String := ["input_schema", "output_schema", "action", "side_effect",
  "idempotency", "timeout_ms", "max_attempts"]

/-- What a grant may repeat of the descriptor, but not change. -/
def identities (descriptor : ToolDescriptor) : List (String × String) :=
  [("input_schema", schemaIdentity descriptor.inputSchema),
    ("output_schema", schemaIdentity descriptor.outputSchema),
    ("action", actionIdentity descriptor.action), ("side_effect", descriptor.sideEffect.value),
    ("idempotency", descriptor.idempotency.value)]

/-- The constraints leave the Tool as it is declared, with this timeout and so many attempts. -/
structure Leaves (descriptor : ToolDescriptor) (constraints : List (String × JsonValue))
    (timeoutMs : Option ℕ) (maxAttempts : ℕ) : Prop where
  known : ∀ item ∈ constraints, item.1 ∈ constraintNames
  same : ∀ identity ∈ identities descriptor, ∀ given,
    Dict.lookup identity.1 constraints = some given → given = .str identity.2
  attempts : (Dict.lookup "max_attempts" constraints = none ∧
      maxAttempts = descriptor.executionPolicy.maxAttempts) ∨
    (Dict.lookup "max_attempts" constraints = some (.int maxAttempts) ∧ 1 ≤ maxAttempts ∧
      maxAttempts ≤ descriptor.executionPolicy.maxAttempts)
  timeout : (Dict.lookup "timeout_ms" constraints = none ∧
      timeoutMs = descriptor.executionPolicy.timeoutMs) ∨
    (Dict.lookup "timeout_ms" constraints = some .null ∧ timeoutMs = none ∧
      descriptor.executionPolicy.timeoutMs = none) ∨
    ∃ milliseconds : ℕ, Dict.lookup "timeout_ms" constraints = some (.int milliseconds) ∧
      timeoutMs = some milliseconds ∧ 1 ≤ milliseconds ∧
        ∀ most ∈ descriptor.executionPolicy.timeoutMs, milliseconds ≤ most

namespace Leaves

variable {descriptor : ToolDescriptor} {constraints : List (String × JsonValue)}
  {timeoutMs : Option ℕ} {maxAttempts : ℕ}

theorem positive (leaves : Leaves descriptor constraints timeoutMs maxAttempts) :
    1 ≤ maxAttempts := by
  rcases leaves.attempts with ⟨-, same⟩ | ⟨-, least, -⟩
  · rw [same]
    exact descriptor.executionPolicy.positive.2
  · exact least

theorem le (leaves : Leaves descriptor constraints timeoutMs maxAttempts) :
    maxAttempts ≤ descriptor.executionPolicy.maxAttempts := by
  rcases leaves.attempts with ⟨-, same⟩ | ⟨-, -, most⟩
  · exact same.le
  · exact most

/-- A declared timeout is kept or shortened. -/
theorem timeout_le (leaves : Leaves descriptor constraints timeoutMs maxAttempts) :
    ∀ most ∈ descriptor.executionPolicy.timeoutMs, ∃ milliseconds ∈ timeoutMs,
      milliseconds ≤ most := by
  intro most declared
  rcases leaves.timeout with ⟨-, same⟩ | ⟨-, -, none⟩ | ⟨milliseconds, -, same, -, within⟩
  · rw [same]
    exact ⟨most, declared, le_rfl⟩
  · rw [none] at declared
    cases declared
  · exact ⟨milliseconds, same, within most declared⟩

end Leaves

theorem grantedAttempts_iff {policy : ToolExecutionPolicy} {raw : Option JsonValue}
    {maxAttempts : ℕ} : grantedAttempts policy raw = .ok maxAttempts ↔
      (raw = none ∧ maxAttempts = policy.maxAttempts) ∨
        (raw = some (.int maxAttempts) ∧ 1 ≤ maxAttempts ∧ maxAttempts ≤ policy.maxAttempts) := by
  unfold grantedAttempts
  split
  · simp [eq_comm]
  · rename_i granted
    constructor
    · intro narrowed
      split at narrowed
      · cases narrowed
      · cases narrowed
        refine .inr ⟨?_, by omega, by omega⟩
        congr
        omega
    · intro given
      rcases given with ⟨missing, -⟩ | ⟨same, least, within⟩
      · cases missing
      · cases same
        rw [if_neg (by omega)]
        simp
  · rename_i other notInt
    constructor
    · intro impossible
      cases impossible
    · intro given
      rcases given with ⟨missing, -⟩ | ⟨same, -, -⟩
      · cases missing
      · exact absurd (Option.some.inj same) (notInt maxAttempts)

theorem grantedTimeout_iff {policy : ToolExecutionPolicy} {raw : Option JsonValue}
    {timeoutMs : Option ℕ} : grantedTimeout policy raw = .ok timeoutMs ↔
      (raw = none ∧ timeoutMs = policy.timeoutMs) ∨
      (raw = some .null ∧ timeoutMs = none ∧ policy.timeoutMs = none) ∨
      ∃ milliseconds : ℕ, raw = some (.int milliseconds) ∧ timeoutMs = some milliseconds ∧
        1 ≤ milliseconds ∧ ∀ most ∈ policy.timeoutMs, milliseconds ≤ most := by
  unfold grantedTimeout
  split
  · simp [eq_comm]
  · cases policy.timeoutMs with
    | none => simp [eq_comm]
    | some most => simp
  · rename_i granted
    have within : ¬policy.timeoutMs.any (fun limit : ℕ => (limit : ℤ) < granted) = true ↔
        ∀ most ∈ policy.timeoutMs, granted ≤ (most : ℤ) := by
      cases policy.timeoutMs with
      | none => simp
      | some most => simp
    constructor
    · intro narrowed
      split at narrowed
      · cases narrowed
      · split at narrowed
        · cases narrowed
        · rename_i least fits
          cases narrowed
          refine .inr (.inr ⟨granted.toNat, ?_, rfl, by omega, ?_⟩)
          · congr
            omega
          · intro most declared
            have fits := within.mp fits most declared
            omega
    · intro given
      rcases given with ⟨missing, -⟩ | ⟨null, -, -⟩ | ⟨milliseconds, same, timeout, least, fits⟩
      · cases missing
      · cases null
      · cases same
        rw [if_neg (by omega), if_neg (within.mpr fun most declared => ?_), timeout]
        · simp
        · have fits := fits most declared
          omega
  · rename_i other notNull notInt
    constructor
    · intro impossible
      cases impossible
    · intro given
      rcases given with ⟨missing, -⟩ | ⟨null, -, -⟩ | ⟨milliseconds, same, -⟩
      · cases missing
      · exact absurd (Option.some.inj null) notNull
      · exact absurd (Option.some.inj same) (notInt milliseconds)

/-- A grant is accepted if and only if it leaves the Tool as it is, within its limits. -/
theorem validateGrant_iff {descriptor : ToolDescriptor} {constraints : List (String × JsonValue)}
    {timeoutMs : Option ℕ} {maxAttempts : ℕ} :
    validateGrant descriptor constraints = .ok (timeoutMs, maxAttempts) ↔
      Leaves descriptor constraints timeoutMs maxAttempts := by
  constructor
  · intro validated
    obtain ⟨_, allowed, validated⟩ := bind_ok validated
    obtain ⟨_, input, validated⟩ := bind_ok validated
    obtain ⟨_, output, validated⟩ := bind_ok validated
    obtain ⟨_, action, validated⟩ := bind_ok validated
    obtain ⟨_, sideEffect, validated⟩ := bind_ok validated
    obtain ⟨_, idempotency, validated⟩ := bind_ok validated
    obtain ⟨attempts, granted, validated⟩ := bind_ok validated
    obtain ⟨timeout, limited, returned⟩ := bind_ok validated
    cases returned
    refine ⟨unknownConstraint_iff.mp (ensure_eq_ok.mp allowed), ?_, grantedAttempts_iff.mp granted,
      grantedTimeout_iff.mp limited⟩
    intro identity listed
    simp only [identities, List.mem_cons, List.not_mem_nil, or_false] at listed
    rcases listed with rfl | rfl | rfl | rfl | rfl
    · exact leavesText_iff.mp (ensure_eq_ok.mp input)
    · exact leavesText_iff.mp (ensure_eq_ok.mp output)
    · exact leavesText_iff.mp (ensure_eq_ok.mp action)
    · exact leavesText_iff.mp (ensure_eq_ok.mp sideEffect)
    · exact leavesText_iff.mp (ensure_eq_ok.mp idempotency)
  · intro leaves
    have allowed := unknownConstraint_iff.mpr leaves.known
    have texts : ∀ key value, (key, value) ∈ identities descriptor →
        leavesText constraints key value = true := by
      intro key value listed
      exact leavesText_iff.mpr (leaves.same _ listed)
    unfold constraintNames at allowed
    unfold validateGrant
    rw [ensure_ok allowed, ensure_ok (texts _ _ (by simp [identities])),
      ensure_ok (texts _ _ (by simp [identities])), ensure_ok (texts _ _ (by simp [identities])),
      ensure_ok (texts _ _ (by simp [identities])), ensure_ok (texts _ _ (by simp [identities])),
      grantedAttempts_iff.mpr leaves.attempts, grantedTimeout_iff.mpr leaves.timeout]
    rfl

theorem validateGrant_invalid {descriptor : ToolDescriptor}
    {constraints : List (String × JsonValue)} :
    Within InvalidGrant (validateGrant descriptor constraints) := by
  apply within_bind within_invalid
  intro _ _
  apply within_bind within_invalid
  intro _ _
  apply within_bind within_invalid
  intro _ _
  apply within_bind within_invalid
  intro _ _
  apply within_bind within_invalid
  intro _ _
  apply within_bind within_invalid
  intro _ _
  apply within_bind
  · unfold grantedAttempts
    split
    · exact within_ok
    · split
      · exact within_error (invalidGrant _ _)
      · exact within_ok
    · exact within_error (invalidGrant _ _)
  · intro _ _
    apply within_bind
    · unfold grantedTimeout
      split
      · exact within_ok
      · split
        · exact within_error (invalidGrant _ _)
        · exact within_ok
      · split
        · exact within_error (invalidGrant _ _)
        · split
          · exact within_error (invalidGrant _ _)
          · exact within_ok
      · exact within_error (invalidGrant _ _)
    · intro _ _
      exact within_ok

/-- Two grants that leave attempts are one. -/
theorem Leaves.unique {descriptor : ToolDescriptor} {constraints : List (String × JsonValue)}
    {timeoutMs timeoutMs' : Option ℕ} {maxAttempts maxAttempts' : ℕ} (leaves : Leaves descriptor constraints timeoutMs maxAttempts)
    (leaves' : Leaves descriptor constraints timeoutMs' maxAttempts') :
    timeoutMs = timeoutMs' ∧ maxAttempts = maxAttempts' := by
  have same := (validateGrant_iff.mpr leaves).symm.trans (validateGrant_iff.mpr leaves')
  cases same
  exact ⟨rfl, rfl⟩

end ToolGateway

end CongeriesCore
