import CongeriesCore.Dict
import CongeriesCore.RunStateMachine

/-! # The in-memory Run repository -/

namespace CongeriesCore

structure InMemoryRunRepository where
  runs : Dict RunId Run

namespace InMemoryRunRepository

def empty : InMemoryRunRepository := ⟨.empty⟩

def runNotFound : Raised := coreError .invalidRequest "run_not_found" "Run does not exist"

def add (repository : InMemoryRunRepository) (run : Run) :
    Except Raised Unit × InMemoryRunRepository :=
  if repository.runs.contains run.runId then
    (.error (coreError .conflict "run_already_exists" "Run identity already exists"), repository)
  else (.ok (), ⟨repository.runs.set run.runId run⟩)

def get (repository : InMemoryRunRepository) (runId : RunId) : Except Raised Run :=
  match repository.runs.get? runId with
  | some run => .ok run
  | none => .error runNotFound

def checkCompareAndSet (repository : InMemoryRunRepository) (run : Run) (expectedVersion : ℕ) :
    Except Raised Unit :=
  match repository.runs.get? run.runId with
  | none => .error runNotFound
  | some current => do
    ensure (current.stateVersion == expectedVersion) RunStateMachine.staleStateVersion
    ensure (run.stateVersion == expectedVersion + 1)
      (coreError .conflict "invalid_next_state_version"
        "committed Run must increment state version exactly once")

def compareAndSet (repository : InMemoryRunRepository) (run : Run) (expectedVersion : ℕ) :
    Except Raised Run × InMemoryRunRepository :=
  match repository.checkCompareAndSet run expectedVersion with
  | .error error => (.error error, repository)
  | .ok () => (.ok run, ⟨repository.runs.set run.runId run⟩)

theorem get_ok {repository : InMemoryRunRepository} {runId : RunId} {run : Run}
    (found : repository.get runId = .ok run) : repository.runs.get? runId = some run := by
  unfold get at found
  split at found
  · cases found; assumption
  · cases found

theorem checkCompareAndSet_ok {repository : InMemoryRunRepository} {run : Run}
    {expectedVersion : ℕ} (checked : repository.checkCompareAndSet run expectedVersion = .ok ()) :
    ∃ current, repository.runs.get? run.runId = some current ∧
      current.stateVersion = expectedVersion ∧ run.stateVersion = expectedVersion + 1 := by
  unfold checkCompareAndSet at checked
  split at checked
  · cases checked
  · rename_i current found
    obtain ⟨_, first, rest⟩ := bind_ok checked
    exact ⟨current, found, by simpa using first, by simpa using rest⟩

/-- A compare-and-set either fails and changes nothing, or replaces the expected version. -/
theorem compareAndSet_cases (repository : InMemoryRunRepository) (run : Run)
    (expectedVersion : ℕ) :
    (∃ error, repository.compareAndSet run expectedVersion = (.error error, repository)) ∨
    (∃ current, repository.runs.get? run.runId = some current ∧
      current.stateVersion = expectedVersion ∧ run.stateVersion = expectedVersion + 1 ∧
      repository.compareAndSet run expectedVersion =
        (.ok run, ⟨repository.runs.set run.runId run⟩)) := by
  unfold compareAndSet
  split
  · exact .inl ⟨_, rfl⟩
  · rename_i checked
    obtain ⟨current, found, version, next⟩ := checkCompareAndSet_ok checked
    exact .inr ⟨current, found, version, next, rfl⟩

theorem compareAndSet_stale {repository : InMemoryRunRepository} {run current : Run}
    {expectedVersion : ℕ} (found : repository.runs.get? run.runId = some current)
    (stale : current.stateVersion ≠ expectedVersion) :
    repository.compareAndSet run expectedVersion =
      (.error RunStateMachine.staleStateVersion, repository) := by
  have refused : repository.checkCompareAndSet run expectedVersion =
      .error RunStateMachine.staleStateVersion := by
    simp [checkCompareAndSet, found, ensure, stale, bind, Except.bind]
  rw [compareAndSet, refused]

theorem compareAndSet_next {repository : InMemoryRunRepository} {run current : Run}
    {expectedVersion : ℕ} (found : repository.runs.get? run.runId = some current)
    (expected : current.stateVersion = expectedVersion)
    (next : run.stateVersion = expectedVersion + 1) :
    repository.compareAndSet run expectedVersion = (.ok run, ⟨repository.runs.set run.runId run⟩) := by
  have accepted : repository.checkCompareAndSet run expectedVersion = .ok () := by
    simp [checkCompareAndSet, found, ensure, expected, next, bind, Except.bind]
  rw [compareAndSet, accepted]

end InMemoryRunRepository

end CongeriesCore
