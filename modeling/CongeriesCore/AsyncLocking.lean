import CongeriesCore.AsyncSystem

/-! # Coroutines under locks

Each lock protects a part of the state; its holder alone changes that part, and hands it back
settled. A triple says what a coroutine makes of the part while it holds the lock. In every
state of a pool a lock is then free over a settled part, or its holder is suspended on an
operation whose need the part meets. -/

namespace AsyncProgram

/-- Locks by key, with what each protects, what is private to a thread, and what holds of the
state that no lock protects. A thread locks one key, by `acquire`. -/
structure Locking (I : Interface) (ε κ ρ ω σ : Type) where
  environment : ℕ → Environment I ε σ
  keys : ℕ → κ
  acquire : I.Op
  needs : I.Op → ρ → Prop
  holder : κ → σ → Option ℕ
  part : κ → σ → ρ
  own : ℕ → σ → ω
  shared : σ → Prop
  settled : κ → ρ → Prop

variable {I : Interface} {ε α β κ ρ ω σ : Type}

namespace Locking

variable (L : Locking I ε κ ρ ω σ)

/-- What a thread may rely on: others leave its part alone while it holds the lock, and take
no lock for it. -/
structure Relies (key : κ) (thread : ℕ) (before after : σ) : Prop where
  held : L.holder key before = some thread →
    L.holder key after = some thread ∧ L.part key after = L.part key before
  free : L.holder key before ≠ some thread → L.holder key after ≠ some thread
  own : L.own thread after = L.own thread before

theorem Relies.refl (key : κ) (thread : ℕ) (state : σ) : L.Relies key thread state state :=
  ⟨fun held => ⟨held, rfl⟩, id, rfl⟩

variable {L} {key : κ} {thread : ℕ} {before after : σ}

theorem Relies.trans {first second third : σ} (one : L.Relies key thread first second)
    (two : L.Relies key thread second third) : L.Relies key thread first third where
  held held := by
    obtain ⟨still, same⟩ := one.held held
    obtain ⟨last, equal⟩ := two.held still
    exact ⟨last, equal.trans same⟩
  free free := two.free (one.free free)
  own := two.own.trans one.own

variable (L)

/-- The invariant of a pool. -/
structure Kept (state : σ) : Prop where
  shared : L.shared state
  keyed : ∀ key thread, L.holder key state = some thread → L.keys thread = key
  settled : ∀ key, L.holder key state = none → L.settled key (L.part key state)

/-- The thread holds the lock of `key` over `part`. -/
structure Holds (key : κ) (thread : ℕ) (part : ρ) (state : σ) : Prop where
  locked : L.holder key state = some thread
  part : L.part key state = part

/-- A thread takes no step but to lock, or under its lock. -/
def contract (thread : ℕ) : Contract I σ where
  invariant := L.Kept
  rely := L.Relies (L.keys thread) thread
  guarantee before after := ∀ other, other ≠ thread → L.Relies (L.keys other) other before after
  need op state :=
    (L.holder (L.keys thread) state = some thread ∧ L.needs op (L.part (L.keys thread) state)) ∨
      (L.holder (L.keys thread) state ≠ some thread ∧ op = L.acquire)

/-- A step of the holder of `key`. -/
structure Acts (key : κ) (before after : σ) (next : ρ) : Prop where
  holders : ∀ other, L.holder other after = L.holder other before
  others : ∀ other, other ≠ key → L.part other after = L.part other before
  here : L.part key after = next
  own : ∀ thread, L.own thread after = L.own thread before
  shared : L.shared after

/-- A step that takes the lock of `key`. -/
structure Acquires (key : κ) (thread : ℕ) (before after : σ) : Prop where
  free : L.holder key before = none
  taken : L.holder key after = some thread
  holders : ∀ other, other ≠ key → L.holder other after = L.holder other before
  others : ∀ other, other ≠ key → L.part other after = L.part other before
  own : ∀ thread, L.own thread after = L.own thread before
  shared : L.shared after

/-- A step that gives the lock of `key` back. -/
structure Releases (key : κ) (thread : ℕ) (before after : σ) : Prop where
  freed : L.holder key after = none
  holders : ∀ other, other ≠ key → L.holder other after = L.holder other before
  others : ∀ other, other ≠ key → L.part other after = L.part other before
  own : ∀ other, other ≠ thread → L.own other after = L.own other before
  shared : L.shared after

variable {L} {part next : ρ}

theorem Holds.acts (held : L.Holds key thread part before) (kept : L.Kept before)
    (acts : L.Acts key before after next) : L.Kept after ∧
      (∀ other, other ≠ thread → L.Relies (L.keys other) other before after) ∧
      L.Holds key thread next after := by
  refine ⟨⟨acts.shared, ?_, ?_⟩, ?_, ⟨(acts.holders key).trans held.locked, acts.here⟩⟩
  · intro other holder locked
    exact kept.keyed other holder ((acts.holders other).symm.trans locked)
  · intro other free
    have unlocked := (acts.holders other).symm.trans free
    have distinct : other ≠ key := by
      rintro rfl
      rw [held.locked] at unlocked
      cases unlocked
    rw [acts.others other distinct]
    exact kept.settled other unlocked
  · intro other distinct
    refine ⟨fun locked => ⟨(acts.holders _).trans locked, acts.others _ ?_⟩, ?_, acts.own other⟩
    · intro same
      rw [same, held.locked] at locked
      exact distinct (Option.some.inj locked).symm
    · intro free
      rwa [acts.holders]

theorem Acquires.acts (acquires : L.Acquires key thread before after) (kept : L.Kept before)
    (own : L.keys thread = key) : L.Kept after ∧
      (∀ other, other ≠ thread → L.Relies (L.keys other) other before after) ∧
      L.Holds key thread (L.part key after) after := by
  refine ⟨⟨acquires.shared, ?_, ?_⟩, ?_, ⟨acquires.taken, rfl⟩⟩
  · intro other holder locked
    by_cases same : other = key
    · subst same
      rw [acquires.taken] at locked
      cases locked
      exact own
    · exact kept.keyed other holder ((acquires.holders other same).symm.trans locked)
  · intro other free
    by_cases same : other = key
    · subst same
      rw [acquires.taken] at free
      cases free
    · rw [acquires.others other same]
      exact kept.settled other ((acquires.holders other same).symm.trans free)
  · intro other distinct
    refine ⟨fun locked => ?_, fun free => ?_, acquires.own other⟩
    · have apart : L.keys other ≠ key := by
        intro same
        rw [same, acquires.free] at locked
        cases locked
      exact ⟨(acquires.holders _ apart).trans locked, acquires.others _ apart⟩
    · by_cases same : L.keys other = key
      · rw [same, acquires.taken]
        intro taken
        exact distinct (Option.some.inj taken).symm
      · rwa [acquires.holders _ same]

theorem Holds.releases (held : L.Holds key thread part before) (kept : L.Kept before)
    (releases : L.Releases key thread before after) (settled : L.settled key (L.part key after)) :
    L.Kept after ∧ (∀ other, other ≠ thread → L.Relies (L.keys other) other before after) := by
  refine ⟨⟨releases.shared, ?_, ?_⟩, ?_⟩
  · intro other holder locked
    by_cases same : other = key
    · subst same
      rw [releases.freed] at locked
      cases locked
    · exact kept.keyed other holder ((releases.holders other same).symm.trans locked)
  · intro other free
    by_cases same : other = key
    · rw [same]
      exact settled
    · rw [releases.others other same]
      exact kept.settled other ((releases.holders other same).symm.trans free)
  · intro other distinct
    refine ⟨fun locked => ?_, fun free => ?_, releases.own other distinct⟩
    · have apart : L.keys other ≠ key := by
        intro same
        rw [same, held.locked] at locked
        exact distinct (Option.some.inj locked).symm
      exact ⟨(releases.holders _ apart).trans locked, releases.others _ apart⟩
    · by_cases same : L.keys other = key
      · rw [same, releases.freed]
        exact nofun
      · rwa [releases.holders _ same]

section Triples

/-- What a coroutine makes of a part: `value` where it returns, `failed` where it raises. -/
def Makes (value : α → ρ → Prop) (failed : ε → ρ → Prop) : Except ε α → ρ → Prop
  | .ok result, part => value result part
  | .error error, part => failed error part

variable (L)

/-- From `part` under its lock, the thread runs `program`, which returns with `value` of the
part or raises with `failed` of it. -/
def Triple (thread : ℕ) (program : Program I ε α) (part : ρ) (value : α → ρ → Prop)
    (failed : ε → ρ → Prop) : Prop :=
  ∀ state, L.Holds (L.keys thread) thread part state →
    program.Safe (L.environment thread) (L.contract thread) (fun outcome after =>
      ∃ next, Makes value failed outcome next ∧ L.Holds (L.keys thread) thread next after) state

variable {L} {thread : ℕ} {value : α → ρ → Prop} {failed : ε → ρ → Prop}

theorem triple_ret {result : α} (done : value result part) :
    L.Triple thread (.ret result) part value failed :=
  fun _ held => ⟨part, done, held⟩

theorem triple_raise {error : ε} (done : failed error part) :
    L.Triple thread (.raise error : Program I ε α) part value failed :=
  fun _ held => ⟨part, done, held⟩

theorem Triple.andThen {later : β → ρ → Prop} {stuck ended : ε → ρ → Prop}
    {program : Program I ε α} {continuation : Except ε α → Program I ε β}
    (first : L.Triple thread program part value stuck)
    (rest : ∀ result next, value result next →
      L.Triple thread (continuation (.ok result)) next later ended)
    (handled : ∀ error next, stuck error next →
      L.Triple thread (continuation (.error error)) next later ended) :
    L.Triple thread (program.andThen continuation) part later ended := by
  intro state held
  apply (first state held).andThen
  intro outcome after reached
  obtain ⟨next, made, holds⟩ := reached
  cases outcome with
  | ok result => exact rest result next made after holds
  | error error => exact handled error next made after holds

theorem Triple.bind {later : β → ρ → Prop} {program : Program I ε α}
    {continuation : α → Program I ε β} (first : L.Triple thread program part value failed)
    (rest : ∀ result next, value result next →
      L.Triple thread (continuation result) next later failed) :
    L.Triple thread (program >>= continuation) part later failed :=
  first.andThen rest fun _ _ lost => triple_raise lost

theorem Triple.catching {stuck : ε → ρ → Prop} {program : Program I ε α}
    {handler : ε → Program I ε α} (first : L.Triple thread program part value stuck)
    (handled : ∀ error next, stuck error next →
      L.Triple thread (handler error) next value failed) :
    L.Triple thread (program.catching handler) part value failed :=
  first.andThen (fun _ _ made => triple_ret made) handled

theorem Triple.weaken {stronger : α → ρ → Prop} {harder : ε → ρ → Prop} {program : Program I ε α}
    (triple : L.Triple thread program part stronger harder)
    (values : ∀ result next, stronger result next → value result next)
    (errors : ∀ error next, harder error next → failed error next) :
    L.Triple thread program part value failed := by
  intro state held
  apply (triple state held).mono
  intro outcome after reached
  obtain ⟨next, made, holds⟩ := reached
  cases outcome with
  | ok result => exact ⟨next, values result next made, holds⟩
  | error error => exact ⟨next, errors error next made, holds⟩

/-- A triple whose failure does not depend on the error, as a condition on states. -/
theorem triple_iff {program : Program I ε α} {lost : ρ → Prop} :
    L.Triple thread program part value (fun _ next => lost next) ↔
      ∀ state, L.Holds (L.keys thread) thread part state →
        program.Safe (L.environment thread) (L.contract thread)
          (Ends (fun result after =>
            ∃ next, value result next ∧ L.Holds (L.keys thread) thread next after)
            (fun after => ∃ next, lost next ∧ L.Holds (L.keys thread) thread next after)) state := by
  constructor
  · intro triple state held
    apply (triple state held).mono
    intro outcome after reached
    cases outcome with
    | ok result => exact reached
    | error error => exact reached
  · intro safe state held
    apply (safe state held).mono
    intro outcome after reached
    cases outcome with
    | ok result => exact reached
    | error error => exact reached

/-- A check that raises, or lets the coroutine go on from the same part. -/
theorem triple_guarded {later : β → ρ → Prop} {outcome : Except ε α}
    {continuation : α → Program I ε β} (lost : ∀ error, outcome = .error error → failed error part)
    (rest : ∀ result, outcome = .ok result →
      L.Triple thread (continuation result) part later failed) :
    L.Triple thread (Program.ofExcept outcome >>= continuation) part later failed := by
  cases outcome with
  | ok result => exact rest result rfl
  | error error => exact triple_raise (lost error rfl)

/-- A loop whose body leaves the part alone. -/
theorem triple_foldM {body : β → α → Program I ε β} {lost : ρ → Prop}
    (still : ∀ accumulator item, L.Triple thread (body accumulator item) part
      (fun _ next => next = part) (fun _ next => lost next)) (items : List α) (accumulator : β) :
    L.Triple thread (Program.foldM body accumulator items) part (fun _ next => next = part)
      (fun _ next => lost next) := by
  induction items generalizing accumulator with
  | nil => exact triple_ret rfl
  | cons item items ih =>
    apply (still accumulator item).bind
    intro next later same
    subst same
    exact ih next

theorem triple_perform {op : I.Op} {value : I.Answer op → ρ → Prop} (needed : L.needs op part)
    (acts : ∀ before, L.shared before → L.Holds (L.keys thread) thread part before →
      ∀ choice, (L.environment thread).permits op choice before → ∃ next,
        L.Acts (L.keys thread) before ((L.environment thread).answer op choice before).2 next ∧
        Makes value failed ((L.environment thread).answer op choice before).1 next) :
    L.Triple thread (Program.perform op) part value failed := by
  intro state held
  apply Program.safe_perform
  intro current relied kept
  obtain ⟨locked, same⟩ := relied.held held.locked
  have here : L.Holds (L.keys thread) thread part current := ⟨locked, same.trans held.part⟩
  refine ⟨.inl ⟨locked, by rw [here.part]; exact needed⟩, fun choice permitted => ?_⟩
  obtain ⟨next, acted, made⟩ := acts current kept.shared here choice permitted
  obtain ⟨keeps, guaranteed, holds⟩ := here.acts kept acted
  exact ⟨keeps, guaranteed, next, made, holds⟩

end Triples

section Bracket

variable {thread : ℕ}

/-- Taking the lock of a settled part, which the step may change at once. -/
theorem safe_acquire {enter : ρ → ρ} {state : σ}
    (acquires : ∀ before, L.shared before → ∀ choice,
      (L.environment thread).permits L.acquire choice before →
      (∃ result, ((L.environment thread).answer L.acquire choice before).1 = .ok result) ∧
      L.Acquires (L.keys thread) thread before
        ((L.environment thread).answer L.acquire choice before).2 ∧
      L.part (L.keys thread) ((L.environment thread).answer L.acquire choice before).2 =
        enter (L.part (L.keys thread) before))
    (unlocked : L.holder (L.keys thread) state ≠ some thread) :
    (Program.perform L.acquire : Program I ε (I.Answer L.acquire)).Safe (L.environment thread)
      (L.contract thread) (Ends (fun _ after => ∃ part, L.settled (L.keys thread) part ∧
        L.Holds (L.keys thread) thread (enter part) after) (fun _ => False)) state := by
  apply Program.safe_perform
  intro current relied kept
  refine ⟨.inr ⟨relied.free unlocked, rfl⟩, fun choice permitted => ?_⟩
  obtain ⟨⟨result, answered⟩, acquired, entered⟩ := acquires current kept.shared choice permitted
  obtain ⟨keeps, guaranteed, holds⟩ := acquired.acts kept rfl
  refine ⟨keeps, guaranteed, ?_⟩
  rw [answered]
  exact ⟨_, kept.settled _ acquired.free, entered ▸ holds⟩

/-- Giving back the lock of a settled part. -/
theorem safe_release {release : I.Op} (leave : ρ → ω) {state : σ}
    (needed : L.needs release part)
    (releases : ∀ before, L.shared before → L.Holds (L.keys thread) thread part before →
      ∀ choice, (L.environment thread).permits release choice before →
      (∃ result, ((L.environment thread).answer release choice before).1 = .ok result) ∧
      L.Releases (L.keys thread) thread before
        ((L.environment thread).answer release choice before).2 ∧
      L.settled (L.keys thread)
        (L.part (L.keys thread) ((L.environment thread).answer release choice before).2) ∧
      L.own thread ((L.environment thread).answer release choice before).2 = leave part)
    (held : L.Holds (L.keys thread) thread part state) :
    (Program.perform release : Program I ε (I.Answer release)).Safe (L.environment thread)
      (L.contract thread) (Ends (fun _ after => L.holder (L.keys thread) after ≠ some thread ∧
        L.own thread after = leave part) (fun _ => False)) state := by
  apply Program.safe_perform
  intro current relied kept
  obtain ⟨locked, same⟩ := relied.held held.locked
  have here : L.Holds (L.keys thread) thread part current := ⟨locked, same.trans held.part⟩
  refine ⟨.inl ⟨locked, by rw [here.part]; exact needed⟩, fun choice permitted => ?_⟩
  obtain ⟨⟨result, answered⟩, released, resettled, left⟩ :=
    releases current kept.shared here choice permitted
  obtain ⟨keeps, guaranteed⟩ := here.releases kept released resettled
  refine ⟨keeps, guaranteed, ?_⟩
  rw [answered]
  refine ⟨?_, left⟩
  rw [released.freed]
  exact nofun

end Bracket

section Pool

variable (L)

/-- A pool in which every thread runs its program from the state it starts in. -/
def pool (initial : σ → Prop) (run : ℕ → Program I ε α) : Pool I ε α σ where
  environment := L.environment
  initial := initial
  starts thread before program after := after = before ∧ program = run thread

/-- The same pool, where a thread that starts holds no lock. -/
def guardedPool (initial : σ → Prop) (run : ℕ → Program I ε α) : Pool I ε α σ where
  environment := L.environment
  initial := initial
  starts thread before program after := (after = before ∧ program = run thread) ∧
    L.holder (L.keys thread) before ≠ some thread

/-- What a finished thread leaves: no lock, and something of its own. -/
def Finished (post : ℕ → Except ε α → ω → Prop) (thread : ℕ) (outcome : Except ε α)
    (state : σ) : Prop :=
  L.holder (L.keys thread) state ≠ some thread ∧ post thread outcome (L.own thread state)

/-- Locks are free at first, and taken only by the thread that steps. -/
structure Starts (initial : σ → Prop) : Prop where
  free : ∀ state, initial state → ∀ key, L.holder key state = none
  settled : ∀ state, initial state → ∀ key, L.settled key (L.part key state)
  shared : ∀ state, initial state → L.shared state
  taken : ∀ thread op choice before, (L.environment thread).permits op choice before →
    ∀ key other, L.holder key ((L.environment thread).answer op choice before).2 = some other →
      L.holder key before = some other ∨ other = thread

variable {L} {initial : σ → Prop} {run : ℕ → Program I ε α}
  {configuration : Configuration I ε α σ}

theorem Starts.held_lt (starts : L.Starts initial)
    (reached : (L.pool initial run).Reachable configuration) {key : κ} {thread : ℕ}
    (held : L.holder key configuration.state = some thread) :
    thread < configuration.threads.length := by
  induction reached with
  | initial start =>
    rw [starts.free _ start] at held
    cases held
  | @move before after _ moves ih =>
    cases moves with
    | start begun =>
      obtain ⟨rfl, -⟩ := begun
      have earlier := ih held
      simp only [List.length_append, List.length_singleton]
      omega
    | @step moved program rest state found step =>
      rw [List.length_set]
      cases step with
      | resume choice permitted =>
        rcases starts.taken moved _ choice _ permitted key thread held with before | rfl
        · exact ih before
        · exact (List.getElem?_eq_some_iff.mp found).1

theorem Starts.guarded (starts : L.Starts initial)
    (reached : (L.pool initial run).Reachable configuration) :
    (L.guardedPool initial run).Reachable configuration := by
  induction reached with
  | initial start => exact .initial start
  | @move before after earlier moves ih =>
    cases moves with
    | start begun =>
      refine .move ih (.start ⟨begun, fun held => ?_⟩)
      exact Nat.lt_irrefl _ (starts.held_lt earlier held)
    | step found step => exact .move ih (.step found step)

variable {post : ℕ → Except ε α → ω → Prop}

theorem Starts.meets (starts : L.Starts initial)
    (safe : ∀ thread state, L.Kept state → L.holder (L.keys thread) state ≠ some thread →
      (run thread).Safe (L.environment thread) (L.contract thread) (L.Finished post thread) state) :
    (L.guardedPool initial run).Meets L.contract L.Kept (L.Finished post) where
  shared _ := rfl
  reflexive thread state := .refl _ _ _ _
  transitive _ _ _ _ := Relies.trans
  stable thread outcome before after relied finished :=
    ⟨relied.free finished.1, by rw [relied.own]; exact finished.2⟩
  compatible thread other before after distinct guaranteed := guaranteed other (Ne.symm distinct)
  initial state start := by
    refine ⟨starts.shared state start, fun key thread held => ?_, fun key _ => ?_⟩
    · rw [starts.free state start] at held
      cases held
    · exact starts.settled state start key
  starts thread before program state kept begun := by
    obtain ⟨⟨rfl, rfl⟩, unlocked⟩ := begun
    exact ⟨kept, fun _ _ => .refl _ _ _ _, safe thread _ kept unlocked⟩

/-- Each lock is free over a settled part, or its holder is suspended on an operation whose
need the part meets. -/
theorem Starts.free_or_suspended (starts : L.Starts initial)
    (meets : (L.guardedPool initial run).Meets L.contract L.Kept (L.Finished post))
    (reached : (L.pool initial run).Reachable configuration) (key : κ) :
    (L.holder key configuration.state = none ∧
      L.settled key (L.part key configuration.state)) ∨
    ∃ thread op resume, configuration.threads[thread]? = some (.await op resume) ∧
      L.keys thread = key ∧ L.needs op (L.part key configuration.state) := by
  have guarded := starts.guarded reached
  obtain ⟨kept, safe⟩ := meets.reachable guarded
  cases found : L.holder key configuration.state with
  | none => exact .inl ⟨rfl, kept.settled key found⟩
  | some thread =>
    have own := kept.keyed key thread found
    obtain ⟨program, listed⟩ : ∃ program, configuration.threads[thread]? = some program :=
      ⟨_, List.getElem?_eq_getElem (starts.held_lt reached found)⟩
    have running := safe thread _ listed
    subst own
    cases program with
    | ret value => exact absurd found running.1
    | raise error => exact absurd found running.1
    | await op resume =>
      rcases meets.need guarded listed with ⟨-, needed⟩ | ⟨unlocked, -⟩
      · exact .inr ⟨thread, op, resume, listed, rfl, needed⟩
      · exact absurd found unlocked

/-- An operation is suspended under the lock of its key, or waits for it. -/
theorem Starts.suspended (starts : L.Starts initial)
    (meets : (L.guardedPool initial run).Meets L.contract L.Kept (L.Finished post))
    (reached : (L.pool initial run).Reachable configuration) {thread : ℕ} {op : I.Op}
    {resume : Except ε (I.Answer op) → Program I ε α}
    (found : configuration.threads[thread]? = some (.await op resume)) :
    L.needs op (L.part (L.keys thread) configuration.state) ∨ op = L.acquire := by
  rcases meets.need (starts.guarded reached) found with ⟨-, needed⟩ | ⟨-, waits⟩
  · exact .inl needed
  · exact .inr waits

end Pool

end Locking

end AsyncProgram
