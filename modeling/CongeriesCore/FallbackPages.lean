import CongeriesCore.AuthorizedDispatch
import CongeriesCore.CheckpointPages
import CongeriesCore.FallbackListing

/-! # The pages of a fallback

Over the in-memory store a fallback lists the whole history of a run where no grant narrows its
pages, and otherwise only what fits on its first page. -/

namespace CongeriesCore

open AsyncProgram Program

section

/-- A cursor of another limit is refused. -/
theorem InMemoryCheckpointStore.list_drift [Sha256] {store : InMemoryCheckpointStore}
    {query : CheckpointQuery} {cursor : CheckpointCursor} (context : RuntimeCallContext)
    (continued : query.cursor = some cursor) (drift : cursor.limit ≠ query.limit) :
    ∃ error, store.list query context = .error error := by
  cases listed : store.list query context with
  | error error => exact ⟨error, rfl⟩
  | ok page =>
    obtain ⟨_, _, rest⟩ := bind_ok listed
    obtain ⟨_, _, rest⟩ := bind_ok rest
    obtain ⟨_, fits, _⟩ := bind_ok rest
    unfold checkCursor at fits
    rw [continued] at fits
    have fits := ensure_eq_ok.mp fits
    simp only [Bool.and_eq_true, beq_iff_eq] at fits
    exact absurd fits.1.2 drift

namespace RecoveryCoordinator

variable [Sha256]

/-- Everything passes around the store; the policy decides page by page. -/
def storeOracle (store : InMemoryCheckpointStore) (decisions : ℕ → PolicyDecision)
    (time : DateTime) : CoreOracle := fun trace op => match op with
  | .cancelled _ => .ok false
  | .now => .ok time
  | .authorize _ => .ok (decisions (listings trace).length)
  | .authorizationDenied _ _ => .ok ()
  | .crossScopeGranted _ _ => .ok ()
  | .checkpointList query context => store.list query context
  | _ => .error .cancelledError

section Turns

variable {coordinator : RecoveryCoordinator} {request : RecoveryRequest} {run : WorkflowRun}
  {context : RuntimeCallContext} {store : InMemoryCheckpointStore} {decisions : ℕ → PolicyDecision}
  {time : DateTime} {trace : List CoreEvent} {grant : Grant} {effective : CheckpointQuery}

theorem calm_storeOracle : Calm (storeOracle store decisions time) time where
  cancelled _ _ := rfl
  now _ := rfl
  denied _ _ _ := rfl
  granted _ _ _ := rfl

variable (store) in
/-- A turn of the loop that comes to the store. -/
theorem turn_permitted {query : CheckpointQuery} (active : context.ActiveAt time)
    (permits : ListPermits coordinator.gateway query context time
      (decisions (listings trace).length) grant effective) :
    ∃ after outcome,
      (coordinator.gateway.list query context).answered (storeOracle store decisions time) trace =
        (outcome, after) ∧
      (listings after).length = (listings trace).length + 1 ∧
      Passed effective (store.list effective { context with scope := grant.effectiveScope })
        outcome := by
  have decides : ∀ after, listings after = listings trace →
      storeOracle store decisions time after (.authorize (listRequest query context)) =
        .ok (decisions (listings trace).length) := by
    intro after same
    simp only [storeOracle, same]
  rcases answered_list coordinator.gateway calm_storeOracle active decides with
    ⟨other, also, permitted, before, after, outcome, -, ran, added, passed⟩ | ⟨refused, -⟩
  · obtain ⟨rfl, rfl⟩ := permits.unique permitted
    refine ⟨after, outcome, ran, ?_, passed⟩
    rw [added, List.length_append]
    rfl
  · exact absurd permits (refused _ _)

/-- A turn that the gateway ends before. -/
theorem turn_refused {query : CheckpointQuery}
    (refused : ∀ grant effective, context.ActiveAt time → ¬ ListPermits coordinator.gateway query
      context time (decisions (listings trace).length) grant effective) :
    Refuses (storeOracle store decisions time) (coordinator.gateway.list query context) trace := by
  by_cases active : context.ActiveAt time
  · have decides : ∀ after, listings after = listings trace →
        storeOracle store decisions time after (.authorize (listRequest query context)) =
          .ok (decisions (listings trace).length) := by
      intro after same
      simp only [storeOracle, same]
    rcases answered_list coordinator.gateway calm_storeOracle active decides with
      ⟨other, also, permitted, -⟩ | ⟨-, refuses⟩
    · exact absurd permitted (refused other also active)
    · exact refuses
  · exact refuses_list coordinator.gateway calm_storeOracle active

omit [Sha256] in
/-- A page behind a cursor is granted just where a page of the full limit is. -/
theorem permits_after (cursor : CheckpointCursor) {decision : PolicyDecision} :
    ListPermits coordinator.gateway (fallbackQuery request run (some cursor)) context time decision
        grant effective ↔
      effective = fallbackQuery request run (some cursor) ∧
        ListPermits coordinator.gateway (fallbackQuery request run none) context time decision grant
          (fallbackQuery request run none) := by
  constructor
  · intro permits
    obtain ⟨limit, bounded, constrains, same⟩ := constrainList_iff.mp permits.constrained
    have full : limit = 1000 := constrains.kept.resolve_left nofun
    subst full
    refine ⟨same, permits.narrower, permits.admits, ?_, permits.provided⟩
    apply constrainList_iff.mpr
    refine ⟨1000, bounded, ⟨constrains.complete, constrains.owned, constrains.versioned,
      constrains.limited, constrains.between, .inl rfl⟩, rfl⟩
  · rintro ⟨rfl, permits⟩
    obtain ⟨limit, bounded, constrains, same⟩ := constrainList_iff.mp permits.constrained
    have full : limit.toNat = 1000 := congrArg CheckpointQuery.limit same.symm
    have full : limit = 1000 := by omega
    subst full
    refine ⟨permits.narrower, permits.admits, ?_, permits.provided⟩
    apply constrainList_iff.mpr
    refine ⟨1000, bounded, ⟨constrains.complete, constrains.owned, constrains.versioned,
      constrains.limited, constrains.between, .inr rfl⟩, rfl⟩

/-- The policy grants a page of the full limit. -/
def GrantsPage (coordinator : RecoveryCoordinator) (request : RecoveryRequest)
    (run : WorkflowRun) (context : RuntimeCallContext) (decisions : ℕ → PolicyDecision)
    (time : DateTime) (page : ℕ) : Prop :=
  ∃ grant, ListPermits coordinator.gateway (fallbackQuery request run none) context time
    (decisions page) grant (fallbackQuery request run none)

/-- A query that comes to the store fits it where its cursor does. -/
theorem fits_of_permits {query : CheckpointQuery} {decision : PolicyDecision}
    (provided : coordinator.gateway.provider = store.providerId)
    (permits : ListPermits coordinator.gateway query context time decision grant effective)
    (continues : store.checkCursor effective = .ok ()) :
    store.Fits effective { context with scope := grant.effectiveScope } := by
  obtain ⟨limit, bounded, constrains, rfl⟩ := constrainList_iff.mp permits.constrained
  have matching := AuthorizedDispatcher.validateGrant_ok permits.admits.valid
  refine ⟨permits.provided.symm.trans provided, ?_, continues⟩
  apply ScopeRef.requireNarrowerThan_eq_ok.mpr
  exact ScopeRef.isEqualOrDescendantOf_of_key matching.effective.symm

omit [Sha256] in
theorem updateByRef_append (byRef : Dict CheckpointRef Checkpoint) (first rest : List Checkpoint) :
    updateByRef (updateByRef byRef first) rest = updateByRef byRef (first ++ rest) :=
  List.foldl_append.symm

/-- A page that the store may give is the whole of the listing, or its first part. -/
theorem turn_page (matched : store.Matched) (active : context.ActiveAt time)
    (provided : coordinator.gateway.provider = store.providerId) {query : CheckpointQuery}
    (permits : ListPermits coordinator.gateway query context time
      (decisions (listings trace).length) grant effective)
    (continues : store.checkCursor effective = .ok ()) :
    ∃ after page, (coordinator.gateway.list query context).answered
        (storeOracle store decisions time) trace = (.ok page, after) ∧
      (listings after).length = (listings trace).length + 1 ∧
      (((store.selected effective).length ≤ effective.limit ∧
          page = ⟨store.selected effective, none⟩) ∨
        ∃ last, effective.limit < (store.selected effective).length ∧
          ((store.selected effective).take effective.limit).getLast? = some last ∧
          page = ⟨(store.selected effective).take effective.limit,
            some (store.cursorAfter effective last)⟩) := by
  have fits := fits_of_permits provided permits continues
  obtain ⟨after, outcome, ran, longer, passed⟩ := turn_permitted store active permits
  rcases InMemoryCheckpointStore.list_of_fits fits with
    ⟨short, listed⟩ | ⟨last, more, ends, listed⟩
  · have valid : CheckpointGateway.validatePage ⟨store.selected effective, none⟩ effective =
        .ok () :=
      InMemoryCheckpointStore.validate_page matched (List.prefix_refl _) short fits.provider nofun
    rw [listed] at passed
    have passed : outcome = (CheckpointGateway.validatePage _ effective).map fun _ => _ := passed
    rw [valid] at passed
    rw [passed] at ran
    exact ⟨after, _, ran, longer, .inl ⟨short, rfl⟩⟩
  · have within : ((store.selected effective).take effective.limit).length ≤ effective.limit := by
      rw [List.length_take]
      exact Nat.min_le_left _ _
    have valid : CheckpointGateway.validatePage ⟨(store.selected effective).take effective.limit,
        some (store.cursorAfter effective last)⟩ effective = .ok () := by
      apply InMemoryCheckpointStore.validate_page matched (List.take_prefix _ _) within fits.provider
      intro next same
      cases same
      exact ⟨last, rfl⟩
    rw [listed] at passed
    have passed : outcome = (CheckpointGateway.validatePage _ effective).map fun _ => _ := passed
    rw [valid] at passed
    rw [passed] at ran
    exact ⟨after, _, ran, longer, .inr ⟨last, more, ends, rfl⟩⟩

/-- The listing ends with an exception after it has come to the store. -/
def Fails (coordinator : RecoveryCoordinator) (store : InMemoryCheckpointStore)
    (request : RecoveryRequest) (run : WorkflowRun) (context : RuntimeCallContext)
    (decisions : ℕ → PolicyDecision) (time : DateTime) (cursor : Option CheckpointCursor)
    (byRef : Dict CheckpointRef Checkpoint) (trace : List CoreEvent) (fuel : ℕ) : Prop :=
  ∃ error after, (coordinator.listAll request run context fuel cursor byRef).answered
    (storeOracle store decisions time) trace = (.error error, after) ∧ listings after ≠ []

/-- A page that is not granted ends the listing. -/
theorem fails_ungranted {cursor : CheckpointCursor} {byRef : Dict CheckpointRef Checkpoint}
    (begun : listings trace ≠ []) (ungranted : ¬ GrantsPage coordinator request run context
      decisions time (listings trace).length) (fuel : ℕ) :
    Fails coordinator store request run context decisions time (some cursor) byRef trace fuel := by
  cases fuel with
  | zero => exact ⟨_, trace, rfl, begun⟩
  | succ fuel =>
    have refused : ∀ grant effective, context.ActiveAt time → ¬ ListPermits coordinator.gateway
        (fallbackQuery request run (some cursor)) context time
        (decisions (listings trace).length) grant effective := by
      intro grant effective _ permitted
      exact ungranted ⟨grant, ((permits_after cursor).mp permitted).2⟩
    obtain ⟨error, after, ran, same⟩ : Refuses (storeOracle store decisions time)
        (coordinator.gateway.list (fallbackQuery request run (some cursor)) context) trace :=
      turn_refused refused
    refine ⟨error, after, ?_, same ▸ begun⟩
    rw [listAll, answered_bind_error ran]

omit [Sha256] in
/-- Counting the pages from the second one on. -/
theorem page_shift {count next : ℕ} :
    (next * 1000 < count - 1000 → (next + 1) * 1000 < count) ∧
      (next ≠ 0 → next * 1000 < count → (next - 1) * 1000 < count - 1000) := by
  omega

/-- The listing goes on from a cursor until it has everything, and the policy must grant each
page of it. -/
theorem listAll_after (matched : store.Matched) (active : context.ActiveAt time)
    (provided : coordinator.gateway.provider = store.providerId) {count page : ℕ}
    {cursor : CheckpointCursor} (byRef : Dict CheckpointRef Checkpoint) (trace : List CoreEvent)
    (counted : (listings trace).length = page) (later : page ≠ 0)
    (continues : store.checkCursor (fallbackQuery request run (some cursor)) = .ok ())
    (measured : (store.selected (fallbackQuery request run (some cursor))).length = count)
    (left : 0 < count) (fuel : ℕ) (enough : count < fuel) :
    ((∀ next, next * 1000 < count →
        GrantsPage coordinator request run context decisions time (page + next)) →
      ∃ after, (coordinator.listAll request run context fuel (some cursor) byRef).answered
          (storeOracle store decisions time) trace =
        (.ok (updateByRef byRef (store.selected (fallbackQuery request run (some cursor)))), after)) ∧
    ((∃ next, next * 1000 < count ∧
        ¬ GrantsPage coordinator request run context decisions time (page + next)) →
      Fails coordinator store request run context decisions time (some cursor) byRef trace fuel) := by
  induction count using Nat.strong_induction_on generalizing page cursor byRef trace fuel with
  | _ count ih =>
    obtain ⟨fuel, rfl⟩ := Nat.exists_eq_succ_of_ne_zero (by omega : fuel ≠ 0)
    subst counted
    by_cases granted : GrantsPage coordinator request run context decisions time
        (listings trace).length
    · obtain ⟨grant, permits⟩ := granted
      have permitted := (permits_after cursor).mpr ⟨rfl, permits⟩
      obtain ⟨after, result, ran, longer, ⟨short, rfl⟩ | ⟨last, more, ends, rfl⟩⟩ :=
        turn_page matched active provided permitted continues
      · have ended : (coordinator.listAll request run context (fuel + 1) (some cursor)
            byRef).answered (storeOracle store decisions time) trace =
            (.ok (updateByRef byRef
              (store.selected (fallbackQuery request run (some cursor)))), after) := by
          rw [listAll, answered_bind ran]
          rfl
        have single : count ≤ 1000 := measured ▸ short
        refine ⟨fun _ => ⟨after, ended⟩, ?_⟩
        rintro ⟨next, within, ungranted⟩
        have first : next = 0 := by omega
        subst first
        exact absurd ⟨grant, permits⟩ ungranted
      · have full : 1000 < count := measured ▸ more
        have smaller : count - 1000 < count := by omega
        have positive : 0 < count - 1000 := by omega
        have fueled : count - 1000 < fuel := by omega
        let query := fallbackQuery request run (some cursor)
        let next := store.cursorAfter query last
        let updated := updateByRef byRef ((store.selected query).take 1000)
        have goesOn : (coordinator.listAll request run context (fuel + 1) (some cursor)
            byRef).answered (storeOracle store decisions time) trace =
            (coordinator.listAll request run context fuel (some next) updated).answered
              (storeOracle store decisions time) after := by
          rw [listAll, answered_bind ran]
          rfl
        have fits := fits_of_permits provided permitted continues
        have remaining : store.selected (fallbackQuery request run (some next)) =
            (store.selected query).drop 1000 :=
          InMemoryCheckpointStore.selected_after matched ends
        have whole : updateByRef updated (store.selected (fallbackQuery request run (some next))) =
            updateByRef byRef (store.selected query) := by
          rw [remaining, updateByRef_append, List.take_append_drop]
        have fewer : (store.selected (fallbackQuery request run (some next))).length =
            count - 1000 := by
          rw [remaining, List.length_drop, measured]
        obtain ⟨succeeds, fails⟩ := ih (count - 1000) smaller updated after longer
          (Nat.succ_ne_zero _) (InMemoryCheckpointStore.fits_after fits last).cursor fewer positive
          fuel fueled
        rw [whole] at succeeds
        refine ⟨fun granted => ?_, ?_⟩
        · rw [goesOn]
          apply succeeds
          intro following within
          have shifted := granted (following + 1) (page_shift.1 within)
          rw [Nat.add_assoc, Nat.add_comm 1]
          exact shifted
        · rintro ⟨following, within, ungranted⟩
          have nonzero : following ≠ 0 := by
            intro zero
            subst zero
            exact ungranted ⟨grant, permits⟩
          have same : (listings trace).length + 1 + (following - 1) =
              (listings trace).length + following := by
            rw [Nat.add_assoc, Nat.add_sub_cancel' (Nat.one_le_iff_ne_zero.mpr nonzero)]
          rw [← same] at ungranted
          obtain ⟨error, final, failed, begun⟩ :=
            fails ⟨following - 1, page_shift.2 nonzero within, ungranted⟩
          exact ⟨error, final, goesOn.trans failed, begun⟩
    · constructor
      · intro all
        exact absurd (all 0 (by simpa using left)) granted
      · intro _
        apply fails_ungranted _ granted
        intro empty
        rw [empty] at later
        exact later rfl

/-- What follows a full first page. -/
theorem listAll_rest (decisions : ℕ → PolicyDecision) (matched : store.Matched) (active : context.ActiveAt time)
    (provided : coordinator.gateway.provider = store.providerId) {count : ℕ}
    {cursor : CheckpointCursor} (byRef : Dict CheckpointRef Checkpoint) (trace : List CoreEvent)
    (counted : (listings trace).length = 1)
    (continues : store.checkCursor (fallbackQuery request run (some cursor)) = .ok ())
    (measured : (store.selected (fallbackQuery request run (some cursor))).length = count - 1000)
    (more : 1000 < count) (fuel : ℕ) (enough : count < fuel + 1) :
    ((∀ page, page ≠ 0 → page * 1000 < count →
        GrantsPage coordinator request run context decisions time page) →
      ∃ after, (coordinator.listAll request run context fuel (some cursor) byRef).answered
          (storeOracle store decisions time) trace =
        (.ok (updateByRef byRef (store.selected (fallbackQuery request run (some cursor)))), after)) ∧
    (¬ (∀ page, page ≠ 0 → page * 1000 < count →
        GrantsPage coordinator request run context decisions time page) →
      Fails coordinator store request run context decisions time (some cursor) byRef trace fuel) := by
  have left : 0 < count - 1000 := Nat.sub_pos_of_lt more
  have fueled : count - 1000 < fuel := by clear measured; omega
  obtain ⟨succeeds, fails⟩ := listAll_after matched active provided byRef trace counted
    Nat.one_ne_zero continues measured left fuel fueled
  constructor
  · intro all
    apply succeeds
    intro next within
    have granted := all (next + 1) (Nat.succ_ne_zero _) (page_shift.1 within)
    rw [Nat.add_comm] at granted
    exact granted
  · intro partly
    apply fails
    push Not at partly
    obtain ⟨page, nonzero, within, ungranted⟩ := partly
    refine ⟨page - 1, page_shift.2 nonzero within, ?_⟩
    rw [Nat.add_sub_cancel' (Nat.one_le_iff_ne_zero.mpr nonzero)]
    exact ungranted

/-- A cursor of another limit is not gone on from. -/
theorem fails_drift {cursor : CheckpointCursor} {byRef : Dict CheckpointRef Checkpoint}
    (active : context.ActiveAt time) (begun : listings trace ≠ [])
    (drift : cursor.limit ≠ 1000) (fuel : ℕ) :
    Fails coordinator store request run context decisions time (some cursor) byRef trace fuel := by
  by_cases granted : GrantsPage coordinator request run context decisions time
      (listings trace).length
  · cases fuel with
    | zero => exact ⟨_, trace, rfl, begun⟩
    | succ fuel =>
      obtain ⟨grant, permits⟩ := granted
      have permitted := (permits_after cursor).mpr ⟨rfl, permits⟩
      obtain ⟨after, outcome, ran, longer, passed⟩ :=
        turn_permitted store active permitted
      obtain ⟨error, refused⟩ : ∃ error, store.list (fallbackQuery request run (some cursor))
          { context with scope := grant.effectiveScope } = .error error := by
        exact InMemoryCheckpointStore.list_drift _ rfl drift
      rw [refused] at passed
      obtain ⟨other, rfl⟩ := passed
      refine ⟨other, after, ?_, ?_⟩
      · rw [listAll, answered_bind_error ran]
      · intro empty
        rw [empty] at longer
        cases longer
  · exact fails_ungranted begun granted fuel

/-- The checkpoints fit on a page of this limit, or it is the full limit and the policy grants it
for each later page. -/
def Whole (coordinator : RecoveryCoordinator) (store : InMemoryCheckpointStore)
    (request : RecoveryRequest) (run : WorkflowRun) (context : RuntimeCallContext)
    (decisions : ℕ → PolicyDecision) (time : DateTime) (limit : ℕ) : Prop :=
  (store.selected (fallbackQuery request run none)).length ≤ limit ∨
    limit = 1000 ∧ ∀ page, page ≠ 0 →
      page * 1000 < (store.selected (fallbackQuery request run none)).length →
      GrantsPage coordinator request run context decisions time page

/-- The first page decides how the listing ends. -/
theorem opening_ends (matched : store.Matched) (active : context.ActiveAt time)
    (provided : coordinator.gateway.provider = store.providerId)
    (permits : ListPermits coordinator.gateway (fallbackQuery request run none) context time
      (decisions 0) grant effective) :
    (Whole coordinator store request run context decisions time effective.limit → ∀ fuel,
      (store.selected (fallbackQuery request run none)).length < fuel → ∃ after,
        (coordinator.listAll request run context fuel none .empty).answered
          (storeOracle store decisions time) [] =
        (.ok (updateByRef .empty (store.selected (fallbackQuery request run none))), after)) ∧
    (¬ Whole coordinator store request run context decisions time effective.limit → ∀ fuel,
      (store.selected (fallbackQuery request run none)).length < fuel →
        Fails coordinator store request run context decisions time none .empty [] fuel) := by
  obtain ⟨limit, bounded, constrains, narrowed⟩ := constrainList_iff.mp permits.constrained
  have same : store.selected effective = store.selected (fallbackQuery request run none) := by
    rw [narrowed]
    rfl
  have continues : store.checkCursor effective = .ok () := by
    rw [narrowed]
    rfl
  have permits' : ListPermits coordinator.gateway (fallbackQuery request run none) context time
      (decisions (listings []).length) grant effective := permits
  obtain ⟨after, result, ran, longer, ⟨short, rfl⟩ | ⟨last, more, ends, rfl⟩⟩ :=
    turn_page matched active provided permits' continues
  · rw [same] at short
    constructor
    · intro _ fuel enough
      obtain ⟨fuel, rfl⟩ := Nat.exists_eq_succ_of_ne_zero (Nat.ne_zero_of_lt enough)
      refine ⟨after, ?_⟩
      rw [listAll, answered_bind ran, ← same]
      rfl
    · intro partly
      exact absurd (.inl short) partly
  · have begun : listings after ≠ [] := by
      intro empty
      rw [empty] at longer
      cases longer
    let next := store.cursorAfter effective last
    let updated := updateByRef .empty ((store.selected effective).take effective.limit)
    have goesOn : ∀ fuel, (coordinator.listAll request run context (fuel + 1) none .empty).answered
        (storeOracle store decisions time) [] =
        (coordinator.listAll request run context fuel (some next) updated).answered
          (storeOracle store decisions time) after := by
      intro fuel
      rw [listAll, answered_bind ran]
    rw [same] at more
    by_cases full : effective.limit = 1000
    · have unchanged : effective = fallbackQuery request run none := by
        have equal : limit.toNat = 1000 := by
          rw [narrowed] at full
          exact full
        rw [narrowed]
        generalize limit.toNat = given at equal bounded
        subst equal
        rfl
      subst unchanged
      have remaining : store.selected (fallbackQuery request run (some next)) =
          (store.selected (fallbackQuery request run none)).drop 1000 :=
        InMemoryCheckpointStore.selected_after matched ends
      have whole : updateByRef updated (store.selected (fallbackQuery request run (some next))) =
          updateByRef .empty (store.selected (fallbackQuery request run none)) := by
        have again : updateByRef updated (store.selected (fallbackQuery request run (some next))) =
            updateByRef .empty ((store.selected (fallbackQuery request run none)).take 1000 ++
              store.selected (fallbackQuery request run (some next))) :=
          updateByRef_append _ _ _
        rw [again, remaining, List.take_append_drop]
      have fewer : (store.selected (fallbackQuery request run (some next))).length =
          (store.selected (fallbackQuery request run none)).length - 1000 := by
        rw [remaining, List.length_drop]
      have fits := fits_of_permits provided permits continues
      have follows := listAll_rest decisions matched active provided updated after longer
        (InMemoryCheckpointStore.fits_after fits last).cursor fewer more
      constructor
      · rintro (short | ⟨-, all⟩) fuel enough
        · exact absurd short (Nat.not_le_of_gt more)
        · obtain ⟨fuel, rfl⟩ := Nat.exists_eq_succ_of_ne_zero (Nat.ne_zero_of_lt enough)
          obtain ⟨final, ended⟩ := (follows fuel enough).1 all
          rw [whole] at ended
          exact ⟨final, (goesOn fuel).trans ended⟩
      · intro partly fuel enough
        obtain ⟨fuel, rfl⟩ := Nat.exists_eq_succ_of_ne_zero (Nat.ne_zero_of_lt enough)
        have ungranted : ¬ ∀ page, page ≠ 0 →
            page * 1000 < (store.selected (fallbackQuery request run none)).length →
            GrantsPage coordinator request run context decisions time page :=
          fun all => partly (.inr ⟨rfl, all⟩)
        obtain ⟨error, final, failed, later⟩ := (follows fuel enough).2 ungranted
        exact ⟨error, final, (goesOn fuel).trans failed, later⟩
    · constructor
      · rintro (short | ⟨equal, -⟩)
        · exact absurd short (Nat.not_le_of_gt more)
        · exact absurd equal full
      · intro _ fuel enough
        obtain ⟨fuel, rfl⟩ := Nat.exists_eq_succ_of_ne_zero (Nat.ne_zero_of_lt enough)
        obtain ⟨error, final, failed, later⟩ : Fails coordinator store request run context decisions
            time (some next) updated after fuel := fails_drift active begun full fuel
        exact ⟨error, final, (goesOn fuel).trans failed, later⟩

/-- The listing was denied on its first page, or it has every stored checkpoint of the run. -/
def Sees (store : InMemoryCheckpointStore) (run : WorkflowRun)
    (ended : Except Raised (Dict CheckpointRef Checkpoint) × List CoreEvent) : Prop :=
  (∃ error, ended.1 = .error error ∧ listings ended.2 = []) ∨
  ∃ byRef, ended.1 = .ok byRef ∧ ∀ checkpoint : Checkpoint,
    store.checkpoints.get? checkpoint.ref = some checkpoint → checkpoint.runId = run.runId →
      byRef.get? checkpoint.ref = some checkpoint

/-- However long it goes on, the listing of a fallback ends so. -/
def SeesHistory (coordinator : RecoveryCoordinator) (store : InMemoryCheckpointStore)
    (request : RecoveryRequest) (run : WorkflowRun) (context : RuntimeCallContext)
    (decisions : ℕ → PolicyDecision) (time : DateTime) : Prop :=
  ∃ enough, ∀ fuel, enough ≤ fuel →
    Sees store run ((coordinator.listAll request run context fuel none .empty).answered
      (storeOracle store decisions time) [])

theorem not_sees {enough : ℕ} (fails : ∀ fuel, enough < fuel →
      Fails coordinator store request run context decisions time none .empty [] fuel) :
    ¬ coordinator.SeesHistory store request run context decisions time := by
  rintro ⟨other, sees⟩
  obtain ⟨error, after, ran, begun⟩ := fails (max enough other + 1) (by omega)
  have seen := sees (max enough other + 1) (by omega)
  rw [ran] at seen
  rcases seen with ⟨_, _, unlisted⟩ | ⟨byRef, returned, -⟩
  · exact begun unlisted
  · cases returned

theorem sees_iff {enough : ℕ} {byRef : Dict CheckpointRef Checkpoint}
    (ends : ∀ fuel, enough < fuel → ∃ after,
      (coordinator.listAll request run context fuel none .empty).answered
        (storeOracle store decisions time) [] = (.ok byRef, after)) :
    coordinator.SeesHistory store request run context decisions time ↔
      ∀ checkpoint : Checkpoint, store.checkpoints.get? checkpoint.ref = some checkpoint →
        checkpoint.runId = run.runId → byRef.get? checkpoint.ref = some checkpoint := by
  constructor
  · rintro ⟨other, sees⟩
    obtain ⟨after, ran⟩ := ends (max enough other + 1) (by omega)
    have seen := sees (max enough other + 1) (by omega)
    rw [ran] at seen
    rcases seen with ⟨_, raised, _⟩ | ⟨found, returned, whole⟩
    · cases raised
    · cases returned
      exact whole
  · intro whole
    refine ⟨enough + 1, fun fuel longer => ?_⟩
    obtain ⟨after, ran⟩ := ends fuel (by omega)
    rw [ran]
    exact .inr ⟨byRef, rfl, whole⟩

omit [Sha256] in
/-- What a listing has of a run is what the run has in its scope. -/
theorem listed_iff (matched : store.Matched) {checkpoint : Checkpoint}
    (stored : store.checkpoints.get? checkpoint.ref = some checkpoint)
    (own : checkpoint.runId = run.runId) :
    (updateByRef .empty (store.selected (fallbackQuery request run none))).get? checkpoint.ref =
        some checkpoint ↔ checkpoint.scope.key = run.scope.key := by
  have selected : checkpoint ∈ store.selected (fallbackQuery request run none) ↔
      checkpoint.scope.key = run.scope.key := by
    rw [InMemoryCheckpointStore.mem_selected, InMemoryCheckpointStore.mem_values matched]
    simp [InMemoryCheckpointStore.selects, fallbackQuery, stored, own]
  have held : ∀ item ∈ store.selected (fallbackQuery request run none),
      store.checkpoints.get? item.ref = some item := by
    intro item member
    exact (InMemoryCheckpointStore.mem_values matched).mp
      (InMemoryCheckpointStore.mem_selected.mp member).1
  have distinct : ((store.selected (fallbackQuery request run none)).map Checkpoint.ref).Nodup := by
    apply List.Nodup.map_on _ (InMemoryCheckpointStore.descending_selected matched).nodup
    intro first one second two same
    have found := held first one
    rw [same, held second two] at found
    exact (Option.some.inj found).symm
  rw [← selected]
  constructor
  · intro found
    by_contra absent
    have missing : checkpoint.ref ∉
        (store.selected (fallbackQuery request run none)).map Checkpoint.ref := by
      intro member
      obtain ⟨item, inside, same⟩ := List.mem_map.mp member
      have also := held item inside
      rw [same, stored] at also
      exact absent (Option.some.inj also ▸ inside)
    have none := Dict.get?_setAll_of_not_mem Checkpoint.ref id .empty missing
    have found : (Dict.setAll Checkpoint.ref id .empty _).get? checkpoint.ref = some checkpoint :=
      found
    rw [none] at found
    cases found
  · intro member
    exact Dict.get?_setAll_of_mem Checkpoint.ref id .empty distinct member

end Turns

/-- A fallback sees the whole history of a run just where its first page is denied, or the
checkpoints are all in the scope of the run and either fit on that page or are all granted pages
of the full limit. -/
theorem seesHistory_iff (coordinator : RecoveryCoordinator)
    (calls : List InMemoryCheckpointStore.Call) (request : RecoveryRequest) (run : WorkflowRun)
    (context : RuntimeCallContext) (decisions : ℕ → PolicyDecision) (time : DateTime) :
    let store := (InMemoryCheckpointStore.empty coordinator.gateway.provider).applyAll calls
    coordinator.SeesHistory store request run context decisions time ↔
      ∀ grant effective, context.ActiveAt time →
        ListPermits coordinator.gateway (fallbackQuery request run none) context time (decisions 0)
          grant effective →
        (∀ checkpoint : Checkpoint, store.checkpoints.get? checkpoint.ref = some checkpoint →
          checkpoint.runId = run.runId → checkpoint.scope.key = run.scope.key) ∧
        Whole coordinator store request run context decisions time effective.limit := by
  intro store
  have matched : store.Matched :=
    InMemoryCheckpointStore.matched_applyAll (InMemoryCheckpointStore.matched_empty _) calls
  have provided : coordinator.gateway.provider = store.providerId :=
    (InMemoryCheckpointStore.providerId_applyAll (.empty coordinator.gateway.provider) calls).symm
  by_cases opened : ∃ grant effective, context.ActiveAt time ∧
      ListPermits coordinator.gateway (fallbackQuery request run none) context time (decisions 0)
        grant effective
  · obtain ⟨grant, effective, active, permits⟩ := opened
    obtain ⟨whole, partly⟩ := opening_ends matched active provided permits
    have unique : ∀ other also,
        ListPermits coordinator.gateway (fallbackQuery request run none) context time (decisions 0)
          other also → also = effective :=
      fun other also permitted => (permits.unique permitted).2
    by_cases pages : Whole coordinator store request run context decisions time effective.limit
    · rw [sees_iff (whole pages)]
      constructor
      · intro seen other also _ permitted
        rw [unique other also permitted]
        refine ⟨fun checkpoint stored own => ?_, pages⟩
        exact (listed_iff matched stored own).mp (seen checkpoint stored own)
      · intro conditions checkpoint stored own
        exact (listed_iff matched stored own).mpr
          ((conditions grant effective active permits).1 checkpoint stored own)
    · constructor
      · intro seen
        exact absurd seen (not_sees (partly pages))
      · intro conditions
        exact absurd (conditions grant effective active permits).2 pages
  · constructor
    · intro _ grant effective active permits
      exact absurd ⟨grant, effective, active, permits⟩ opened
    · intro _
      refine ⟨1, fun fuel positive => ?_⟩
      obtain ⟨fuel, rfl⟩ := Nat.exists_eq_succ_of_ne_zero (by omega : fuel ≠ 0)
      have refused : ∀ grant effective, context.ActiveAt time → ¬ ListPermits coordinator.gateway
          (fallbackQuery request run none) context time (decisions (listings []).length) grant
          effective := by
        intro grant effective active permits
        exact opened ⟨grant, effective, active, permits⟩
      obtain ⟨error, after, ran, same⟩ : Refuses (storeOracle store decisions time)
          (coordinator.gateway.list (fallbackQuery request run none) context) [] :=
        turn_refused refused
      left
      refine ⟨error, ?_⟩
      rw [listAll, answered_bind_error ran]
      exact ⟨rfl, same⟩

end RecoveryCoordinator

end

namespace RecoveryCoordinator

open SampleParameters

def secondFields : CheckpointFields :=
  { sampleFields with
    checkpointId := ⟨"checkpoint-2", secondCheckpoint_checked⟩
    sequence := 2
    previousCheckpointRef := some sampleCheckpoint.ref }

def secondCheckpoint : Checkpoint where
  toCheckpointFields := secondFields
  integrity := secondFields.integrityData.sha256
  checked := by decide +kernel

def secondSaves : List InMemoryCheckpointStore.Call :=
  [.save sampleCheckpoint sampleContext, .save secondCheckpoint sampleContext]

def narrowQuery : CheckpointQuery :=
  { fallbackQuery sampleListing sampleListed none with
    limit := 1
    bounded := ⟨by decide, by decide, nofun⟩ }

/-- The policy allows pages of one checkpoint. -/
def narrowDecision : PolicyDecision :=
  allowingUnder (listRequest (fallbackQuery sampleListing sampleListed none) sampleContext)
    (CheckpointGateway.listConstraints narrowQuery)

theorem narrow_permits : ∃ grant, ListPermits sampleLister.gateway
    (fallbackQuery sampleListing sampleListed none) sampleContext sampleTime narrowDecision grant
    narrowQuery := by
  refine ⟨_, ScopeRef.requireNarrowerThan_self sampleScope, ⟨?_, rfl, rfl, rfl, ?_, nofun⟩, ?_, rfl⟩
  · exact List.mem_singleton.mpr rfl
  · exact GatewayDispatch.validateGrant_same rfl rfl rfl rfl rfl rfl
  · rfl

/-- A grant of smaller pages hides the history of a run with two checkpoints. -/
theorem not_seesHistory : ¬ ∀ (coordinator : RecoveryCoordinator)
    (calls : List InMemoryCheckpointStore.Call) (request : RecoveryRequest) (run : WorkflowRun)
    (context : RuntimeCallContext) (decisions : ℕ → PolicyDecision) (time : DateTime),
    coordinator.SeesHistory
      ((InMemoryCheckpointStore.empty coordinator.gateway.provider).applyAll calls) request run
      context decisions time := by
  intro sees
  have matched := InMemoryCheckpointStore.matched_applyAll
    (InMemoryCheckpointStore.matched_empty sampleProvider) secondSaves
  have provided := (InMemoryCheckpointStore.providerId_applyAll (.empty sampleProvider)
    secondSaves).symm
  have active : sampleContext.ActiveAt sampleTime := nofun
  obtain ⟨grant, permits⟩ := narrow_permits
  have stored : (((InMemoryCheckpointStore.empty sampleProvider).applyAll secondSaves).selected
      (fallbackQuery sampleListing sampleListed none)).length = 2 := by
    rw [InMemoryCheckpointStore.selected, DescendingOrder.length_sorted]
    decide +kernel
  have partly : ¬ Whole sampleLister
      ((InMemoryCheckpointStore.empty sampleProvider).applyAll secondSaves) sampleListing
      sampleListed sampleContext (fun _ => narrowDecision) sampleTime narrowQuery.limit := by
    rintro (short | ⟨full, -⟩)
    · rw [stored] at short
      exact absurd short (by decide)
    · exact absurd full (by decide)
  have fails := (opening_ends matched active provided permits).2 partly
  exact not_sees fails (sees sampleLister secondSaves sampleListing sampleListed sampleContext
    (fun _ => narrowDecision) sampleTime)

end RecoveryCoordinator

end CongeriesCore
