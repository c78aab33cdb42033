import CongeriesCore.GatewayDispatch
import CongeriesCore.ListingTrace
import CongeriesCore.RecoveryCoordinator
import CongeriesCore.CheckpointChain

/-! # The listing behind a fallback

Under an oracle the listing of a fallback has one run. It lists as often as the store names a next
page, which need not end: a page that names no progress is valid too. -/

namespace CongeriesCore

open AsyncProgram Program

section

variable [Sha256]

/-- The last listing asked behind the cursor, and got the page. -/
def Asked (cursor : Option CheckpointCursor) (before : List Listing) (page : CheckpointPage)
    (found : List Listing) : Prop :=
  ∃ effective : CheckpointQuery, effective.cursor = cursor ∧
    found = before ++ [(effective, .ok page)]

/-- There was one listing more at most. -/
def OnceMore (before found : List Listing) : Prop :=
  ∃ last : List Listing, last.length ≤ 1 ∧ found = before ++ last

omit [Sha256] in
theorem onceMore_same {before found : List Listing} (same : found = before) :
    OnceMore before found := ⟨[], by simp, by simp [same]⟩

omit [Sha256] in
theorem Asked.onceMore {cursor : Option CheckpointCursor} {before found : List Listing}
    {page : CheckpointPage} (asked : Asked cursor before page found) : OnceMore before found := by
  obtain ⟨effective, -, added⟩ := asked
  exact ⟨_, by simp, added⟩

/-- A listing of the gateway calls the store at most once, and once for the page it returns. -/
theorem lists_gateway (gateway : CheckpointGateway) (query : CheckpointQuery)
    (context : RuntimeCallContext) (trace : List CoreEvent) :
    Lists (gateway.list query context) (Asked query.cursor (listings trace))
      (OnceMore (listings trace)) trace := by
  have before : ∀ found : List Listing, found = listings trace →
      OnceMore (listings trace) found := fun found => onceMore_same
  have behind : ∀ page, ∀ found : List Listing, Asked query.cursor (listings trace) page found →
      OnceMore (listings trace) found := fun page found => Asked.onceMore
  have routine := lists_routine gateway.authorization before
  apply routine.gatewayList (fun page => lists_routine gateway.authorization (behind page)) query
    context _ rfl
  intro current granted effective later constrained same
  have kept : effective.cursor = query.cursor := by
    obtain ⟨_, _, -, rfl⟩ := constrainList_iff.mp constrained
    rfl
  apply safe_perform_traced trivial
  intro outcome _
  have added := listings_listed current effective later outcome
  rw [same] at added
  cases outcome with
  | ok page => exact ⟨effective, kept, added⟩
  | error error => exact ⟨_, by simp, added⟩

omit [Sha256] in
/-- A grant of what was asked leaves a query as it is. -/
theorem constrainList_same (query : CheckpointQuery) :
    CheckpointGateway.constrainList query (CheckpointGateway.listConstraints query) =
      .ok query := by
  have limits := query.bounded
  have versioned : ((CheckpointGateway.constraint (CheckpointGateway.listConstraints query)
      "graph_version").any fun value =>
        value.equalsScalar (.ofOption .str query.graphVersion)) = true := by
    change (JsonValue.ofOption .str query.graphVersion).equalsScalar
      (.ofOption .str query.graphVersion) = true
    cases query.graphVersion with
    | none => rfl
    | some version => exact beq_self_eq_true version
  have constrains : Constrains query (CheckpointGateway.listConstraints query) query.limit := by
    refine ⟨rfl, beq_self_eq_true query.runId.value, versioned, rfl, ?_, .inr rfl⟩
    omega
  exact constrainList_iff.mpr ⟨query.limit, query.bounded, constrains, rfl⟩

namespace RecoveryCoordinator

variable {coordinator : RecoveryCoordinator} {request : RecoveryRequest} {run : WorkflowRun}
  {context : RuntimeCallContext} {oracle : CoreOracle}

/-- The listing calls of a fallback from a cursor on, with those before it. -/
def listed (coordinator : RecoveryCoordinator) (request : RecoveryRequest) (run : WorkflowRun)
    (context : RuntimeCallContext) (oracle : CoreOracle) (cursor : Option CheckpointCursor)
    (byRef : Dict CheckpointRef Checkpoint) (trace : List CoreEvent) (fuel : ℕ) : List Listing :=
  listings ((coordinator.listAll request run context fuel cursor byRef).answered oracle trace).2

@[simp] theorem listed_zero {cursor : Option CheckpointCursor}
    {byRef : Dict CheckpointRef Checkpoint} {trace : List CoreEvent} :
    coordinator.listed request run context oracle cursor byRef trace 0 = listings trace := rfl

/-- One turn of the loop lists once at most, and is the last one or goes on behind a page. -/
theorem listed_step (cursor : Option CheckpointCursor) (byRef : Dict CheckpointRef Checkpoint)
    (trace : List CoreEvent) :
    (∀ fuel, (coordinator.listed request run context oracle cursor byRef trace fuel).length ≤
      (listings trace).length + 1) ∨
    ∃ effective page next after, effective.cursor = cursor ∧ page.nextCursor = some next ∧
      listings after = listings trace ++ [(effective, .ok page)] ∧
      ∀ fuel, coordinator.listed request run context oracle cursor byRef trace (fuel + 1) =
        coordinator.listed request run context oracle (some next) (updateByRef byRef page.items)
          after fuel := by
  have turn := (lists_gateway coordinator.gateway (fallbackQuery request run cursor) context
    trace).answered oracle
  cases ran : (coordinator.gateway.list (fallbackQuery request run cursor) context).answered oracle
      trace with
  | mk outcome after =>
    rw [ran] at turn
    cases outcome with
    | error error =>
      left
      intro fuel
      cases fuel with
      | zero => simp
      | succ fuel =>
        obtain ⟨last, short, added⟩ := turn
        have whole : coordinator.listed request run context oracle cursor byRef trace (fuel + 1) =
            listings after := by
          unfold listed listAll
          rw [answered_bind_error ran]
        rw [whole, added, List.length_append]
        omega
    | ok page =>
      obtain ⟨effective, kept, added⟩ := turn
      cases continued : page.nextCursor with
      | none =>
        left
        intro fuel
        cases fuel with
        | zero => simp
        | succ fuel =>
          have whole : coordinator.listed request run context oracle cursor byRef trace
              (fuel + 1) = listings after := by
            unfold listed listAll
            rw [answered_bind ran, continued]
            rfl
          rw [whole, added, List.length_append]
          simp
      | some next =>
        right
        refine ⟨effective, page, next, after, kept, continued, added, fun fuel => ?_⟩
        unfold listed
        rw [listAll, answered_bind ran, continued]

/-- The page goes on from no earlier sequence than the one it was asked behind. -/
def stalls : Listing → Bool
  | (query, .ok page) => query.cursor.any fun cursor =>
    page.nextCursor.any fun next => cursor.nextSequence ≤ next.nextSequence
  | (_, .error _) => false

omit [Sha256] in
theorem stalls_page {query : CheckpointQuery} {page : CheckpointPage}
    {cursor next : CheckpointCursor} (asked : query.cursor = some cursor)
    (answered : page.nextCursor = some next) :
    stalls (query, .ok page) = decide (cursor.nextSequence ≤ next.nextSequence) := by
  simp [stalls, asked, answered]

/-- From a cursor on, only finitely many listings are no stalls. -/
theorem listed_bounded (remaining : ℕ) (cursor : CheckpointCursor)
    (byRef : Dict CheckpointRef Checkpoint) (trace : List CoreEvent)
    (few : ∀ fuel, (coordinator.listed request run context oracle (some cursor) byRef trace
      fuel).countP stalls ≤ (listings trace).countP stalls + remaining) :
    ∃ bound, ∀ fuel, (coordinator.listed request run context oracle (some cursor) byRef trace
      fuel).length ≤ bound := by
  induction remaining using Nat.strong_induction_on generalizing cursor byRef trace with
  | _ remaining fewer =>
    induction reach : cursor.nextSequence using Nat.strong_induction_on
      generalizing cursor byRef trace with
    | _ sequence earlier =>
      rcases listed_step (some cursor) byRef trace with ended | continued
      · exact ⟨_, ended⟩
      · obtain ⟨effective, page, next, after, asked, answered, added, follows⟩ := continued
        have later : ∃ bound, ∀ fuel, (coordinator.listed request run context oracle (some next)
            (updateByRef byRef page.items) after fuel).length ≤ bound := by
          have counted : (listings after).countP stalls = (listings trace).countP stalls +
              if cursor.nextSequence ≤ next.nextSequence then 1 else 0 := by
            rw [added, List.countP_append, List.countP_singleton, stalls_page asked answered]
            simp
          have budget : ∀ fuel, (coordinator.listed request run context oracle (some next)
              (updateByRef byRef page.items) after fuel).countP stalls ≤
              (listings trace).countP stalls + remaining := by
            intro fuel
            rw [← follows]
            exact few (fuel + 1)
          by_cases stalled : cursor.nextSequence ≤ next.nextSequence
          · rw [if_pos stalled] at counted
            have spent := budget 0
            rw [listed_zero] at spent
            apply fewer (remaining - 1) (by omega) next (updateByRef byRef page.items) after
            intro fuel
            have within := budget fuel
            omega
          · rw [if_neg stalled] at counted
            apply earlier next.nextSequence (by omega) next (updateByRef byRef page.items) after _ rfl
            intro fuel
            have within := budget fuel
            omega
        obtain ⟨bound, bounded⟩ := later
        refine ⟨max bound (listings trace).length, fun fuel => ?_⟩
        cases fuel with
        | zero => exact Nat.le_max_right _ _
        | succ fuel =>
          rw [follows]
          exact (bounded fuel).trans (Nat.le_max_left _ _)

/-- The listing of a fallback calls the store only finitely often, however long it may go on. -/
def ListsFinitely (coordinator : RecoveryCoordinator) (request : RecoveryRequest)
    (run : WorkflowRun) (context : RuntimeCallContext) (oracle : CoreOracle) : Prop :=
  ∃ bound, ∀ fuel,
    (coordinator.listed request run context oracle none .empty [] fuel).length ≤ bound

/-- It does so just where finitely many of the pages make no progress. -/
theorem listsFinitely_iff (coordinator : RecoveryCoordinator) (request : RecoveryRequest)
    (run : WorkflowRun) (context : RuntimeCallContext) (oracle : CoreOracle) :
    coordinator.ListsFinitely request run context oracle ↔
      ∃ bound, ∀ fuel, (coordinator.listed request run context oracle none .empty []
        fuel).countP stalls ≤ bound := by
  constructor
  · rintro ⟨bound, bounded⟩
    refine ⟨bound, fun fuel => ?_⟩
    exact List.countP_le_length.trans (bounded fuel)
  · rintro ⟨bound, bounded⟩
    rcases listed_step none .empty [] with ended | continued
    · exact ⟨_, ended⟩
    · obtain ⟨effective, page, next, after, -, -, -, follows⟩ := continued
      obtain ⟨last, short⟩ : ∃ last, ∀ fuel, (coordinator.listed request run context oracle
          (some next) (updateByRef .empty page.items) after fuel).length ≤ last := by
        apply listed_bounded bound
        intro fuel
        have within := bounded (fuel + 1)
        rw [follows] at within
        omega
      refine ⟨last, fun fuel => ?_⟩
      cases fuel with
      | zero => exact Nat.zero_le _
      | succ fuel =>
        rw [follows]
        exact short fuel

/-- The pages that the store answers are valid for what it was asked, and list what it holds. -/
def Conforms (oracle : CoreOracle) (holds : List Checkpoint) : Prop :=
  ∀ trace query context page, oracle trace (.checkpointList query context) = .ok page →
    CheckpointGateway.validatePage page query = .ok () ∧ ∀ item ∈ page.items, item ∈ holds

/-- A page of nothing, with a cursor that fits the query. -/
def endlessPage (query : CheckpointQuery) : CheckpointPage where
  items := []
  nextCursor := some {
    providerId := query.providerId
    runId := query.runId
    scope := query.scope
    graphVersion := query.graphVersion
    limit := query.limit
    queryFingerprint := query.queryFingerprint
    nextSequence := 1
    positive := ⟨query.bounded.1, le_refl 1⟩ }

theorem validate_endlessPage (query : CheckpointQuery) :
    CheckpointGateway.validatePage (endlessPage query) query = .ok () := by
  have short : (decide (([] : List Checkpoint).length ≤ query.limit)) = true := by simp
  unfold CheckpointGateway.validatePage
  rw [show (endlessPage query).items = [] from rfl, ensure_ok short]
  apply ensure_ok
  simp [endlessPage]

open SampleParameters in
/-- A store that answers such a page always, where everything else passes. -/
def endless : CoreOracle := fun _ op => match op with
  | .cancelled _ => .ok false
  | .now => .ok sampleTime
  | .authorize request => .ok (allowing request)
  | .authorizationDenied _ _ => .ok ()
  | .crossScopeGranted _ _ => .ok ()
  | .checkpointList query _ => .ok (endlessPage query)
  | _ => .error .cancelledError

open SampleParameters in
theorem calm_endless : Calm endless sampleTime where
  cancelled _ _ := rfl
  now _ := rfl
  denied _ _ _ := rfl
  granted _ _ _ := rfl

theorem conforms_endless : Conforms endless [] := by
  intro trace query context page answered
  cases answered
  exact ⟨validate_endlessPage query, nofun⟩

end RecoveryCoordinator

end

namespace RecoveryCoordinator

open SampleParameters

def sampleLister : RecoveryCoordinator := ⟨⟨sampleProvider, ⟨[checkpointListAction], true⟩⟩, ⟨[]⟩⟩

def sampleListed : WorkflowRun := { sampleRun with workflow := sampleWorkflow, isWorkflow := rfl }

def sampleListing : RecoveryRequest :=
  ⟨sampleRunId, 1, sampleProvider, sampleRun.definitionId, "1", {}⟩

/-- Its gateway comes to the store with the query as it is. -/
theorem sampleLister_permits (cursor : Option CheckpointCursor) :
    ∃ grant, ListPermits sampleLister.gateway (fallbackQuery sampleListing sampleListed cursor)
      sampleContext sampleTime
      (allowing (listRequest (fallbackQuery sampleListing sampleListed cursor) sampleContext)) grant
      (fallbackQuery sampleListing sampleListed cursor) := by
  refine ⟨_, ScopeRef.requireNarrowerThan_self sampleScope, ⟨?_, rfl, rfl, rfl, ?_, nofun⟩,
    constrainList_same _, rfl⟩
  · exact List.mem_singleton.mpr rfl
  · exact GatewayDispatch.validateGrant_same rfl rfl rfl rfl rfl rfl

/-- Each of its listings returns such a page. -/
theorem endless_page [Sha256] (cursor : Option CheckpointCursor) (trace : List CoreEvent) :
    ∃ after, (sampleLister.gateway.list (fallbackQuery sampleListing sampleListed cursor)
        sampleContext).answered endless trace =
          (.ok (endlessPage (fallbackQuery sampleListing sampleListed cursor)), after) ∧
      (listings after).length = (listings trace).length + 1 := by
  have active : sampleContext.ActiveAt sampleTime := nofun
  have decides : ∀ after, listings after = listings trace → endless after (.authorize (listRequest
      (fallbackQuery sampleListing sampleListed cursor) sampleContext)) =
        .ok (allowing (listRequest (fallbackQuery sampleListing sampleListed cursor)
          sampleContext)) := fun after _ => rfl
  obtain ⟨grant, permits⟩ := sampleLister_permits cursor
  rcases answered_list sampleLister.gateway calm_endless active decides with
    ⟨other, effective, permitted, before, after, outcome, -, ran, added, passed⟩ | ⟨refused, -⟩
  · obtain ⟨rfl, rfl⟩ := permits.unique permitted
    have passed : outcome = (CheckpointGateway.validatePage (endlessPage _) _).map
      fun _ => endlessPage _ := passed
    rw [validate_endlessPage] at passed
    refine ⟨after, ?_, ?_⟩
    · rw [passed] at ran
      exact ran
    · rw [added, List.length_append]
      rfl
  · exact absurd permits (refused grant _)

/-- Each turn lists once more. -/
theorem endless_turns [Sha256] (fuel : ℕ) (cursor : Option CheckpointCursor)
    (byRef : Dict CheckpointRef Checkpoint) (trace : List CoreEvent) :
    (sampleLister.listed sampleListing sampleListed sampleContext endless cursor byRef trace
      fuel).length = (listings trace).length + fuel := by
  induction fuel generalizing cursor byRef trace with
  | zero => rfl
  | succ fuel ih =>
    obtain ⟨after, ran, longer⟩ := endless_page cursor trace
    have later := ih ((endlessPage (fallbackQuery sampleListing sampleListed cursor)).nextCursor)
      (updateByRef byRef []) after
    have goesOn : sampleLister.listed sampleListing sampleListed sampleContext endless cursor byRef
        trace (fuel + 1) = sampleLister.listed sampleListing sampleListed sampleContext endless
          (endlessPage (fallbackQuery sampleListing sampleListed cursor)).nextCursor
          (updateByRef byRef []) after fuel := by
      unfold listed
      rw [listAll, answered_bind ran]
      rfl
    rw [goesOn, later, longer]
    omega

/-- A conforming store may be listed without an end. -/
theorem not_listsFinitely : ¬ ∀ (coordinator : RecoveryCoordinator) (request : RecoveryRequest)
    (run : WorkflowRun) (context : RuntimeCallContext) (oracle : CoreOracle)
    (holds : List Checkpoint), Conforms oracle holds →
      coordinator.ListsFinitely request run context oracle := by
  intro finitely
  obtain ⟨bound, bounded⟩ := finitely sampleLister sampleListing sampleListed sampleContext endless
    [] conforms_endless
  have more := bounded (bound + 1)
  rw [endless_turns] at more
  simp only [listings, List.filterMap_nil, List.length_nil] at more
  omega

end RecoveryCoordinator

end CongeriesCore
