import CongeriesCore.CheckpointGateway
import CongeriesCore.CheckpointStoreInvariant
import CongeriesCore.DescendingOrder
import CongeriesCore.SampleParameters

/-! # The pages of a checkpoint listing

Following the cursors of a listing gives what the query selects, once and in descending order. -/

namespace CongeriesCore

open DescendingOrder

/-- The query that goes on behind a page. -/
def CheckpointQuery.after (query : CheckpointQuery) (cursor : CheckpointCursor) :
    CheckpointQuery :=
  { query with cursor := some cursor }

namespace InMemoryCheckpointStore

/-- What a query selects, in the order of its listing. -/
def selected (store : InMemoryCheckpointStore) (query : CheckpointQuery) : List Checkpoint :=
  sorted (fun item => item.sequence) (store.checkpoints.values.filter (selects query))

section Contents

variable {store : InMemoryCheckpointStore} {query : CheckpointQuery}

theorem mem_values {checkpoint : Checkpoint} (matched : store.Matched) :
    checkpoint ∈ store.checkpoints.values ↔
      store.checkpoints.get? checkpoint.ref = some checkpoint := by
  constructor
  · intro member
    obtain ⟨⟨reference, stored⟩, inside, same⟩ := List.mem_map.mp member
    cases same
    have found := Dict.get?_of_mem inside
    rw [(matched.checkpoints _ _ found).1]
    exact found
  · intro found
    exact List.mem_map.mpr ⟨_, Dict.mem_of_get? found, rfl⟩

theorem nodup_values (matched : store.Matched) : store.checkpoints.values.Nodup := by
  have keys : store.checkpoints.entries.map (fun entry => entry.2.ref) =
      store.checkpoints.entries.map Prod.fst := by
    apply List.map_congr_left
    intro entry member
    exact (matched.checkpoints entry.1 entry.2 (Dict.get?_of_mem member)).1
  have refs : (store.checkpoints.values.map Checkpoint.ref).Nodup := by
    unfold Dict.values
    rw [List.map_map]
    change (store.checkpoints.entries.map fun entry => entry.2.ref).Nodup
    rw [keys]
    exact store.checkpoints.nodup
  exact refs.of_map _

/-- A run has one checkpoint for each sequence number. -/
theorem sequence_injective (matched : store.Matched) {first second : Checkpoint}
    (one : first ∈ store.checkpoints.values) (two : second ∈ store.checkpoints.values)
    (run : first.runId = second.runId) (sequence : first.sequence = second.sequence) :
    first = second := by
  have one := (mem_values matched).mp one
  have two := (mem_values matched).mp two
  have listed := (matched.checkpoints _ _ one).2
  have also := (matched.checkpoints _ _ two).2
  rw [← run, ← sequence, listed] at also
  have same : first.ref = second.ref := Option.some.inj also
  rw [same, two] at one
  exact (Option.some.inj one).symm

theorem mem_selected {checkpoint : Checkpoint} : checkpoint ∈ store.selected query ↔
    checkpoint ∈ store.checkpoints.values ∧ selects query checkpoint = true := by
  unfold selected
  rw [mem_sorted, List.mem_filter]

theorem runId_of_selects {checkpoint : Checkpoint} (selecting : selects query checkpoint = true) :
    checkpoint.runId = query.runId := by
  simp only [selects, Bool.and_eq_true, beq_iff_eq] at selecting
  exact selecting.1.1.1

theorem descending_selected (matched : store.Matched) :
    Descending (fun item : Checkpoint => item.sequence) (store.selected query) := by
  apply descending_sorted
  · exact (nodup_values matched).filter _
  · intro first one second two same
    rw [List.mem_filter] at one two
    apply sequence_injective matched one.1 two.1 _ same
    rw [runId_of_selects one.2, runId_of_selects two.2]

theorem sequence_pos (checkpoint : Checkpoint) : 1 ≤ checkpoint.sequence := by
  have checked := checkpoint.checked
  unfold CheckpointFields.check at checked
  obtain ⟨_, _, rest⟩ := bind_ok checked
  obtain ⟨_, positive, _⟩ := bind_ok rest
  simp only [requireValue_eq_ok, Bool.and_eq_true, decide_eq_true_eq] at positive
  exact positive.1

end Contents

section Listing

variable [Sha256]

/-- The cursor behind a page that ends with `last`. -/
def cursorAfter (store : InMemoryCheckpointStore) (query : CheckpointQuery) (last : Checkpoint) :
    CheckpointCursor where
  providerId := store.providerId
  runId := query.runId
  scope := query.scope
  graphVersion := query.graphVersion
  limit := query.limit
  queryFingerprint := query.queryFingerprint
  nextSequence := last.sequence
  positive := ⟨query.bounded.1, sequence_pos last⟩

/-- Such a cursor fits its query. -/
structure Fits (store : InMemoryCheckpointStore) (query : CheckpointQuery)
    (context : RuntimeCallContext) : Prop where
  provider : query.providerId = store.providerId
  narrower : query.scope.requireNarrowerThan context.scope = .ok ()
  cursor : store.checkCursor query = .ok ()

section Lists

variable {store : InMemoryCheckpointStore} {query : CheckpointQuery} {context : RuntimeCallContext}

/-- A page is the first of what is selected, with a cursor where there is more. -/
theorem list_of_fits (fits : store.Fits query context) :
    ((store.selected query).length ≤ query.limit ∧
      store.list query context = .ok ⟨store.selected query, none⟩) ∨
    ∃ last, query.limit < (store.selected query).length ∧
      ((store.selected query).take query.limit).getLast? = some last ∧
      store.list query context = .ok ⟨(store.selected query).take query.limit,
        some (store.cursorAfter query last)⟩ := by
  have provided : (query.providerId == store.providerId) = true := by
    simpa using fits.provider
  unfold list
  rw [ensure_ok provided, fits.narrower, fits.cursor]
  dsimp only [bind, Except.bind]
  have selected : ((store.checkpoints.values.filter (selects query)).mergeSort fun first second =>
      decide (second.sequence ≤ first.sequence)) = store.selected query := rfl
  rw [selected]
  by_cases more : query.limit < (store.selected query).length
  · right
    have positive := query.bounded.1
    have nonempty : (store.selected query).take query.limit ≠ [] := by
      intro empty
      have none := congrArg List.length empty
      rw [List.length_take, List.length_nil] at none
      omega
    obtain ⟨last, ends⟩ : ∃ last, ((store.selected query).take query.limit).getLast? = some last :=
      ⟨_, List.getLast?_eq_some_getLast nonempty⟩
    refine ⟨last, more, ends, ?_⟩
    rw [if_pos more, ends]
    dsimp only
    rw [dif_pos (sequence_pos last)]
    rfl
  · left
    have fits : (store.selected query).length ≤ query.limit := by omega
    rw [if_neg more, List.take_of_length_le fits]
    exact ⟨fits, rfl⟩

/-- Behind a page is selected what the page left. -/
theorem selected_after (matched : store.Matched) {last : Checkpoint}
    (ends : ((store.selected query).take query.limit).getLast? = some last) :
    store.selected (query.after (store.cursorAfter query last)) =
      (store.selected query).drop query.limit := by
  have descending : Descending (fun item : Checkpoint => item.sequence) (store.selected query) :=
    descending_selected matched
  apply Descending.ext (descending_selected matched) (descending.drop query.limit)
  intro item
  rw [descending.mem_drop ends, mem_selected, mem_selected]
  have inside : last ∈ store.selected query := by
    have member := List.mem_of_getLast? ends
    exact List.mem_of_mem_take member
  have before := (mem_selected.mp inside).2
  simp only [selects, CheckpointQuery.after, cursorAfter, Option.all_some, Bool.and_eq_true,
    decide_eq_true_eq, and_assoc] at before ⊢
  constructor
  · rintro ⟨stored, run, scope, version, below⟩
    refine ⟨stored, run, scope, version, ?_, below⟩
    cases given : query.cursor with
    | none => rfl
    | some cursor =>
      have limit := before.2.2.2
      rw [given] at limit
      simp only [Option.all_some, decide_eq_true_eq] at limit ⊢
      omega
  · rintro ⟨stored, run, scope, version, _, below⟩
    exact ⟨stored, run, scope, version, below⟩

theorem fits_after (fits : store.Fits query context) (last : Checkpoint) :
    store.Fits (query.after (store.cursorAfter query last)) context where
  provider := fits.provider
  narrower := fits.narrower
  cursor := by
    apply ensure_ok
    simp only [CheckpointQuery.after, cursorAfter, beq_self_eq_true, Bool.true_and]
    exact beq_self_eq_true query.queryFingerprint

/-! ### Every page -/

/-- The pages of a query, followed by their cursors for at most `fuel` calls. -/
def pages (store : InMemoryCheckpointStore) (context : RuntimeCallContext) :
    ℕ → CheckpointQuery → Except Raised (List CheckpointPage)
  | 0, _ => .error outOfFuel
  | fuel + 1, query => do
    let page ← store.list query context
    match page.nextCursor with
    | none => return [page]
    | some cursor => do
      let rest ← store.pages context fuel (query.after cursor)
      return page :: rest

/-- A page of what is selected passes the gateway's validation. -/
theorem validate_page (matched : store.Matched) {page : List Checkpoint}
    (begins : page <+: store.selected query) (short : page.length ≤ query.limit)
    {cursor : Option CheckpointCursor} (provided : query.providerId = store.providerId)
    (continues : ∀ next ∈ cursor, ∃ last, next = store.cursorAfter query last) :
    CheckpointGateway.validatePage ⟨page, cursor⟩ query = .ok () := by
  have items : ∀ (items : List Checkpoint) (previous : Option ℕ),
      Descending (fun item : Checkpoint => item.sequence) items →
      (∀ item ∈ items, selects query item = true) →
      (∀ sequence ∈ previous, ∀ item ∈ items, item.sequence < sequence) →
      CheckpointGateway.validateItems query previous items = .ok () := by
    intro items
    induction items with
    | nil => exact fun _ _ _ _ => rfl
    | cons item items ih =>
      intro previous descending selecting below
      obtain ⟨first, rest⟩ := List.pairwise_cons.mp descending
      have owned : CheckpointGateway.itemMatches query item = true := by
        have chosen := selecting item (.head _)
        simp only [selects, Bool.and_eq_true] at chosen
        simp only [CheckpointGateway.itemMatches, Bool.and_eq_true]
        exact chosen.1
      have ordered : (previous.all fun sequence => item.sequence < sequence) = true := by
        cases previous with
        | none => rfl
        | some sequence => simpa using below sequence rfl item (.head _)
      unfold CheckpointGateway.validateItems
      rw [ensure_ok owned, ensure_ok ordered]
      apply ih (some item.sequence) rest (fun other member => selecting other (.tail _ member))
      intro sequence same other member
      cases same
      exact first other member
  have descending : Descending (fun item : Checkpoint => item.sequence) page :=
    List.Pairwise.sublist begins.sublist (descending_selected matched)
  have unstarted : ∀ sequence ∈ (none : Option ℕ), ∀ item ∈ page, item.sequence < sequence := by
    intro sequence impossible
    cases impossible
  have valid := items page none descending
    (fun item member => (mem_selected.mp (begins.subset member)).2) unstarted
  have limited : (decide (page.length ≤ query.limit)) = true := by simpa using short
  have continued : (cursor.all fun next => next.providerId == query.providerId &&
      next.runId == query.runId && next.scope.key == query.scope.key &&
      next.graphVersion == query.graphVersion && next.limit == query.limit &&
      next.queryFingerprint == query.queryFingerprint) = true := by
    cases cursor with
    | none => rfl
    | some next =>
      obtain ⟨last, rfl⟩ := continues next rfl
      simp [cursorAfter, provided]
  unfold CheckpointGateway.validatePage
  rw [ensure_ok limited, valid, ensure_ok continued]
  rfl

omit [Sha256] in
theorem validateItems_after (cursor : CheckpointCursor) (items : List Checkpoint)
    (previous : Option ℕ) : CheckpointGateway.validateItems (query.after cursor) previous items =
      CheckpointGateway.validateItems query previous items := by
  induction items generalizing previous with
  | nil => rfl
  | cons item items ih =>
    unfold CheckpointGateway.validateItems
    rw [ih]
    rfl

theorem validatePage_after (cursor : CheckpointCursor) (page : CheckpointPage) :
    CheckpointGateway.validatePage page (query.after cursor) =
      CheckpointGateway.validatePage page query := by
  unfold CheckpointGateway.validatePage
  rw [validateItems_after]
  rfl

/-- With more fuel than there is to select, the pages are all of it, and valid. -/
theorem pages_of_fits (matched : store.Matched) {count : ℕ} (fits : store.Fits query context)
    (bounded : (store.selected query).length ≤ count) :
    ∃ pages, (∀ fuel, (store.selected query).length < fuel →
        store.pages context fuel query = .ok pages) ∧
      pages.flatMap CheckpointPage.items = store.selected query ∧
      ∀ page ∈ pages, CheckpointGateway.validatePage page query = .ok () := by
  induction count using Nat.strong_induction_on generalizing query with
  | _ count ih =>
    rcases list_of_fits fits with ⟨short, listed⟩ | ⟨last, more, ends, listed⟩
    · refine ⟨[⟨store.selected query, none⟩], ?_, by simp, ?_⟩
      · intro fuel enough
        obtain ⟨fuel, rfl⟩ := Nat.exists_eq_succ_of_ne_zero (by omega : fuel ≠ 0)
        unfold pages
        rw [listed]
        rfl
      · intro page member
        rw [List.mem_singleton.mp member]
        exact validate_page matched (List.prefix_refl _) short fits.provider nofun
    · have left := selected_after matched ends
      have positive := query.bounded.1
      have fewer : (store.selected (query.after (store.cursorAfter query last))).length =
          (store.selected query).length - query.limit := by
        rw [left, List.length_drop]
      obtain ⟨rest, followed, whole, valid⟩ := ih
        (store.selected (query.after (store.cursorAfter query last))).length (by omega)
        (fits_after fits last) (le_refl _)
      refine ⟨⟨(store.selected query).take query.limit, some (store.cursorAfter query last)⟩ :: rest,
        ?_, ?_, ?_⟩
      · intro fuel enough
        obtain ⟨fuel, rfl⟩ := Nat.exists_eq_succ_of_ne_zero (by omega : fuel ≠ 0)
        unfold pages
        rw [listed]
        change (do
          let rest ← store.pages context fuel (query.after (store.cursorAfter query last))
          return _ :: rest) = _
        rw [followed fuel (by omega)]
        rfl
      · rw [List.flatMap_cons, whole, left, List.take_append_drop]
      · intro page member
        rcases List.mem_cons.mp member with rfl | later
        · apply validate_page matched (List.take_prefix _ _) _ fits.provider
          · intro next same
            cases same
            exact ⟨last, rfl⟩
          · rw [List.length_take]
            exact Nat.min_le_left _ _
        · rw [← validatePage_after (store.cursorAfter query last)]
          exact valid page later

end Lists

theorem providerId_apply (store : InMemoryCheckpointStore) (call : Call) :
    (store.apply call).providerId = store.providerId := by
  cases call with
  | save checkpoint context =>
    change (store.save checkpoint context).2.providerId = store.providerId
    rcases store.save_cases checkpoint context with ⟨error, failed⟩ | ⟨_, resaved | saved⟩
    · rw [failed]
    · obtain ⟨_, _, _, same⟩ := resaved
      rw [same]
    · obtain ⟨_, _, inserted⟩ := saved
      rw [inserted]
  | delete request context =>
    change (store.delete request context).2.providerId = store.providerId
    rcases store.delete_cases request context with same | ⟨checkpoint, _, _, erased⟩
    · rw [same]
    · rw [erased]

theorem providerId_applyAll (store : InMemoryCheckpointStore) (calls : List Call) :
    (store.applyAll calls).providerId = store.providerId := by
  induction calls generalizing store with
  | nil => rfl
  | cons call calls ih => exact (ih (store.apply call)).trans (providerId_apply store call)

end Listing

section Sample

open SampleParameters

def sampleQuery : CheckpointQuery where
  providerId := ⟨"store-1", by decide⟩
  runId := sampleRunId
  scope := sampleScope
  graphVersion := none
  limit := 1
  cursor := none
  bounded := ⟨by decide, by decide, nofun⟩

end Sample

end InMemoryCheckpointStore

end CongeriesCore
