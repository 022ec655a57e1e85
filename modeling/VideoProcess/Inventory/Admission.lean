import VideoProcess.Inventory.Assessment
import VideoProcess.Inventory.HistoryLaws

namespace VideoProcess.Inventory

open Data GoText ChannelOps Program List

/-! What the admission of an item says. -/

section

variable {α β : Type} {state : OwnedTickState} {reason : String} {passed : Bool} {result : Unit}

theorem holdUnless_eq_ok (done : state.holdUnless reason passed = .ok result) : passed = true := by
  cases passed with
  | false => cases done
  | true => rfl

theorem skipUnless_eq_ok (done : state.skipUnless reason passed = .ok result) : passed = true := by
  cases passed with
  | false => cases done
  | true => rfl

theorem demand_eq_ok (done : state.demand reason found = .ok value) : found = some value := by
  cases found with
  | none => cases done
  | some =>
    cases done
    rfl

theorem recovered_eq_ok (done : state.recovered outcome = .ok value) : outcome = .ok value := by
  cases outcome with
  | error => cases done
  | ok =>
    cases done
    rfl

def Spares (outcome : Assess α) : Prop := ∀ state, outcome = .error state → state.candidate = none

theorem spares_pure (value : α) : Spares (pure value : Assess α) := by
  intro state failed
  cases failed

theorem spares_bind (spares : Spares first) (continued : ∀ value, Spares (rest value)) :
  Spares (first >>= rest) := by
  intro state failed
  cases first with
  | error =>
    cases failed
    exact spares state rfl
  | ok value => exact continued value state failed

theorem spares_held : Spares (.error (state.held reason) : Assess α) := by
  rintro _ ⟨⟩
  rfl

theorem spares_skipped : Spares (.error (state.skipped reason) : Assess α) := by
  rintro _ ⟨⟩
  rfl

theorem spares_holdUnless : Spares (state.holdUnless reason passed) := by
  cases passed with
  | false => exact spares_held
  | true => exact spares_pure ()

theorem spares_skipUnless : Spares (state.skipUnless reason passed) := by
  cases passed with
  | false => exact spares_skipped
  | true => exact spares_pure ()

theorem spares_demand : Spares (state.demand reason found) := by
  cases found with
  | none => exact spares_held
  | some value => exact spares_pure value

theorem spares_recovered : Spares (state.recovered outcome) := by
  cases outcome with
  | error => exact spares_held
  | ok value => exact spares_pure value

theorem spares_foldlM {items : List α} {first : β}
  (spares : ∀ before item, Spares (step before item)) :
  Spares (items.foldlM step first) := by
  induction items generalizing first with
  | nil => exact spares_pure first
  | cons item _ ih =>
    rw [foldlM_cons]
    exact spares_bind (spares first item) fun after => ih

end

section

variable {go : Library} {judges : Judges} {channel : ChannelProfile}
  {data : OwnedInventoryData} {now starts expires : Instant} {row : Row}
  {input : OwnedInventoryInput} {scan : Scan}

theorem spares_scanState : Spares (scanState go starts expires now input scan) := by
  unfold scanState
  dsimp only
  split
  · exact spares_bind spares_holdUnless fun _ => spares_pure _
  split
  · exact spares_bind spares_holdUnless fun _ =>
      spares_bind spares_holdUnless fun _ => spares_pure _
  split
  · exact spares_held
  · exact spares_held

theorem spares_scanItem {entry : OwnedInventoryInput × Nat} :
  Spares (scanItem go channel row starts expires now scan entry) :=
  spares_bind spares_holdUnless fun _ =>
    spares_bind spares_holdUnless fun _ =>
    spares_bind spares_demand fun _ =>
    spares_bind spares_demand fun _ =>
    spares_bind spares_holdUnless fun _ => spares_scanState

theorem spares_assessItem {state : OwnedTickState} : Spares (assessItem history state input) :=
  spares_bind spares_holdUnless fun _ => spares_pure _

theorem spares_assessItems :
  Spares (assessItems go judges channel data now a l f configuration snapshot scan) := by
  refine spares_bind spares_recovered fun _ => ?_
  refine spares_bind (spares_foldlM fun _ _ => spares_assessItem) fun state => ?_
  refine spares_bind spares_skipUnless fun _ => ?_
  cases scan.selected with
  | none => exact spares_skipped
  | some => exact spares_bind spares_skipUnless fun _ => spares_pure _

theorem spares_assessInventory : Spares (assessInventory go judges channel data now) :=
  spares_bind spares_holdUnless fun _ =>
    spares_bind spares_skipUnless fun _ =>
    spares_bind spares_holdUnless fun _ =>
    spares_bind spares_demand fun _ =>
    spares_bind spares_demand fun _ =>
    spares_bind spares_holdUnless fun _ =>
    spares_bind spares_holdUnless fun _ =>
    spares_bind spares_skipUnless fun _ =>
    spares_bind spares_holdUnless fun _ =>
    spares_bind spares_recovered fun _ =>
    spares_bind spares_demand fun _ =>
    spares_bind spares_holdUnless fun _ =>
    spares_bind spares_holdUnless fun _ =>
    spares_bind (spares_foldlM fun _ _ => spares_scanItem) fun _ =>
    spares_bind spares_holdUnless fun _ =>
    spares_bind spares_holdUnless fun _ => spares_assessItems

end

namespace OwnedInventoryInput

variable (input : OwnedInventoryInput)

def ordinal : Int := ownedInt (input.item.field "ordinal")

def InState (state : String) : Prop := input.item.field "state" = .string state

def Consumed : Prop := input.InState "reserved" ∨ input.InState "completed"

def isReserved : Bool := isText (input.item.field "state") "reserved"

end OwnedInventoryInput

structure Scanned (first : OwnedTickState)
  (front : List (OwnedInventoryInput × Nat)) (scan : Scan) : Prop where
  state : scan.state = { first with consumedCount := scan.state.consumedCount }
  ordinals : ∀ entry ∈ front, entry.1.ordinal = (entry.2 : Int) + 1
  shape : ∃ used unused, front.map Prod.fst = used ++ unused ∧ (∀ input ∈ used, input.Consumed) ∧
    (∀ input ∈ unused, input.InState "unused") ∧
    scan.selected = unused.head? ∧ scan.state.consumedCount = used.length
  reserved : scan.reserved = (front.map Prod.fst).countP OwnedInventoryInput.isReserved

section

variable {go : Library} {channel : ChannelProfile} {row : Row} {starts expires now : Instant}
  {scan after : Scan} {entry : OwnedInventoryInput × Nat} {input : OwnedInventoryInput}

theorem scanState_cases (done : scanState go starts expires now input scan = .ok after) :
  input.InState "unused" ∧ after = { scan with selected := some (scan.selected.getD input) } ∨
    input.Consumed ∧ scan.selected = none ∧ after = { scan with
      state := { scan.state with
        consumedCount := scan.state.consumedCount + 1 }
      reserved := if input.isReserved then scan.reserved + 1
        else scan.reserved } := by
  unfold scanState at done
  dsimp only at done
  split at done
  next unused =>
    obtain ⟨_, -, done⟩ := bind_eq_ok done
    cases done
    exact .inl ⟨isText_iff.1 unused, rfl⟩
  split at done
  next consumed =>
    obtain ⟨_, alone, done⟩ := bind_eq_ok done
    obtain ⟨_, -, done⟩ := bind_eq_ok done
    cases done
    rw [Bool.or_eq_true, isText_iff, isText_iff] at consumed
    exact .inr ⟨consumed, Option.isNone_iff_eq_none.1 (holdUnless_eq_ok alone), rfl⟩
  split at done <;> cases done

theorem scanItem_eq_ok (done : scanItem go channel row starts expires now scan entry = .ok after) :
  entry.1.ordinal = (entry.2 : Int) + 1 ∧ ∃ entries assets contents seeds,
    scanState go starts expires now entry.1 { scan with
      entries := entries
      assets := assets
      contents := contents
      seeds := seeds } = .ok after := by
  obtain ⟨_, bound, done⟩ := bind_eq_ok done
  obtain ⟨_, -, done⟩ := bind_eq_ok done
  obtain ⟨_, -, done⟩ := bind_eq_ok done
  obtain ⟨_, -, done⟩ := bind_eq_ok done
  obtain ⟨_, -, done⟩ := bind_eq_ok done
  have binding := holdUnless_eq_ok bound
  simp only [scanBinding, Bool.and_eq_true, decide_eq_true_eq] at binding
  exact ⟨binding.1.1.1.1.1.1.1.1.1.1.1.1.1, _, _, _, _, done⟩

theorem isReserved_of_unused (unused : input.InState "unused") : input.isReserved = false := by
  unfold OwnedInventoryInput.isReserved
  rw [unused]
  rfl

variable {first : OwnedTickState}

theorem Scanned.step (scanned : Scanned first front scan)
  (done : scanItem go channel row starts expires now scan entry = .ok after) :
  Scanned first (front ++ [entry]) after := by
  obtain ⟨ordinal, _, _, _, _, done⟩ := scanItem_eq_ok done
  obtain ⟨used, unused, items, consumed, idle, selected, count⟩ := scanned.shape
  have ordinals : ∀ other ∈ front ++ [entry], other.1.ordinal = (other.2 : Int) + 1 := by
    intro other member
    rcases mem_append.1 member with early | last
    · exact scanned.ordinals other early
    · rw [mem_singleton.1 last]
      exact ordinal
  have counted := scanned.reserved
  rcases scanState_cases done with ⟨new, rfl⟩ | ⟨taken, alone, rfl⟩
  · refine ⟨scanned.state, ordinals, ⟨used, unused ++ [entry.1], ?_, consumed, ?_, ?_, count⟩, ?_⟩
    · rw [map_append, items, append_assoc]
      rfl
    · intro input member
      rcases mem_append.1 member with early | last
      · exact idle input early
      · rw [mem_singleton.1 last]
        exact new
    · dsimp only
      rw [selected]
      cases unused <;> rfl
    · dsimp only
      rw [map_append, countP_append, ← counted, map_singleton,
        countP_singleton, isReserved_of_unused new]
      rfl
  · -- Nothing was unused so far.
    have empty : unused = [] := head?_eq_none_iff.1 (selected ▸ alone)
    subst empty
    refine ⟨?_, ordinals, ⟨used ++ [entry.1], [], ?_, ?_, by simp, alone, ?_⟩, ?_⟩
    · dsimp only
      rw [scanned.state]
    · rw [map_append, items]
      simp
    · intro input member
      rcases mem_append.1 member with early | last
      · exact consumed input early
      · rw [mem_singleton.1 last]
        exact taken
    · simp [count]
    · dsimp only
      rw [map_append, countP_append, ← counted, map_singleton, countP_singleton]
      split <;> rfl

theorem scanned_of_foldlM {items : List (OwnedInventoryInput × Nat)}
  (done : items.foldlM (scanItem go channel row starts expires now)
    ⟨first, [], [], [], [], none, 0⟩ = .ok scan)
  (fresh : first.consumedCount = 0) : Scanned first items scan := by
  refine foldlM_rule (Scanned first) ?_ ?_ done
  · exact ⟨rfl, by simp, ⟨[], [], rfl, by simp, by simp, rfl, fresh⟩, rfl⟩
  · intro front entry before after scanned stepped
    exact scanned.step stepped

end

section

variable {go : Library} {judges : Judges} {channel : ChannelProfile}
  {data : OwnedInventoryData} {now : Instant} {state : OwnedTickState}
  {before after first : OwnedTickState}

theorem assessItem_eq_ok (done : assessItem history before input = .ok after) :
  after = { before with completeItemIDs := after.completeItemIDs } := by
  obtain ⟨_, -, done⟩ := bind_eq_ok done
  cases done
  rfl

variable {items : List OwnedInventoryInput}

theorem assessItem_foldlM (done : items.foldlM (assessItem history) before = .ok after) :
  after = { before with completeItemIDs := after.completeItemIDs } := by
  refine foldlM_rule (fun _ after =>
    after = { before with completeItemIDs := after.completeItemIDs }) rfl ?_ done
  intro _ input middle after held stepped
  rw [assessItem_eq_ok stepped, held]

structure Chosen (go : Library) (judges : Judges) (channel : ChannelProfile)
  (data : OwnedInventoryData) (now : Instant)
  (snapshot : OwnedHistorySnapshot) (scan : Scan)
  (selected : OwnedInventoryInput) (state : OwnedTickState) : Prop where
  selects : scan.selected = some selected
  assessed : ∃ history, assessHistory go judges snapshot now "" = .ok history ∧
    history.waitReason = none
  holdReason : state.holdReason = scan.state.holdReason
  skipReason : state.skipReason = scan.state.skipReason
  consumedCount : state.consumedCount = scan.state.consumedCount
  candidate : ∃ a l f before configuration,
    state.candidate = some (ownedCandidate channel data.inventory a l f before
      configuration selected)

variable {scan : Scan}

theorem assessItems_eq_ok
  (done : assessItems go judges channel data now a l f configuration snapshot scan = .ok state) :
  ∃ selected, Chosen go judges channel data now snapshot scan selected state := by
  obtain ⟨_, unblocked, done⟩ := bind_eq_ok done
  obtain ⟨before, noted, done⟩ := bind_eq_ok done
  obtain ⟨_, unhurried, done⟩ := bind_eq_ok done
  have idle := Option.isNone_iff_eq_none.1 (skipUnless_eq_ok unhurried)
  have free := refuse_eq_ok (recovered_eq_ok unblocked)
  have same := assessItem_foldlM noted
  cases found : scan.selected with
  | none =>
    rw [found] at done
    cases done
  | some selected =>
    rw [found] at done
    obtain ⟨_, -, done⟩ := bind_eq_ok done
    cases done
    refine ⟨selected, found, ⟨_, assessOwnedHistory_eq_ok free, idle⟩, ?_, ?_,
      ?_, ⟨a, l, f, before, configuration, rfl⟩⟩
    all_goals
      dsimp only
      rw [same]

structure InWindow (go : Library) (row : Row) (now starts expires : Instant) : Prop where
  starts_at : go.ownedTime (row.field "starts_at") = some starts
  expires_at : go.ownedTime (row.field "expires_at") = some expires
  length : expires = starts + 168 * hour
  started : starts ≤ now
  running : now < expires

theorem eq_add_of_sub {later : Int} (apart : sub later earlier = 168 * hour) :
  later = earlier + 168 * hour := by
  unfold sub hour at apart
  unfold hour
  omega

structure Assessed (go : Library) (judges : Judges) (channel : ChannelProfile)
  (data : OwnedInventoryData) (now : Instant) (state : OwnedTickState)
  (snapshot : OwnedHistorySnapshot) (scan : Scan)
  (selected : OwnedInventoryInput) : Prop where
  approved : data.inventory.field "state" = .string "approved"
  window : ∃ starts expires, InWindow go data.inventory now starts expires
  history : data.history = some snapshot
  seven : data.items.length = 7
  scanned : Scanned (.initial (ownedString (data.inventory.field "id"))) data.items.zipIdx scan
  reserved : scan.reserved ≤ 1
  chosen : Chosen go judges channel data now snapshot scan selected state

theorem ownedHistoryProductionTarget_eq_ok
  (done : ownedHistoryProductionTarget go judges data now = .ok snapshot) :
  data.history = some snapshot := by
  unfold ownedHistoryProductionTarget at done
  split at done
  · cases done
  next found =>
    obtain ⟨_, -, done⟩ := bind_eq_ok done
    obtain ⟨_, -, done⟩ := bind_eq_ok done
    obtain ⟨_, -, done⟩ := bind_eq_ok done
    obtain ⟨_, -, done⟩ := bind_eq_ok done
    obtain ⟨_, -, done⟩ := bind_eq_ok done
    obtain ⟨_, -, done⟩ := bind_eq_ok done
    cases done
    exact found

theorem assessInventory_eq_ok (done : assessInventory go judges channel data now = .ok state) :
  ∃ snapshot scan selected, Assessed go judges channel data now state snapshot scan selected := by
  obtain ⟨_, -, done⟩ := bind_eq_ok done
  obtain ⟨_, approved, done⟩ := bind_eq_ok done
  obtain ⟨_, -, done⟩ := bind_eq_ok done
  obtain ⟨starts, starting, done⟩ := bind_eq_ok done
  obtain ⟨expires, expiring, done⟩ := bind_eq_ok done
  obtain ⟨_, week, done⟩ := bind_eq_ok done
  obtain ⟨_, running, done⟩ := bind_eq_ok done
  obtain ⟨_, started, done⟩ := bind_eq_ok done
  obtain ⟨_, -, done⟩ := bind_eq_ok done
  obtain ⟨snapshot, target, done⟩ := bind_eq_ok done
  obtain ⟨_, -, done⟩ := bind_eq_ok done
  obtain ⟨_, -, done⟩ := bind_eq_ok done
  obtain ⟨_, seven, done⟩ := bind_eq_ok done
  obtain ⟨scan, scanned, done⟩ := bind_eq_ok done
  obtain ⟨_, -, done⟩ := bind_eq_ok done
  obtain ⟨_, single, done⟩ := bind_eq_ok done
  obtain ⟨selected, chosen⟩ := assessItems_eq_ok done
  exact ⟨snapshot, scan, selected,
    { approved := isText_iff.1 (skipUnless_eq_ok approved)
      window := ⟨starts, expires, demand_eq_ok starting, demand_eq_ok expiring,
        eq_add_of_sub (of_decide_eq_true (holdUnless_eq_ok week)),
        of_decide_eq_true (skipUnless_eq_ok started),
        of_decide_eq_true (holdUnless_eq_ok running)⟩
      history := ownedHistoryProductionTarget_eq_ok (recovered_eq_ok target)
      seven := of_decide_eq_true (holdUnless_eq_ok seven)
      scanned := scanned_of_foldlM scanned rfl
      reserved := of_decide_eq_true (holdUnless_eq_ok single)
      chosen := chosen }⟩

theorem assessOwnedInventory_eq_ok
  (admitted : (assessOwnedInventory go judges channel data now).candidate = some candidate) :
  assessInventory go judges channel data now =
    .ok (assessOwnedInventory go judges channel data now) := by
  unfold assessOwnedInventory at admitted ⊢
  split at admitted
  next found => rw [found]
  next state found =>
    rw [spares_assessInventory state found] at admitted
    cases admitted

theorem Scanned.ordinal_getElem (scanned : Scanned first items.zipIdx scan) (index : Nat)
  (bounded : index < items.length) :
  (items[index]).ordinal = (index : Int) + 1 :=
  scanned.ordinals (items[index], index)
    (mk_mem_zipIdx_iff_getElem?.2 (getElem?_eq_getElem bounded))

/-- The unused item with the lowest ordinal, with what is before and after. -/
structure IsNext (items : List OwnedInventoryInput) (selected : OwnedInventoryInput) : Prop where
  member : selected ∈ items
  unused : selected.InState "unused"
  before : ∀ input ∈ items, input.ordinal < selected.ordinal → input.Consumed
  after : ∀ input ∈ items, selected.ordinal < input.ordinal → input.InState "unused"

theorem Scanned.isNext (scanned : Scanned first items.zipIdx scan)
  (selects : scan.selected = some selected) :
  IsNext items selected ∧ (scan.state.consumedCount : Int) = selected.ordinal - 1 := by
  obtain ⟨used, unused, whole, consumed, idle, head, _⟩ := scanned.shape
  rw [zipIdx_map_fst] at whole
  obtain ⟨rest, rfl⟩ : ∃ rest, unused = selected :: rest :=
    head?_eq_some_iff.1 (head.symm.trans selects)
  have split (input : OwnedInventoryInput) (member : input ∈ items) :
    input ∈ used ∧ input.ordinal ≤ used.length ∨
      input ∈ selected :: rest ∧ (used.length : Int) < input.ordinal := by
    obtain ⟨index, bounded, rfl⟩ := mem_iff_getElem.1 member
    rw [scanned.ordinal_getElem index bounded]
    subst whole
    by_cases early : index < used.length
    · refine .inl ⟨?_, by omega⟩
      rw [getElem_append_left early]
      exact getElem_mem early
    · refine .inr ⟨?_, by omega⟩
      rw [getElem_append_right (by omega)]
      exact getElem_mem _
  have place : selected.ordinal = (used.length : Int) + 1 := by
    have bounded : used.length < items.length := by
      rw [whole, length_append, length_cons]
      omega
    have ordinal := scanned.ordinal_getElem used.length bounded
    subst whole
    rw [getElem_append_right (Nat.le_refl _)] at ordinal
    simpa using ordinal
  refine ⟨⟨?_, idle selected mem_cons_self, ?_, ?_⟩, by omega⟩
  · rw [whole]
    exact mem_append_right used mem_cons_self
  · intro input member lower
    rcases split input member with ⟨taken, -⟩ | ⟨-, _⟩
    · exact consumed input taken
    · omega
  · intro input member higher
    rcases split input member with ⟨-, _⟩ | ⟨left, -⟩
    · omega
    · exact idle input left

/-- Every task that the platform channel depends on has settled. -/
def HistorySettled (go : Library) (judges : Judges)
  (snapshot : OwnedHistorySnapshot) (now : Instant) : Prop :=
  ∀ task ∈ snapshot.rows.productionTasks, ∀ id, task.field "id" = .string id → id ≠ "" →
    Concerns go judges snapshot now task id → Exempt judges snapshot now task id ∨
      SettledTask go snapshot.rows now task

theorem inventory_admission {candidate : TickCandidate}
  (admitted : (assessOwnedInventory go judges channel data now).candidate = some candidate) :
  let state := assessOwnedInventory go judges channel data now
  state.holdReason = "" ∧ state.skipReason = "" ∧
    data.inventory.field "state" = .string "approved" ∧
    (∃ starts expires, InWindow go data.inventory now starts expires) ∧
    data.items.map OwnedInventoryInput.ordinal = [1, 2, 3, 4, 5, 6, 7] ∧
    (∃ selected, IsNext data.items selected ∧ (state.consumedCount : Int) = selected.ordinal - 1 ∧
      ∃ a l f before configuration, candidate = ownedCandidate channel
        data.inventory a l f before configuration selected) ∧
    data.items.countP OwnedInventoryInput.isReserved ≤ 1 ∧
    ∃ snapshot, data.history = some snapshot ∧ HistorySettled go judges snapshot now := by
  intro state
  obtain ⟨snapshot, _, selected, assessed⟩ :=
    assessInventory_eq_ok (assessOwnedInventory_eq_ok admitted)
  obtain ⟨approved, window, history, seven, scanned, single, chosen⟩ := assessed
  obtain ⟨next, place⟩ := scanned.isNext chosen.selects
  have ordinals : data.items.map OwnedInventoryInput.ordinal = [1, 2, 3, 4, 5, 6, 7] := by
    refine ext_getElem (by simp [seven]) ?_
    intro index first second
    rw [getElem_map, scanned.ordinal_getElem]
    exact (by decide : ∀ index : Fin 7,
      (index.1 : Int) + 1 = [1, 2, 3, 4, 5, 6, 7].get index) ⟨index, second⟩
  refine ⟨?_, ?_, approved, window, ordinals, ⟨selected, next, ?_, ?_⟩, ?_, snapshot, history, ?_⟩
  · rw [chosen.holdReason, scanned.state]
    rfl
  · rw [chosen.skipReason, scanned.state]
    rfl
  · rw [chosen.consumedCount, place]
  · obtain ⟨a, l, f, before, configuration, same⟩ := chosen.candidate
    exact ⟨a, l, f, before, configuration, Option.some.inj (admitted.symm.trans same)⟩
  · rw [← zipIdx_map_fst 0 data.items, ← scanned.reserved]
    exact single
  · obtain ⟨_, done, idle⟩ := chosen.assessed
    intro task member id identity named concerns
    exact assessHistory_settled done idle member identity named concerns

end

namespace Sample

/-- All values have the same hash here: nothing below is about hashes. -/
def library : Library where
  canonical _ := some ""
  sha256 := id
  parseOwnedTime value :=
    if value = "first" then some 0
    else if value = "eighth" then some (168 * hour) else none
  ownedISO instant := if instant = 0 then "first" else "eighth"
  parseHistoryTime _ := none
  historyZ _ := ""
  parseFloat _ := none
  weight := some
  pathClean := id

def judges : Judges where
  decodeOwnedHistoryManifest _ := some 1
  historyApprovedAuthority _ _ := .ok ⟨[], none, []⟩
  historyApprovedRetainedTerminal _ _ _ := .ok []
  historyAssessRetired _ _ _ := .ok ⟨[], [], []⟩

def channel : ChannelProfile := ⟨"channel", some "inventory", 1, none⟩

def platformChannelID : String := "UC0123456789012345678901"

def total (names : List String) (given : Row) : Row :=
  names.map fun name => (name, given.field name)

def bindings : Row :=
  let given : List (String × Row) := [
    ("channel", [("id", .string "channel"), ("enabled", .bool true), ("dry_run", .bool false)]),
    ("account", [("id", .string "account"), ("channel_profile_id", .string "channel"),
      ("platform", .string "youtube"),
      ("platform_account_id", .string platformChannelID),
      ("enabled", .bool true), ("default_privacy", .string "unlisted"),
      ("external_asset_auto_publish", .bool false)]),
    ("lane", [("id", .string "lane"), ("channel_profile_id", .string "channel"),
      ("enabled", .bool true)]),
    ("format", [("id", .string "format"), ("topic_lane_id", .string "lane"),
      ("enabled", .bool true), ("source_platforms_json", .array []),
      ("default_publish_visibility", .string "unlisted")])]
  configurationFields.map fun entry => (entry.1, .object (total entry.2
    (((given.find? fun other => other.1 = entry.1).map Prod.snd).getD [])))

def asset (index : Nat) : Row := [
  ("id", .string s!"asset {index}"), ("storage_backend", .string "local"),
  ("storage_path", .string s!"assets/{index}"), ("file_size", smallNumber 1),
  ("mime_type", .string "video/mp4"),
  ("media_info", .object [("license", .string "owned"), ("provenance", .string "generated")])]

def seed (index : Nat) : Row := [
  ("id", .string s!"seed {index}"), ("channel_profile_id", .string "channel"),
  ("topic_lane_id", .string "lane"), ("target_account_id", .string "account"),
  ("prompt", .string "a song"), ("title_seed", .string "Song"),
  ("source_policy", .string "owned_only"),
  ("source_platforms_json", .array []),
  ("material_library_ids_json", .array []),
  ("constraints_json", .object [
    ("input_asset_id", .string s!"asset {index}"),
    ("source_strategy", .string "input_video"),
    ("planning_mode", .string "template")]),
  ("status", .string "active")]

def content (index : Nat) : String := String.ofList (replicate 63 'a' ++ [Nat.digitChar index])

def item (index : Nat) : Row := [
  ("id", .string s!"item {index}"), ("inventory_id", .string "inventory"),
  ("ordinal", smallNumber index), ("state", .string "unused"),
  ("platform_channel_id", .string platformChannelID),
  ("asset_id", .string s!"asset {index}"),
  ("manual_seed_id", .string s!"seed {index}"),
  ("content_sha256", .string (content index)),
  ("byte_size", smallNumber 1),
  ("provenance_evidence_json", .object [("rights", .string "owned"),
    ("provenance", .string "generated")])]

def items : List OwnedInventoryInput :=
  [1, 2, 3, 4, 5, 6, 7].map fun index => ⟨item index, seed index, asset index⟩

def inventory : Row := [
  ("id", .string "inventory"), ("channel_profile_id", .string "channel"),
  ("state", .string "approved"), ("approved_at", .string "first"),
  ("approved_by", .string "owner"), ("approval_reference", .string "letter"),
  ("starts_at", .string "first"), ("expires_at", .string "eighth"),
  ("privacy", .string "unlisted"), ("max_admissions", smallNumber 7),
  ("minimum_interval_seconds", smallNumber 86400),
  ("target_account_id", .string "account"),
  ("platform_channel_id", .string platformChannelID),
  ("topic_lane_id", .string "lane"), ("lane_format_id", .string "format")]

def unnamedTask : Row :=
  [("id", .string ""), ("target_account_id", .string "account"), ("state", .string "producing")]

def failedTask : Row :=
  [("id", .string "failed"), ("target_account_id", .string "account"), ("state", .string "failed")]

def foreignTask : Row :=
  [("id", .string "foreign"), ("target_account_id", .string "foreigner"),
    ("state", .string "producing")]

def foreignItem : Row :=
  [("id", .string "foreign item"), ("production_task_id", .string "foreign"),
    ("platform_channel_id", .string "UC9876543210987654321098")]

def rows : HistoryRows where
  ownedSeedInventories := []
  ownedSeedInventoryItems := [foreignItem]
  manualSeeds := []
  assets := []
  youtubeUploadOperations := []
  productionTasks := [unnamedTask, failedTask, foreignTask]
  publishingAccounts := [[("id", .string "account"), ("platform", .string "youtube"),
    ("platform_account_id", .string platformChannelID)]]
  channelProfiles := []
  jobs := []
  nodeExecutions := []
  artifacts := []
  publicationRecords := []
  publicationMetricSchedules := []
  feedbackSnapshots := []
  channelOpsQueueItems := []

theorem identified_rows : ∀ table ∈ rows.tables, Identified table := by
  decide

def snapshot : OwnedHistorySnapshot := ⟨rows, platformChannelID, hour, identified_rows⟩

def data : OwnedInventoryData where
  inventory := inventory
  bindings := bindings
  items := items
  history := some snapshot
  runtimeOpen := true
  runtimeGuarded := false
  busy := false

theorem admitted : (assessOwnedInventory library judges channel data
  hour).candidate.isSome = true := by
  decide +kernel

theorem isMember_account : IsMember library judges snapshot hour "account" := by
  refine ⟨⟨[], none, []⟩, ["account"], rfl, ?_, by decide⟩
  rfl

theorem not_retained (id : String) : ¬ IsRetained judges snapshot hour id := by
  rintro ⟨_, _, -, kept, _, member, -⟩
  cases kept
  cases member

theorem not_settled (task : Row) : ¬ SettledTask library rows hour task := by
  rintro ⟨_, read, _, _, _, settled⟩
  have none := (historyTask_eq_ok read).2
  rw [settled.operation] at none
  cases none

theorem not_stopped {task : Row} (producing : task.field "state" = .string "producing") :
  ¬ Stopped rows task := by
  rintro ⟨⟨_, listed, same⟩, -⟩
  cases producing.symm.trans same
  exact absurd listed (by decide)

end Sample

/-- The window is open and the first item is next, whatever the task that has
failed. -/
theorem inventory_admission_sample :
  let state := assessOwnedInventory Sample.library Sample.judges
    Sample.channel Sample.data hour
  (∃ starts expires,
    InWindow Sample.library Sample.data.inventory hour starts expires) ∧
    (∃ selected, IsNext Sample.items selected ∧
      (state.consumedCount : Int) = selected.ordinal - 1) ∧
    HistorySettled Sample.library Sample.judges Sample.snapshot hour := by
  obtain ⟨_, admitted⟩ := Option.isSome_iff_exists.1 Sample.admitted
  obtain ⟨-, -, -, window, -, ⟨selected, next, count, -⟩, -, _, history,
    settled⟩ := inventory_admission admitted
  cases history
  exact ⟨window, ⟨selected, next, count⟩, settled⟩

/-- The channel admits an item although the unnamed task, for an account of the
platform channel, and the task with an item of another platform channel have
not uploaded anything yet. -/
theorem inventory_admission_unsettled :
  (assessOwnedInventory Sample.library Sample.judges Sample.channel
    Sample.data hour).candidate.isSome = true ∧
    (∃ task ∈ Sample.rows.productionTasks, task.field "id" = .string "" ∧
      Concerns Sample.library Sample.judges Sample.snapshot hour task "" ∧
      ¬ Exempt Sample.judges Sample.snapshot hour task "" ∧
      ¬ SettledTask Sample.library Sample.rows hour task) ∧
    ∃ task ∈ Sample.rows.productionTasks, task.field "id" = .string "foreign" ∧
      (∃ item ∈ Sample.rows.ownedSeedInventoryItems,
        item.field "production_task_id" = .string "foreign") ∧
      ¬ Exempt Sample.judges Sample.snapshot hour task "foreign" ∧
      ¬ SettledTask Sample.library Sample.rows hour task := by
  refine ⟨Sample.admitted, ⟨Sample.unnamedTask, .head _, rfl, ?_, ?_,
    Sample.not_settled _⟩, ⟨Sample.foreignTask, .tail _ (.tail _ (.head _)),
    rfl, ⟨Sample.foreignItem, .head _, rfl⟩, ?_, Sample.not_settled _⟩⟩
  · exact .inl ⟨"account", rfl, Sample.isMember_account⟩
  · rintro (⟨stopped, -⟩ | retained)
    · exact Sample.not_stopped rfl stopped
    · exact Sample.not_retained "" retained
  · rintro (⟨stopped, -⟩ | retained)
    · exact Sample.not_stopped rfl stopped
    · exact Sample.not_retained "foreign" retained

end VideoProcess.Inventory
