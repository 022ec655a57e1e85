import VideoProcess.Inventory.History

namespace VideoProcess.Inventory

open Data GoText ChannelOps Program

/-! Whether a channel may admit the next item of its owned inventory
(`assessOwnedInventory` of `owned_inventory.go`). -/

structure OwnedInventoryInput where
  (item seed asset : Row)

structure OwnedInventoryData where
  (inventory bindings : Row)
  items : List OwnedInventoryInput
  history : Option OwnedHistorySnapshot
  (runtimeOpen runtimeGuarded busy : Bool)

structure ChannelProfile where
  id : String
  ownedSeedInventoryID : Option String
  tickIntervalMinutes : Int
  intakePausedAt : Option Instant

def ownedFields (row : Row) (names : List String) : Option Row :=
  names.mapM fun name => (row.field? name).map fun value => (name, value)

structure OwnedCandidateAuthority where
  (inventoryID itemID manifestSHA contentSHA assetID seedSHA configurationSHA historySHA : String)
  historyAuthoritySHA : String
  (retiredSourceSHA256 retiredRenderSHA256 : List String)

structure ManualSeed where
  (id channelProfileID topicLaneID targetAccountID prompt titleSeed : String)
  constraintsJSON : Row

structure TopicLane where
  (id channelProfileID name description : String)
  keywordsJSON : List String

structure LaneFormat where
  (id topicLaneID formatKey : String)
  targetDurationSec : Int
  templatePoolJSON : List String

structure PublishingAccount where
  (id channelProfileID platformAccountID : String)

structure TickCandidate where
  candidateID : String
  seed : ManualSeed
  lane : TopicLane
  laneFormat : LaneFormat
  account : PublishingAccount
  owned : OwnedCandidateAuthority

structure OwnedTickState where
  (inventoryID holdReason skipReason historySHA unusedItemID : String)
  candidate : Option TickCandidate
  completeItemIDs : List String
  consumedCount : Nat
  historyAuthoritySHA : String
  (retiredSourceSHA256 retiredRenderSHA256 : List String)

def OwnedTickState.initial (inventoryID : String) : OwnedTickState :=
  ⟨inventoryID, "", "", "", "", none, [], 0, "", [], []⟩

/-- The assessment ends early when it holds or skips. -/
abbrev Assess (α : Type) := Except OwnedTickState α

namespace OwnedTickState

variable (state : OwnedTickState)

section

variable (reason : String)

def held : OwnedTickState :=
  { state with holdReason := reason, candidate := none }

def skipped : OwnedTickState :=
  { state with skipReason := reason, candidate := none }

def holdUnless (passed : Bool) : Assess Unit :=
  if passed then .ok () else .error (state.held reason)

def skipUnless (passed : Bool) : Assess Unit :=
  if passed then .ok () else .error (state.skipped reason)

end

def demand {α : Type} (reason : String) : Option α → Assess α
  | some value => .ok value
  | none => .error (state.held reason)

def recovered {α : Type} : Except String α → Assess α
  | .ok value => .ok value
  | .error reason => .error (state.held reason)

end OwnedTickState

section

variable (go : Library) (judges : Judges)

namespace Library

def ownedEqual (left right : Json) : Bool :=
  match go.canonical left, go.canonical right with
  | some first, some second => first = second
  | _, _ => false

def ownedHash (value : Json) : Option String := (go.canonical value).map go.sha256

def ownedHasHash (value expected : Json) : Bool := go.ownedHash value = some (ownedString expected)

end Library

/-- The fields of the four rows that a manifest is bound to. -/
def configurationFields : List (String × List String) :=
  [("channel", ["id", "config_version", "name", "positioning", "language",
    "default_aspect_ratio", "risk_policy_json", "content_mix_policy_json",
    "cadence_policy_json", "alert_policy_json", "enabled", "dry_run"]),
    ("account", ["id", "channel_profile_id", "platform", "platform_account_id",
      "credential_ref", "platform_specific_config_json", "default_privacy",
      "external_asset_auto_publish", "enabled", "paused_until"]),
    ("lane", ["id", "channel_profile_id", "name", "description", "weight",
      "keywords_json", "negative_keywords_json", "min_posts_per_week",
      "max_posts_per_day", "max_consecutive_streak",
      "cooldown_after_post_minutes", "enabled", "paused_until"]),
    ("format", ["id", "topic_lane_id", "format_key", "enabled", "weight",
      "target_duration_sec", "template_pool_json", "source_platforms_json",
      "default_publish_visibility"])]

def withWeight (row : Row) : Option Row :=
  (go.weight (row.field "weight")).map fun weight =>
    row.map fun entry => if entry.1 = "weight" then ("weight", weight) else entry

def ownedConfiguration (bindings : Row) : Option Row :=
  configurationFields.mapM fun entry => do
    let row ← ownedFields (ownedMap (bindings.field entry.1)) entry.2
    let row ← if entry.1 = "lane" ∨ entry.1 = "format" then withWeight go row
      else some row
    some (entry.1, .object row)

def startsWith (start text : String) : Bool := start.toList.isPrefixOf text.toList

def ownedAssetDescriptor (asset : Row) : Option Json :=
  let storagePath := ownedString (asset.field "storage_path")
  let size := ownedInt (asset.field "file_size")
  let info := ownedMap (asset.field "media_info")
  if !startsWith "assets/" storagePath || go.pathClean storagePath ≠ storagePath
    || storagePath.toList.any (fun char => char = '\\' || char.toNat = 0) then
    none
  else if !isText (asset.field "storage_backend") "local" &&
    !isText (asset.field "storage_backend") "minio" then none
  else if size ≤ 0 || size > 64 * 1024 * 1024 ||
    !startsWith "video/" (ownedString (asset.field "mime_type")) then none
  else if !isText (info.field "license") "owned" ||
    !isText (info.field "provenance") "generated" then none
  else do
    let descriptor ← ownedFields asset ["id", "storage_backend",
      "storage_path", "file_size", "mime_type"]
    let hash ← go.ownedHash (.object (info.filter fun entry =>
      entry.1 ≠ "license" ∧ entry.1 ≠ "provenance"))
    some (.object (descriptor ++ [("media_info_sha256", .string hash)]))

def ownedHistoryProductionTarget (data : OwnedInventoryData) (now : Instant) :
  Except String OwnedHistorySnapshot := do
  match data.history with
  | none => .error "owned_history_snapshot_missing"
  | some history => do
    historyRequire "owned_history_snapshot_scope" [.ok (isText
      (data.inventory.field "platform_channel_id") history.platformChannelID)]
    let authority ← judges.historyApprovedAuthority history.rows now
    let target := data.inventory.field "target_account_id"
    let channel := data.inventory.field "channel_profile_id"
    historyRequire "owned_inventory_history_target"
      (authority.bindings.map fun binding => .ok (!isText target binding.1 &&
        !identical (binding.2.field "legacy_channel_profile_id") channel))
    historyRequire "owned_inventory_history_target"
      (authority.certificate.toList.map fun certificate => .ok (
        !identical (certificate.field "legacy_account_id") target &&
        !identical (certificate.field "legacy_channel_profile_id") channel))
    let production ← Retention.historySelect (fun account => do
      let id ← historyString (account.field "id")
      let youtube ← go.onYouTube account
      pure (youtube && identical (account.field "platform_account_id")
        (data.inventory.field "platform_channel_id") &&
        !authority.bindings.any fun binding => binding.1 = id))
      history.rows.publishingAccounts
    historyRequire "owned_inventory_account_alias" [.ok (
      production.map (fun account => identical (account.field "id") target) = [true])]
    pure history

variable (channel : ChannelProfile)

def boundConfiguration (row c a l f : Row) : Bool :=
  isText (c.field "id") channel.id && identical (c.field "enabled") (.bool true) &&
    identical (c.field "dry_run") (.bool false) &&
    identical (a.field "id") (row.field "target_account_id") &&
    isText (a.field "channel_profile_id") channel.id &&
    identical (a.field "platform_account_id") (row.field "platform_channel_id") &&
    (isText (a.field "platform") "youtube" || isText (a.field "platform") "" ||
      isNull (a.field "platform")) &&
    identical (a.field "enabled") (.bool true) &&
    isNull (a.field "paused_until") &&
    isText (a.field "default_privacy") "unlisted" &&
    identical (a.field "external_asset_auto_publish") (.bool false) &&
    identical (l.field "id") (row.field "topic_lane_id") &&
    isText (l.field "channel_profile_id") channel.id &&
    identical (l.field "enabled") (.bool true) &&
    isNull (l.field "paused_until") &&
    identical (f.field "id") (row.field "lane_format_id") &&
    identical (f.field "topic_lane_id") (l.field "id") &&
    identical (f.field "enabled") (.bool true) &&
    isText (f.field "default_publish_visibility") "unlisted" &&
    go.ownedEqual (f.field "source_platforms_json") (.array [])

def validOwnedHash (text : String) : Bool := isSHA text

structure Scan where
  state : OwnedTickState
  entries : List Json
  (assets contents seeds : List String)
  selected : Option OwnedInventoryInput
  reserved : Nat

def scanBinding (row : Row) (scan : Scan) (index : Nat) (item seed : Row) : Bool :=
  let content := ownedString (item.field "content_sha256")
  let seedID := ownedString (item.field "manual_seed_id")
  ownedInt (item.field "ordinal") = (index : Int) + 1 &&
    isText (item.field "inventory_id") scan.state.inventoryID &&
    identical (item.field "platform_channel_id") (row.field "platform_channel_id") &&
    ownedString (item.field "asset_id") ∉ scan.assets &&
    content ∉ scan.contents && seedID ∉ scan.seeds && validOwnedHash content &&
    isText (seed.field "id") seedID &&
    isText (seed.field "channel_profile_id") channel.id &&
    identical (seed.field "target_account_id") (row.field "target_account_id") &&
    identical (seed.field "topic_lane_id") (row.field "topic_lane_id") &&
    isText (seed.field "source_policy") "owned_only" &&
    go.ownedEqual (seed.field "source_platforms_json") (.array []) &&
    go.ownedEqual (seed.field "material_library_ids_json") (.array [])

def scanSeed (item seed : Row) : Option Row :=
  (ownedFields seed ["id", "channel_profile_id", "topic_lane_id",
    "target_account_id", "prompt", "title_seed", "source_policy",
    "source_platforms_json", "material_library_ids_json",
    "constraints_json"]).filter fun binding =>
      go.ownedHasHash (.object binding) (item.field "seed_sha256")

def scanAsset (item asset : Row) : Option Json :=
  (ownedAssetDescriptor go asset).filter fun descriptor =>
    isText (asset.field "id") (ownedString (item.field "asset_id")) &&
      go.ownedEqual descriptor (item.field "storage_descriptor_json") &&
      ownedInt (item.field "byte_size") = ownedInt (asset.field "file_size")

def scanEntry (item seed : Row) (descriptor : Json) : Json :=
  .object [("id", item.field "id"), ("ordinal", item.field "ordinal"),
    ("asset_id", .string (ownedString (item.field "asset_id"))),
    ("manual_seed_id", .string (ownedString (item.field "manual_seed_id"))),
    ("content_sha256", .string (ownedString (item.field "content_sha256"))),
    ("byte_size", item.field "byte_size"), ("storage_descriptor", descriptor),
    ("provenance_evidence", .object (ownedMap (item.field "provenance_evidence_json"))),
    ("provenance_sha256", item.field "provenance_sha256"),
    ("seed_sha256", item.field "seed_sha256"),
    ("prompt", seed.field "prompt"), ("title_seed", seed.field "title_seed")]

/-- Consumed items come first, and are consumed in the window. -/
def scanState (starts expires now : Instant) (input : OwnedInventoryInput)
  (scan : Scan) : Assess Scan :=
  let item := input.item
  let state := scan.state
  if isText (item.field "state") "unused" then do
    state.holdUnless "owned_inventory_consumption" (
      isNull (item.field "production_task_id") && isNull (item.field "consumed_at") &&
        isText (input.seed.field "status") "active")
    pure { scan with selected := some (scan.selected.getD input) }
  else if isText (item.field "state") "reserved" || isText (item.field "state") "completed" then do
    state.holdUnless "owned_inventory_ordinal_gap" scan.selected.isNone
    state.holdUnless "owned_inventory_consumption" (
      (go.ownedTime (item.field "consumed_at")).any (fun consumed =>
        starts ≤ consumed && consumed < expires && consumed ≤ now) &&
      uuidPattern (ownedString (item.field "production_task_id")).toList &&
      isText (input.seed.field "status") "exhausted")
    pure { scan with
      state := { state with consumedCount := state.consumedCount + 1 }
      reserved := if isText (item.field "state") "reserved"
        then scan.reserved + 1 else scan.reserved }
  else if isText (item.field "state") "held" then
    .error (state.held "owned_inventory_item_held")
  else .error (state.held "owned_inventory_item_state")

def scanItem (row : Row) (starts expires now : Instant) (scan : Scan)
  (entry : OwnedInventoryInput × Nat) : Assess Scan := do
  let item := entry.1.item
  let seed := entry.1.seed
  let state := scan.state
  state.holdUnless "owned_inventory_item_binding"
    (scanBinding go channel row scan entry.2 item seed)
  let constraints := ownedMap (seed.field "constraints_json")
  state.holdUnless "owned_inventory_seed_binding" (
    isText (constraints.field "input_asset_id") (ownedString (item.field "asset_id")) &&
    isText (constraints.field "source_strategy") "input_video" &&
    isText (constraints.field "planning_mode") "template")
  let _ ← state.demand "owned_inventory_seed_changed" (scanSeed go item seed)
  let descriptor ← state.demand "owned_inventory_asset_changed"
    (scanAsset go item entry.1.asset)
  let provenance := ownedMap (item.field "provenance_evidence_json")
  state.holdUnless "owned_inventory_provenance_changed" (
    isText (provenance.field "rights") "owned" &&
    isText (provenance.field "provenance") "generated" &&
    go.ownedHasHash (.object provenance) (item.field "provenance_sha256"))
  scanState go starts expires now entry.1 { scan with
    entries := scan.entries ++ [scanEntry item seed descriptor]
    assets := ownedString (item.field "asset_id") :: scan.assets
    contents := ownedString (item.field "content_sha256") :: scan.contents
    seeds := ownedString (item.field "manual_seed_id") :: scan.seeds }

def smallNumber (value : Nat) : Json := .number ⟨false, value, [], none⟩

def ownedManifest (row : Row) (inventoryID : String)
  (starts expires : Instant) (configuration : String) (entries : List Json)
  (version : Nat) : Json :=
  .object ([("version", smallNumber version), ("inventory_id", .string inventoryID),
    ("channel_profile_id", .string channel.id),
    ("topic_lane_id", row.field "topic_lane_id"),
    ("lane_format_id", row.field "lane_format_id"),
    ("target_account_id", row.field "target_account_id"),
    ("platform_channel_id", row.field "platform_channel_id"),
    ("starts_at", .string (go.ownedISO starts)),
    ("expires_at", .string (go.ownedISO expires)),
    ("privacy", .string "unlisted"), ("max_admissions", smallNumber 7),
    ("minimum_interval_seconds", smallNumber 86400),
    ("tick_interval_minutes", smallNumber 1),
    ("configuration_sha256", .string configuration),
    ("entries", .array entries)] ++
    if version = 2 then [("legacy_history",
      (ownedMap (row.field "manifest_json")).field "legacy_history")] else [])

def unchangedManifest (row : Row)
  (inventoryID : String) (starts expires : Instant) (configuration : String)
  (entries : List Json) : Bool :=
  (((go.canonical (row.field "manifest_json")).bind
    judges.decodeOwnedHistoryManifest).map fun decoded =>
      ownedManifest go channel row inventoryID starts expires configuration
        entries (if decoded = 2 then 2 else 1)).any fun manifest =>
    go.ownedEqual (row.field "manifest_json") manifest &&
      go.ownedHasHash manifest (row.field "manifest_sha256")

def ownedCandidate (row a l f : Row) (state : OwnedTickState) (configuration : String)
  (selected : OwnedInventoryInput) : TickCandidate :=
  let item := selected.item
  let seed := selected.seed
  let laneID := ownedString (l.field "id")
  let accountID := ownedString (a.field "id")
  let itemID := ownedString (item.field "id")
  { candidateID := "owned_inventory:" ++ state.inventoryID ++ ":" ++ itemID
    seed := {
      id := ownedString (seed.field "id")
      channelProfileID := channel.id
      topicLaneID := laneID
      targetAccountID := accountID
      prompt := ownedString (seed.field "prompt")
      titleSeed := ownedString (seed.field "title_seed")
      constraintsJSON := ownedMap (seed.field "constraints_json") }
    lane := {
      id := laneID
      channelProfileID := channel.id
      name := ownedString (l.field "name")
      description := ownedString (l.field "description")
      keywordsJSON := (ownedArray (l.field "keywords_json")).map ownedString }
    laneFormat := {
      id := ownedString (f.field "id")
      topicLaneID := laneID
      formatKey := ownedString (f.field "format_key")
      targetDurationSec := ownedInt (f.field "target_duration_sec")
      templatePoolJSON :=
        (ownedArray (f.field "template_pool_json")).map ownedString }
    account := {
      id := accountID
      channelProfileID := channel.id
      platformAccountID := ownedString (a.field "platform_account_id") }
    owned := {
      inventoryID := state.inventoryID
      itemID := itemID
      manifestSHA := ownedString (row.field "manifest_sha256")
      contentSHA := ownedString (item.field "content_sha256")
      assetID := ownedString (item.field "asset_id")
      seedSHA := ownedString (item.field "seed_sha256")
      configurationSHA := configuration
      historySHA := state.historySHA
      historyAuthoritySHA := state.historyAuthoritySHA
      retiredSourceSHA256 := state.retiredSourceSHA256
      retiredRenderSHA256 := state.retiredRenderSHA256 } }

/-- One item against the history: a retired content holds, and a reserved item
that the history completes is noted. -/
def assessItem (history : Assessment) (state : OwnedTickState)
  (input : OwnedInventoryInput) : Assess OwnedTickState := do
  let retired := history.retiredSourceSHA256 ++ history.retiredRenderSHA256
  state.holdUnless "owned_inventory_retired_hash_reuse" (!retired.any fun hash =>
    isText (input.item.field "content_sha256") hash)
  pure { state with
    completeItemIDs := state.completeItemIDs ++ history.completedItemIDs.filter fun id =>
      isText (input.item.field "id") id && isText (input.item.field "state") "reserved" }

variable (data : OwnedInventoryData) (now : Instant)

def assessItems (a l f : Row) (configuration : String)
  (snapshot : OwnedHistorySnapshot) (scan : Scan) : Assess OwnedTickState := do
  let state := { scan.state with
    unusedItemID := scan.selected.elim "" fun input => ownedString (input.item.field "id") }
  let history := assessOwnedHistorySnapshot go judges snapshot now
  let state := { state with
    historySHA := history.stableHistorySHA256
    historyAuthoritySHA := history.authoritySHA256
    retiredSourceSHA256 := history.retiredSourceSHA256
    retiredRenderSHA256 := history.retiredRenderSHA256 }
  state.recovered (refuse history.blockReason)
  let state ← data.items.foldlM (assessItem history) state
  state.skipUnless (history.waitReason.getD "") history.waitReason.isNone
  match scan.selected with
  | none => .error (state.skipped "owned_inventory_exhausted")
  | some selected => do
    state.skipUnless "owned_inventory_runtime_not_ready" (data.runtimeOpen &&
      !data.runtimeGuarded && !data.busy && channel.intakePausedAt.isNone)
    pure { state with candidate := some (ownedCandidate channel
      data.inventory a l f state configuration selected) }

def assessInventory : Assess OwnedTickState := do
  let row := data.inventory
  let state := OwnedTickState.initial (ownedString (row.field "id"))
  state.holdUnless "owned_inventory_scope" (
    channel.ownedSeedInventoryID = some state.inventoryID &&
      isText (row.field "channel_profile_id") channel.id)
  state.skipUnless "owned_inventory_terminal" (isText (row.field "state") "approved")
  state.holdUnless "owned_inventory_approval" (
    (go.ownedTime (row.field "approved_at")).any (· ≤ now) &&
      trimSpace (ownedString (row.field "approved_by")).toList ≠ [] &&
      trimSpace (ownedString (row.field "approval_reference")).toList ≠ [] &&
      isNull (row.field "revoked_at") &&
      isNull (row.field "succession_released_at"))
  let starts ← state.demand "owned_inventory_window"
    (go.ownedTime (row.field "starts_at"))
  let expires ← state.demand "owned_inventory_window"
    (go.ownedTime (row.field "expires_at"))
  state.holdUnless "owned_inventory_window" (sub expires starts = 168 * hour)
  state.holdUnless "owned_inventory_expired" (now < expires)
  state.skipUnless "owned_inventory_not_started" (starts ≤ now)
  state.holdUnless "owned_inventory_limits" (
    isText (row.field "privacy") "unlisted" && ownedInt (row.field "max_admissions") = 7 &&
      ownedInt (row.field "minimum_interval_seconds") = 86400 &&
      channel.tickIntervalMinutes = 1)
  let snapshot ← state.recovered
    (ownedHistoryProductionTarget go judges data now)
  let configuration ← state.demand "owned_inventory_configuration"
    (ownedConfiguration go data.bindings)
  let a := ownedMap (configuration.field "account")
  let l := ownedMap (configuration.field "lane")
  let f := ownedMap (configuration.field "format")
  state.holdUnless "owned_inventory_binding" (boundConfiguration go channel row
    (ownedMap (configuration.field "channel")) a l f)
  let configHash := (go.ownedHash (.object configuration)).getD ""
  state.holdUnless "owned_inventory_cardinality" (data.items.length = 7)
  let scan ← data.items.zipIdx.foldlM
    (scanItem go channel row starts expires now)
    ⟨state, [], [], [], [], none, 0⟩
  let state := scan.state
  state.holdUnless "owned_inventory_manifest_changed" (unchangedManifest go
    judges channel row state.inventoryID starts expires configHash scan.entries)
  state.holdUnless "owned_inventory_multiple_outstanding" (scan.reserved ≤ 1)
  assessItems go judges channel data now a l f configHash snapshot scan

def assessOwnedInventory : OwnedTickState :=
  match assessInventory go judges channel data now with
  | .ok state => state
  | .error state => state

end

end VideoProcess.Inventory
