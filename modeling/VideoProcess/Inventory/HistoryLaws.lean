import VideoProcess.Inventory.History

namespace VideoProcess.Inventory

open Data ChannelOps Program
open Retention (historyReference historySelect)

/-! What a history without a reason to wait says about its tasks. -/

theorem isText_iff : isText value text = true ↔ value = .string text := by
  cases value <;> simp [isText, identical]

theorem mem_whereField : row ∈ whereField rows key value ↔
  row ∈ rows ∧ identical (row.field key) value = true := List.mem_filter

theorem mem_whereText : row ∈ whereText rows key text ↔
  row ∈ rows ∧ row.field key = .string text := by
  rw [whereText, mem_whereField]
  exact and_congr_right fun _ => isText_iff

theorem historyOne_eq_ok (one : historyOne rows reason = .ok row) : rows = [row] := by
  unfold historyOne at one
  split at one
  · cases one
    rfl
  · cases one

theorem day_le_of_sub {now instant : Int} (old : ¬ sub now instant < 24 * hour) :
  instant + 24 * hour ≤ now := by
  unfold sub hour at old
  unfold hour
  omega

section

variable {h : TaskHistory}

structure Reconciled (h : TaskHistory) (pub queue : Row) : Prop where
  member : queue ∈ h.queues
  kind : queue.field "kind" = .string "reconcile_publication"
  publication : ∃ payload, historyObject (queue.field "payload_json") = .ok payload ∧
    identical (payload.field "publication_id") (pub.field "id") = true
  succeeded : queue.field "status" = .string "succeeded"

theorem reconciled_of_historyReconciled (done : historyReconciled go h pub start = .ok true) :
  ∃ queue, Reconciled h pub queue := by
  unfold historyReconciled at done
  obtain ⟨queue, one, done⟩ := bind_eq_ok done
  obtain ⟨payload, read, done⟩ := bind_eq_ok done
  obtain ⟨id, -, done⟩ := bind_eq_ok done
  obtain ⟨_, checked, done⟩ := bind_eq_ok done
  obtain ⟨_, -, done⟩ := bind_eq_ok done
  obtain ⟨_, -, done⟩ := bind_eq_ok done
  obtain ⟨_, -, done⟩ := bind_eq_ok done
  obtain ⟨_, -, done⟩ := bind_eq_ok done
  have listed : queue ∈ whereText h.queues "kind" "reconcile_publication" := by
    rw [historyOne_eq_ok one]
    exact List.mem_singleton.2 rfl
  obtain ⟨member, kind⟩ := mem_whereText.1 listed
  have named := Except.ok.inj (historyRequire_eq_ok checked
    (.ok (identical (payload.field "publication_id") (pub.field "id")))
    (by simp))
  split at done
  · cases done
  · obtain ⟨_, -, done⟩ := bind_eq_ok done
    exact ⟨queue, member, kind, ⟨payload, read, named⟩, isText_iff.1 (Except.ok.inj done)⟩

/-- An upload that is a day old at least, with its publication reconciled. -/
structure Settled (go : Library) (h : TaskHistory) (now : Instant) (op pub queue : Row) : Prop where
  operation : h.operations = [op]
  succeeded : op.field "status" = .string "succeeded"
  attempted : ∃ instant, go.historyTime (op.field "request_attempted_at") = .ok instant ∧
    instant + 24 * hour ≤ now
  completed : ∃ instant, go.historyTime (op.field "completed_at") = .ok instant ∧
    instant + 24 * hour ≤ now
  publication : h.publications = [pub]
  reconciled : Reconciled h pub queue

theorem outstanding_wait : outstanding.wait ≠ "" := by decide

theorem published_settled (done : historyPublished go h reserved replacement op attempted completed
  now = .ok normal) (idle : normal.wait = "") :
  attempted + 24 * hour ≤ now ∧ completed + 24 * hour ≤ now ∧
    ∃ pub queue, h.publications = [pub] ∧ Reconciled h pub queue := by
  unfold historyPublished at done
  split at done
  · cases done
    exact absurd idle outstanding_wait
  obtain ⟨pub, one, done⟩ := bind_eq_ok done
  obtain ⟨_, -, done⟩ := bind_eq_ok done
  split at done
  · cases done
    exact absurd idle outstanding_wait
  obtain ⟨_, -, done⟩ := bind_eq_ok done
  split at done
  · cases done
    exact absurd idle outstanding_wait
  obtain ⟨_, -, done⟩ := bind_eq_ok done
  obtain ⟨_, -, done⟩ := bind_eq_ok done
  obtain ⟨reconciled, checked, done⟩ := bind_eq_ok done
  split at done
  · cases done
    exact absurd idle outstanding_wait
  next truly =>
    obtain ⟨_, -, done⟩ := bind_eq_ok done
    obtain ⟨_, -, done⟩ := bind_eq_ok done
    cases done
    dsimp only at idle
    split at idle
    · exact absurd idle (by decide)
    next cooled =>
      simp only [Bool.or_eq_true, decide_eq_true_eq, not_or] at cooled
      have settled : reconciled = true := by simpa using truly
      subst settled
      obtain ⟨queue, reconciles⟩ := reconciled_of_historyReconciled checked
      exact ⟨day_le_of_sub cooled.1, day_le_of_sub cooled.2, pub, queue,
        historyOne_eq_ok one, reconciles⟩

theorem uploadReceipt_eq_ok (read : uploadReceipt go op now = .ok (receipt, attempted, completed)) :
  go.historyTime (op.field "request_attempted_at") = .ok attempted ∧
    go.historyTime (op.field "completed_at") = .ok completed := by
  obtain ⟨_, tried, read⟩ := bind_eq_ok read
  obtain ⟨_, ended, read⟩ := bind_eq_ok read
  obtain ⟨_, -, read⟩ := bind_eq_ok read
  obtain ⟨_, -, read⟩ := bind_eq_ok read
  obtain ⟨_, -, read⟩ := bind_eq_ok read
  obtain ⟨_, -, read⟩ := bind_eq_ok read
  cases read
  exact ⟨tried, ended⟩

theorem uploaded_settled (done : historyUploaded go h reserved replacement now = .ok normal)
  (idle : normal.wait = "") :
  ∃ op pub queue, Settled go h now op pub queue := by
  obtain ⟨op, one, done⟩ := bind_eq_ok done
  obtain ⟨_, -, done⟩ := bind_eq_ok done
  split at done
  · obtain ⟨_, -, done⟩ := bind_eq_ok done
    cases done
    exact absurd idle outstanding_wait
  next succeeded =>
    obtain ⟨⟨_, attempted, completed⟩, read, done⟩ := bind_eq_ok done
    dsimp only at done
    split at done
    · cases done
      exact absurd idle outstanding_wait
    · obtain ⟨_, -, done⟩ := bind_eq_ok done
      obtain ⟨_, -, done⟩ := bind_eq_ok done
      obtain ⟨tried, ended⟩ := uploadReceipt_eq_ok read
      obtain ⟨first, second, pub, queue, published, reconciled⟩ := published_settled done idle
      exact ⟨op, pub, queue, historyOne_eq_ok one,
        isText_iff.1 (by simpa using succeeded), ⟨attempted, tried, first⟩,
        ⟨completed, ended, second⟩, published, reconciled⟩

theorem normal_settled (done : historyNormal go h item now = .ok normal) (idle : normal.wait = "") :
  ∃ op pub queue, Settled go h now op pub queue := by
  obtain ⟨_, -, done⟩ := bind_eq_ok done
  split at done
  · cases done
    exact absurd idle outstanding_wait
  · exact uploaded_settled done idle

end

section

variable {pass : Pass}

def SettledTask (go : Library) (rows : HistoryRows) (now : Instant) (task : Row) : Prop :=
  ∃ h, historyTask rows task = .ok h ∧ ∃ op pub queue, Settled go h now op pub queue

def Stopped (rows : HistoryRows) (task : Row) : Prop :=
  (∃ state ∈ ["held", "failed", "rejected"], task.field "state" = .string state) ∧
    whereField rows.youtubeUploadOperations "production_task_id" (task.field "id") = []

/-- What the loop has found of a task before it goes on without waiting. -/
inductive Cleared (go : Library) (rows : HistoryRows) (members : List String)
  (items : List (String × Row)) (retained : List Row)
  (currentTaskID : String) (now : Instant) (task : Row) (id : String) : Prop
  | current (same : id = currentTaskID)
  | elsewhere (target : String)
    (targets : historyReference (task.field "target_account_id") = .ok target)
    (foreign : target ∉ members) (unbound : itemOf items id = none)
  | stopped (ended : Stopped rows task) (unbound : itemOf items id = none)
  | retained (certificate : Row) (member : certificate ∈ retained)
    (certified : identical (certificate.field "task_id") (task.field "id") = true)
  | settled (ended : SettledTask go rows now task)

theorem historyIs_eq_ok (read : historyIs value texts = .ok listed) :
  listed = texts.any fun text => isText value text := by
  obtain ⟨_, -, read⟩ := bind_eq_ok read
  cases read
  rfl

theorem historyTask_eq_ok {h : TaskHistory} (read : historyTask rows task = .ok h) : h.task = task ∧
  h.operations = whereField rows.youtubeUploadOperations
    "production_task_id" (task.field "id") := by
  obtain ⟨_, -, read⟩ := bind_eq_ok read
  obtain ⟨_, -, read⟩ := bind_eq_ok read
  obtain ⟨_, -, read⟩ := bind_eq_ok read
  obtain ⟨_, -, read⟩ := bind_eq_ok read
  obtain ⟨_, -, read⟩ := bind_eq_ok read
  obtain ⟨_, -, read⟩ := bind_eq_ok read
  cases read
  exact ⟨rfl, rfl⟩

theorem historyString_eq_ok (read : historyString value = .ok text) : value = .string text := by
  cases value <;> cases read
  rfl

theorem qualifiedBy_some (read : qualifiedBy retained task = .ok (some certificate)) :
  certificate ∈ retained ∧ identical (certificate.field "task_id") (task.field "id") = true := by
  unfold qualifiedBy at read
  split at read
  · cases read
  next one =>
    cases read
    refine mem_whereField.1 ?_
    rw [one]
    exact List.mem_singleton.2 rfl
  · cases read

theorem assessTask_cleared (done : assessTask go rows members items retained currentTaskID now pass
  task = .ok after) (idle : after.wait = none) :
  pass.wait = none ∧ ∃ id, task.field "id" = .string id ∧
    Cleared go rows members items retained currentTaskID now task id := by
  obtain ⟨id, named, done⟩ := bind_eq_ok done
  have identity := historyString_eq_ok named
  dsimp only at done
  split at done
  next same =>
    cases done
    exact ⟨idle, id, identity, .current same⟩
  obtain ⟨target, targets, done⟩ := bind_eq_ok done
  split at done
  next foreign =>
    cases done
    exact ⟨idle, id, identity, .elsewhere target targets foreign.1 foreign.2⟩
  obtain ⟨h, history, done⟩ := bind_eq_ok done
  obtain ⟨_, ended, done⟩ := bind_eq_ok done
  split at done
  next without =>
    cases done
    simp only [Bool.and_eq_true, Option.isNone_iff_eq_none] at without
    obtain ⟨⟨rfl, none⟩, unbound⟩ := without
    obtain ⟨state, listed, found⟩ := List.any_eq_true.1 (historyIs_eq_ok ended).symm
    have operations := (historyTask_eq_ok history).2
    rw [List.isEmpty_iff.1 none] at operations
    exact ⟨idle, id, identity,
      .stopped ⟨⟨state, listed, isText_iff.1 found⟩, operations.symm⟩ unbound⟩
  obtain ⟨_, -, done⟩ := bind_eq_ok done
  obtain ⟨qualified, certified, done⟩ := bind_eq_ok done
  cases qualified with
  | some certificate =>
    obtain ⟨_, -, done⟩ := bind_eq_ok done
    cases done
    obtain ⟨member, same⟩ := qualifiedBy_some certified
    exact ⟨idle, id, identity, .retained certificate member same⟩
  | none =>
    obtain ⟨_, judged, done⟩ := bind_eq_ok done
    obtain ⟨_, -, done⟩ := bind_eq_ok done
    cases done
    dsimp only at idle
    split at idle
    next settled => exact ⟨idle, id, identity, .settled ⟨h, history, normal_settled judged settled⟩⟩
    · cases idle

theorem assessTasks_cleared {tasks : List Row}
  (done : tasks.foldlM (assessTask go rows members items retained
    currentTaskID now) pass = .ok after) (idle : after.wait = none) :
  ∀ task ∈ tasks, ∃ id, task.field "id" = .string id ∧
    Cleared go rows members items retained currentTaskID now task id := by
  -- Backwards the invariant is that nothing waits, forwards that all tasks of
  -- the front are cleared if so.
  refine foldlM_rule (fun front pass => pass.wait = none →
    ∀ task ∈ front, ∃ id, task.field "id" = .string id ∧
      Cleared go rows members items retained currentTaskID now task id)
    (fun _ => by simp) ?_ done idle
  intro front task before after held stepped idle other member
  obtain ⟨earlier, cleared⟩ := assessTask_cleared stepped idle
  rcases List.mem_append.1 member with early | last
  · exact held earlier other early
  · rw [List.mem_singleton.1 last]
    exact cleared

end

section

def IsMember (go : Library) (judges : Judges) (snapshot : OwnedHistorySnapshot)
  (now : Instant) (account : String) : Prop :=
  ∃ authority members, judges.historyApprovedAuthority snapshot.rows now = .ok authority ∧
    historyMembers go snapshot.rows authority snapshot.platformChannelID =
      .ok members ∧ account ∈ members

def IsBound (snapshot : OwnedHistorySnapshot) (id : String) : Prop :=
  ∃ item ∈ snapshot.rows.ownedSeedInventoryItems, item.field "production_task_id" = .string id ∧
    item.field "platform_channel_id" = .string snapshot.platformChannelID

def IsRetained (judges : Judges) (snapshot : OwnedHistorySnapshot)
  (now : Instant) (id : String) : Prop :=
  ∃ authority retained, judges.historyApprovedAuthority snapshot.rows now = .ok authority ∧
    judges.historyApprovedRetainedTerminal snapshot.rows authority.bindings now = .ok retained ∧
    ∃ certificate ∈ retained, certificate.field "task_id" = .string id

def Concerns (go : Library) (judges : Judges) (snapshot : OwnedHistorySnapshot)
  (now : Instant) (task : Row) (id : String) : Prop :=
  (∃ account, task.field "target_account_id" = .string account ∧
    IsMember go judges snapshot now account) ∨ IsBound snapshot id

def Exempt (judges : Judges) (snapshot : OwnedHistorySnapshot) (now : Instant)
  (task : Row) (id : String) : Prop :=
  Stopped snapshot.rows task ∧ ¬ IsBound snapshot id ∨ IsRetained judges snapshot now id

theorem identical_string : identical value (.string text) = true ↔ value = .string text :=
  isText_iff

variable {id : String}

theorem itemOf_eq_none (read : historyItems snapshot.rows snapshot.platformChannelID = .ok items)
  (unbound : itemOf items id = none) :
  ¬ IsBound snapshot id := by
  rintro ⟨item, member, task, platform⟩
  have listed : item ∈ snapshot.rows.ownedSeedInventoryItems.filter fun item =>
    !isNull (item.field "production_task_id") && isText (item.field "platform_channel_id")
      snapshot.platformChannelID := by
    refine List.mem_filter.2 ⟨member, ?_⟩
    rw [task, platform, isText_iff.2 rfl]
    rfl
  obtain ⟨_, among, found⟩ := exists_of_mapM read listed
  rw [task] at found
  cases found
  unfold itemOf at unbound
  rw [Option.map_eq_none_iff, List.find?_eq_none] at unbound
  exact unbound _ among (by simp)

theorem Cleared.of_snapshot {members : List String} {retained : List Row} {task : Row}
  (approved : judges.historyApprovedAuthority snapshot.rows now = .ok authority)
  (kept : judges.historyApprovedRetainedTerminal snapshot.rows
    authority.bindings now = .ok retained)
  (owned : historyMembers go snapshot.rows authority snapshot.platformChannelID = .ok members)
  (read : historyItems snapshot.rows snapshot.platformChannelID = .ok items)
  (identity : task.field "id" = .string id)
  (cleared : Cleared go snapshot.rows members items retained currentTaskID
    now task id) (other : id ≠ currentTaskID)
  (concerns : Concerns go judges snapshot now task id) :
  Exempt judges snapshot now task id ∨ SettledTask go snapshot.rows now task := by
  cases cleared with
  | current same => exact absurd same other
  | elsewhere _ targets foreign unbound =>
    rcases concerns with ⟨_, named, _, _, approved', owned', member⟩ | bound
    · cases approved.symm.trans approved'
      cases owned.symm.trans owned'
      rw [named] at targets
      cases targets
      exact absurd member foreign
    · exact absurd bound (itemOf_eq_none read unbound)
  | stopped ended unbound => exact .inl (.inl ⟨ended, itemOf_eq_none read unbound⟩)
  | retained certificate member certified =>
    rw [identity] at certified
    exact .inl (.inr ⟨authority, retained, approved, kept, certificate,
      member, identical_string.1 certified⟩)
  | settled ended => exact .inr ended

theorem refuse_eq_ok (done : refuse reason = .ok result) : reason = none := by
  cases reason with
  | none => rfl
  | some => cases done

theorem assessOwnedHistory_eq_ok (free : (assessOwnedHistory go judges snapshot now
  currentTaskID).blockReason = none) :
  assessHistory go judges snapshot now currentTaskID =
    .ok (assessOwnedHistory go judges snapshot now currentTaskID) := by
  unfold assessOwnedHistory at free ⊢
  split at free
  next found => rw [found]
  · cases free

structure Assesses (go : Library) (judges : Judges)
  (snapshot : OwnedHistorySnapshot) (now : Instant) (currentTaskID : String)
  (assessment : Assessment) (authority : Authority) (retained : List Row)
  (members : List String) (items : List (String × Row)) (pass : Pass) :
  Prop where
  approved : judges.historyApprovedAuthority snapshot.rows now = .ok authority
  kept : judges.historyApprovedRetainedTerminal snapshot.rows authority.bindings now = .ok retained
  classified : snapshot.rows.youtubeUploadOperations.mapM
    (classify go snapshot.rows authority) = .ok assessment.classifications
  owned : historyMembers go snapshot.rows authority snapshot.platformChannelID = .ok members
  read : historyItems snapshot.rows snapshot.platformChannelID = .ok items
  looped : snapshot.rows.productionTasks.foldlM (assessTask go snapshot.rows
    members items retained currentTaskID now) ⟨none, [], []⟩ = .ok pass
  wait : assessment.waitReason = pass.wait
  completed : assessment.completedItemIDs = pass.completed

section

variable (done : assessHistory go judges snapshot now currentTaskID = .ok assessment)

include done

theorem assessHistory_eq_ok :
  ∃ authority retained members items pass, Assesses go judges snapshot now
    currentTaskID assessment authority retained members items pass := by
  unfold assessHistory at done
  obtain ⟨_, -, done⟩ := bind_eq_ok done
  obtain ⟨_, -, done⟩ := bind_eq_ok done
  obtain ⟨authority, approved, done⟩ := bind_eq_ok done
  obtain ⟨retained, kept, done⟩ := bind_eq_ok done
  obtain ⟨_, -, done⟩ := bind_eq_ok done
  obtain ⟨_, classified, done⟩ := bind_eq_ok done
  obtain ⟨members, owned, done⟩ := bind_eq_ok done
  obtain ⟨items, read, done⟩ := bind_eq_ok done
  obtain ⟨_, -, done⟩ := bind_eq_ok done
  obtain ⟨_, -, done⟩ := bind_eq_ok done
  obtain ⟨_, -, done⟩ := bind_eq_ok done
  obtain ⟨pass, looped, done⟩ := bind_eq_ok done
  obtain ⟨_, -, done⟩ := bind_eq_ok done
  obtain ⟨_, -, done⟩ := bind_eq_ok done
  cases done
  exact ⟨authority, retained, members, items, pass,
    ⟨approved, kept, classified, owned, read, looped, rfl, rfl⟩⟩

theorem assessHistory_settled (idle : assessment.waitReason = none)
  {task : Row} (member : task ∈ snapshot.rows.productionTasks)
  (identity : task.field "id" = .string id) (other : id ≠ currentTaskID)
  (concerns : Concerns go judges snapshot now task id) :
  Exempt judges snapshot now task id ∨ SettledTask go snapshot.rows now task := by
  obtain ⟨_, _, _, _, _, assesses⟩ := assessHistory_eq_ok done
  obtain ⟨_, named, cleared⟩ := assessTasks_cleared assesses.looped
    (assesses.wait.symm.trans idle) task member
  cases identity.symm.trans named
  exact cleared.of_snapshot assesses.approved assesses.kept assesses.owned
    assesses.read identity other concerns

end

end

end VideoProcess.Inventory
