import VideoProcess.Program.Basic
import VideoProcess.Python.Dispatch
import VideoProcess.Python.Receipt

namespace VideoProcess.Python.WorkerEvent

open Data Program

section

variable {σ : Type} {receiver : Receiver σ} {near : Surroundings} {event : Event}
  {resolution : Resolution} {outcome : Option Uuid} {attestation : Uuid}

/-! What a call reads. -/

private theorem find?_unique [DecidableEq κ] {key : α → κ} {rows : List α}
  {row : α} (unique : (rows.map key).Nodup) (member : row ∈ rows) :
  (rows.find? fun other => key other = key row) = some row := by
  cases found : rows.find? fun other => key other = key row with
  | none =>
    have := List.find?_eq_none.1 found row member
    simp at this
  | some other =>
    have same : key other = key row := by simpa using List.find?_some found
    rw [List.inj_on_of_nodup_map unique (List.mem_of_find?_eq_some found) member same]

variable {row : Attestation} {receipt : Receipt} {delivery : Delivery}

theorem isTaskOf_iff : isTaskOf event row = true ↔ row.task = event.sourceTask ∧
  row.dispatchKey = event.sourceTaskDispatchKey := by
  simp [isTaskOf]

theorem lockedTaskAttestation_of_mem {rows : List Attestation}
  (unique : (rows.map (·.task)).Nodup) (member : row ∈ rows)
  (task : isTaskOf event row = true) :
  lockedTaskAttestation rows event = some row := by
  cases found : lockedTaskAttestation rows event with
  | none =>
    have := List.find?_eq_none.1 found row member
    exact absurd task this
  | some other =>
    have same : other.task = row.task :=
      (isTaskOf_iff.1 (List.find?_some found)).1.trans (isTaskOf_iff.1 task).1.symm
    rw [List.inj_on_of_nodup_map unique (List.mem_of_find?_eq_some found) member same]

theorem attestationID_eq_ok (identified : attestationID near registry event = .ok attestation) :
  ∃ row ∈ registry.attestations ++ near.attested,
    isTaskOf event row = true ∧ row.id = attestation := by
  unfold attestationID at identified
  cases found : lockedTaskAttestation registry.attestations event with
  | some row =>
    rw [found] at identified
    cases identified
    exact ⟨row, List.mem_append_left _ (List.mem_of_find?_eq_some found),
      List.find?_some found, rfl⟩
  | none =>
    rw [found] at identified
    unfold observeDelivery at identified
    cases observed : lockedTaskAttestation (registry.attestations ++ near.attested) event with
    | none =>
      rw [observed] at identified
      cases identified
    | some row =>
      rw [observed] at identified
      dsimp only at identified
      cases emission : near.emission with
      | error =>
        rw [emission] at identified
        cases identified
      | ok =>
        rw [emission] at identified
        cases identified
        exact ⟨row, List.mem_of_find?_eq_some observed, List.find?_some observed, rfl⟩

def Matches (receiver : Receiver σ) (receipt : Receipt) (event : Event) : Prop :=
  sourceReceiptMismatchReason receiver receipt event
    receipt.facts.sourceTaskAttestationID = .ok none

theorem Matches.sourceTask (matched : Matches receiver receipt event) :
  receipt.facts.sourceTask = event.sourceTask := by
  unfold Matches sourceReceiptMismatchReason receiptFacts at matched
  split at matched
  · simp only [Except.map, factsMismatch, Except.ok.injEq] at matched
    split at matched
    · cases matched
    · split at matched
      · cases matched
      · split at matched
        · cases matched
        next differ =>
          simp only [not_or, not_not] at differ
          exact differ.2.2.2.2.2.2
  · cases matched

theorem receiptFacts_eq_ok (built : receiptFacts receiver event attestation = .ok facts) :
  facts.sourceTaskAttestationID = attestation ∧ facts.message = event.message ∧
    facts.sourceTask = event.sourceTask ∧
    receiptFacts receiver event facts.sourceTaskAttestationID = .ok facts ∧
    factsMismatch receiver facts facts = none := by
  unfold receiptFacts at built
  split at built
  next registered fenced =>
    cases built
    refine ⟨rfl, rfl, rfl, ?_, ?_⟩
    · simp only [receiptFacts, registered, fenced]
    · simp [factsMismatch]
  · cases built

def Answers (receiver : Receiver σ) (registry : Registry σ) (event : Event)
  (delivery : Delivery) (outcome : Option Uuid) : Prop :=
  (∃ reason, delivery.resolutionState = .quarantined reason ∧ outcome = none) ∨
  (delivery.resolutionState = .accepted ∧
    ∃ receipt ∈ registry.receipts, delivery.receiptID = some receipt.id ∧
      outcome = some receipt.id ∧ Matches receiver receipt event)

/-- Everything a call can do with an event that it does not raise on. -/
inductive Resolved (receiver : Receiver σ) (registry : Registry σ)
  (event : Event) (attestation : Uuid) : Resolution → Prop
  | recorded {delivery : Delivery} {outcome : Option Uuid}
    (found : lockedEventDelivery registry event = some delivery)
    (same : delivery.payloadSha256 = receiver.sha256 event.payload)
    (answers : Answers receiver registry event delivery outcome) :
    Resolved receiver registry event attestation (.recorded outcome)
  | quarantine {receipt : Option Uuid} {reason : Mismatch}
    (new : lockedEventDelivery registry event = none) :
    Resolved receiver registry event attestation (.quarantine attestation receipt reason)
  | duplicate {receipt : Receipt}
    (new : lockedEventDelivery registry event = none)
    (found : lockedReceiptForAttestation registry attestation = some receipt)
    (matched : Matches receiver receipt event) :
    Resolved receiver registry event attestation (.duplicate attestation receipt.id)
  | fresh (new : lockedEventDelivery registry event = none)
    (none : lockedReceiptForAttestation registry attestation = none) :
    Resolved receiver registry event attestation (.fresh attestation)

theorem receiptForDelivery_eq_ok (read : receiptForDelivery registry delivery = .ok receipt) :
  receipt ∈ registry.receipts ∧ delivery.receiptID = some receipt.id := by
  unfold receiptForDelivery at read
  split at read
  · cases read
  next id named =>
    split at read
    · cases read
    next found =>
      cases read
      have same : receipt.id = id := by simpa using List.find?_some found
      exact ⟨List.mem_of_find?_eq_some found, by rw [named, same]⟩

theorem resolveDelivery_eq_ok (resolved : resolveDelivery receiver registry event delivery =
  .ok resolution) :
  ∃ outcome, resolution = .recorded outcome ∧
    delivery.payloadSha256 = receiver.sha256 event.payload ∧
    Answers receiver registry event delivery outcome := by
  unfold resolveDelivery at resolved
  split at resolved
  · cases resolved
  next same =>
    rw [not_not] at same
    split at resolved
    next reason quarantined =>
      cases resolved
      exact ⟨none, rfl, same, .inl ⟨reason, quarantined, rfl⟩⟩
    next accepted =>
      obtain ⟨receipt, read, resolved⟩ := bind_eq_ok resolved
      obtain ⟨member, named⟩ := receiptForDelivery_eq_ok read
      obtain ⟨reason, compared, resolved⟩ := bind_eq_ok resolved
      cases reason with
      | some => cases resolved
      | none =>
        dsimp only at resolved
        split at resolved
        · cases resolved
          exact ⟨some receipt.id, rfl, same, .inr ⟨accepted, receipt, member, named, rfl, compared⟩⟩
        · cases resolved

theorem resolveReceipt_eq_ok
  (found : lockedReceiptForAttestation registry attestation = some receipt)
  (new : lockedEventDelivery registry event = none)
  (resolved : resolveReceipt receiver event attestation receipt = .ok resolution) :
  Resolved receiver registry event attestation resolution := by
  obtain ⟨reason, compared, resolved⟩ := bind_eq_ok resolved
  cases reason with
  | some =>
    cases resolved
    exact .quarantine new
  | none =>
    have same : receipt.facts.sourceTaskAttestationID = attestation := by
      simpa using List.find?_some found
    dsimp only at resolved
    split at resolved
    · cases resolved
      refine .duplicate new found ?_
      rw [Matches, same]
      exact compared
    · cases resolved

theorem resolveNew_eq_ok (none : lockedReceiptForAttestation registry attestation = none)
  (new : lockedEventDelivery registry event = .none)
  (resolved : resolveNew receiver near registry event attestation observed = .ok resolution) :
  Resolved receiver registry event attestation resolution := by
  obtain ⟨_, -, resolved⟩ := bind_eq_ok resolved
  split at resolved
  · cases resolved
  · obtain ⟨-, -, resolved⟩ := bind_eq_ok resolved
    rw [none] at resolved
    cases resolved
    exact .fresh new none

theorem resolveAttested_eq_ok {row : Option Attestation}
  (new : lockedEventDelivery registry event = none)
  (resolved : resolveAttested receiver near registry event attestation row = .ok resolution) :
  Resolved receiver registry event attestation resolution := by
  unfold resolveAttested at resolved
  split at resolved
  · cases resolved
    exact .quarantine new
  · split at resolved
    next found => exact resolveReceipt_eq_ok found new resolved
    next missing => exact resolveNew_eq_ok missing new resolved

theorem resolve_eq_ok (resolved : resolve receiver near registry event = .ok resolution) :
  event.claim.workerRegistrationID.isSome = true ∧
    ∃ attestation, attestationID near registry event = .ok attestation ∧
      Resolved receiver registry event attestation resolution := by
  obtain ⟨-, -, resolved⟩ := bind_eq_ok resolved
  split at resolved
  · cases resolved
  next registered =>
    obtain ⟨attestation, identified, resolved⟩ := bind_eq_ok resolved
    refine ⟨by rw [registered]; rfl, attestation, identified, ?_⟩
    split at resolved
    next found =>
      obtain ⟨_, rfl, same, answers⟩ := resolveDelivery_eq_ok resolved
      exact .recorded found same answers
    next new => exact resolveAttested_eq_ok new resolved

/-- A committed call has left its answer in the tables. -/
structure Recorded (receiver : Receiver σ) (registry : Registry σ)
  (event : Event) (outcome : Option Uuid) : Prop where
  registered : event.claim.workerRegistrationID.isSome = true
  attested : ∃ row ∈ registry.attestations, isTaskOf event row = true
  delivered : ∃ delivery ∈ registry.deliveries, delivery.message = event.message ∧
    delivery.payloadSha256 = receiver.sha256 event.payload ∧
    Answers receiver registry event delivery outcome

theorem Recorded.mono (recorded : Recorded receiver registry event outcome)
  (attestations : registry.attestations ⊆ after.attestations)
  (receipts : registry.receipts ⊆ after.receipts)
  (deliveries : registry.deliveries ⊆ after.deliveries) :
  Recorded receiver after event outcome := by
  obtain ⟨registered, ⟨row, member, task⟩, delivery, delivered, message, same, answers⟩ := recorded
  refine ⟨registered, ⟨row, attestations member, task⟩, delivery,
    deliveries delivered, message, same, ?_⟩
  obtain quarantined | ⟨accepted, receipt, held, rest⟩ := answers
  · exact .inl quarantined
  · exact .inr ⟨accepted, receipt, receipts held, rest⟩

structure Sound (receiver : Receiver σ) (system : System σ) : Prop where
  attestations : Attestable system.registry []
  receiptIDs : (system.registry.receipts.map (·.id)).Nodup
  applied : system.registry.receipts.map (·.facts.sourceTaskAttestationID) = system.applied
  once : system.applied.Nodup
  durable : ∀ receipt ∈ system.registry.receipts, receipt.applicationState = .applied
  backed : ∀ receipt ∈ system.registry.receipts, ∃ row ∈ system.registry.attestations,
    row.id = receipt.facts.sourceTaskAttestationID ∧ row.task = receipt.facts.sourceTask
  messages : (system.registry.deliveries.map (·.message)).Nodup
  answered : ∀ answer ∈ system.answered, Recorded receiver system.registry answer.1 answer.2

variable {system : System σ}

theorem Sound.of_fresh (fresh : Fresh system) : Sound receiver system where
  attestations := fresh.unique
  receiptIDs := by simp [fresh.receipts]
  applied := by simp [fresh.receipts, fresh.applied]
  once := by simp [fresh.applied]
  durable := by simp [fresh.receipts]
  backed := by simp [fresh.receipts]
  messages := by simp [fresh.deliveries]
  answered := by simp [fresh.answered]

theorem Attestable.attest (unique : Attestable registry rows) :
  Attestable (registry.attest rows) [] := by
  constructor
  · simpa [Registry.attest] using unique.ids
  · simpa [Registry.attest] using unique.tasks

theorem Sound.spare (sound : Sound receiver system)
  (unique : Attestable system.registry rows) (work : σ)
  (invoked : List Uuid) :
  Sound receiver { system with
    registry := { system.registry.attest rows with work := work }
    invoked := invoked } where
  attestations := ⟨unique.attest.ids, unique.attest.tasks⟩
  receiptIDs := sound.receiptIDs
  applied := sound.applied
  once := sound.once
  durable := sound.durable
  backed receipt member := by
    obtain ⟨row, held, identified⟩ := sound.backed receipt member
    exact ⟨row, List.mem_append_left _ held, identified⟩
  messages := sound.messages
  answered answer member :=
    (sound.answered answer member).mono (List.subset_append_left _ _)
      (List.Subset.refl _) (List.Subset.refl _)

theorem Sound.answer (sound : Sound receiver system)
  (recorded : Recorded receiver system.registry event outcome) :
  Sound receiver { system with answered := (event, outcome) :: system.answered } where
  attestations := sound.attestations
  receiptIDs := sound.receiptIDs
  applied := sound.applied
  once := sound.once
  durable := sound.durable
  backed := sound.backed
  messages := sound.messages
  answered answer member := by
    obtain rfl | member := List.mem_cons.1 member
    · exact recorded
    · exact sound.answered answer member

theorem notMem_of_lockedEventDelivery (new : lockedEventDelivery registry event = none) :
  event.message ∉ registry.deliveries.map (·.message) := by
  intro known
  obtain ⟨delivery, member, same⟩ := List.mem_map.1 known
  have := List.find?_eq_none.1 new delivery member
  simp [same] at this

theorem Sound.addDelivery (sound : Sound receiver system)
  (new : lockedEventDelivery system.registry event = none)
  (receipt : Option Uuid) (state : ResolutionState) :
  Sound receiver { system with
    registry := system.registry.addDelivery receiver attestation receipt event state } where
  attestations := ⟨sound.attestations.ids, sound.attestations.tasks⟩
  receiptIDs := sound.receiptIDs
  applied := sound.applied
  once := sound.once
  durable := sound.durable
  backed := sound.backed
  messages := by
    simp only [Registry.addDelivery, List.map_append, List.map_cons, List.map_nil]
    exact List.nodup_append'.2 ⟨sound.messages, List.nodup_singleton _,
      List.disjoint_singleton.2 (notMem_of_lockedEventDelivery new)⟩
  answered answer member :=
    (sound.answered answer member).mono (List.Subset.refl _)
      (List.Subset.refl _) (List.subset_append_left _ _)

theorem Sound.addReceipt (sound : Sound receiver system) (receipt : Receipt) (work : σ)
  (clear : system.registry.clashes receipt.id receipt.facts = false)
  (durable : receipt.applicationState = .applied)
  (held : row ∈ system.registry.attestations)
  (identified : row.id = receipt.facts.sourceTaskAttestationID)
  (task : row.task = receipt.facts.sourceTask) :
  Sound receiver { system with
    registry := { system.registry with
      receipts := system.registry.receipts ++ [receipt]
      work := work }
    applied :=
      system.applied ++ [receipt.facts.sourceTaskAttestationID] } := by
  have apart : ∀ other ∈ system.registry.receipts, other.id ≠ receipt.id ∧
    other.facts.sourceTaskAttestationID ≠ receipt.facts.sourceTaskAttestationID := by
    intro other member
    have := List.any_eq_false.1 clear other member
    simp only [decide_eq_true_eq, not_or] at this
    exact ⟨this.1, this.2.1⟩
  constructor
  case attestations => exact ⟨sound.attestations.ids, sound.attestations.tasks⟩
  case receiptIDs =>
    rw [List.map_append]
    refine List.nodup_append'.2 ⟨sound.receiptIDs, List.nodup_singleton _,
      List.disjoint_singleton.2 ?_⟩
    intro known
    obtain ⟨other, member, same⟩ := List.mem_map.1 known
    exact (apart other member).1 same
  case applied => simp [sound.applied]
  case once =>
    refine List.nodup_append'.2 ⟨sound.once, List.nodup_singleton _, List.disjoint_singleton.2 ?_⟩
    rw [← sound.applied]
    intro known
    obtain ⟨other, member, same⟩ := List.mem_map.1 known
    exact (apart other member).2 same
  case durable =>
    intro other member
    obtain member | member := List.mem_append.1 member
    · exact sound.durable other member
    · rw [List.mem_singleton.1 member]
      exact durable
  case backed =>
    intro other member
    obtain member | member := List.mem_append.1 member
    · exact sound.backed other member
    · rw [List.mem_singleton.1 member]
      exact ⟨row, held, identified, task⟩
  case messages => exact sound.messages
  case answered =>
    intro answer member
    exact (sound.answered answer member).mono (List.Subset.refl _)
      (List.subset_append_left _ _) (List.Subset.refl _)

theorem insertReceipt_eq_ok (inserted : insertReceipt receiver near registry event attestation =
  .ok receipt) :
  registry.clashes receipt.id receipt.facts = false ∧
    receipt.facts.sourceTaskAttestationID = attestation ∧
    receipt.facts.sourceTask = event.sourceTask ∧
    Matches receiver receipt event := by
  obtain ⟨_, built, inserted⟩ := bind_eq_ok inserted
  obtain ⟨identified, -, task, rebuilt, same⟩ := receiptFacts_eq_ok built
  split at inserted
  · cases inserted
  next clear =>
    cases inserted
    refine ⟨by simpa using clear, identified, task, ?_⟩
    rw [Matches, sourceReceiptMismatchReason, rebuilt]
    exact congrArg Except.ok same

theorem Sound.commit (sound : Sound receiver system)
  (unique : Attestable system.registry near.attested)
  (invoked : List Uuid)
  (accepted : acceptAndApply receiver near system.registry event = .ok (outcome, after)) :
  Sound receiver {
    registry := after.attest near.attested
    invoked := invoked
    applied := system.applied ++ (invocation receiver near system.registry event).toList
    answered := (event, outcome) :: system.answered } := by
  obtain ⟨_, resolved, performed⟩ := bind_eq_ok accepted
  obtain ⟨registered, _, identified, cases⟩ := resolve_eq_ok resolved
  obtain ⟨row, held, task, named⟩ := attestationID_eq_ok identified
  have spared := sound.spare unique system.registry.work invoked
  simp only [invocation, resolved]
  cases cases with
  | @recorded delivery outcome found same answers =>
    cases performed
    rw [Option.toList_none, List.append_nil]
    refine spared.answer ⟨registered, ⟨row, held, task⟩, delivery,
      List.mem_of_find?_eq_some found, ?_, same, answers⟩
    simpa using List.find?_some found
  | @quarantine receipt reason new =>
    cases performed
    rw [Option.toList_none, List.append_nil]
    refine (spared.addDelivery new receipt (.quarantined reason)).answer
      ⟨registered, ⟨row, held, task⟩, _, List.mem_concat_self, rfl, rfl, .inl ⟨reason, rfl, rfl⟩⟩
  | @duplicate receipt new found matched =>
    cases performed
    rw [Option.toList_none, List.append_nil]
    refine (spared.addDelivery new (some receipt.id) .accepted).answer
      ⟨registered, ⟨row, held, task⟩, _, List.mem_concat_self, rfl, rfl,
        .inr ⟨rfl, receipt, List.mem_of_find?_eq_some found, rfl, rfl, matched⟩⟩
  | fresh new =>
    obtain ⟨receipt, inserted, performed⟩ := bind_eq_ok performed
    obtain ⟨work, -, performed⟩ := bind_eq_ok performed
    cases performed
    obtain ⟨clear, attests, tasked, matched⟩ := insertReceipt_eq_ok inserted
    simp only [inserted, Option.toList_some]
    subst attests
    have received := spared.addReceipt
      { receipt with applicationState := .applied } work clear rfl held named
      ((isTaskOf_iff.1 task).1.trans tasked.symm)
    refine (received.addDelivery new (some receipt.id) .accepted).answer
      ⟨registered, ⟨row, held, task⟩, _, List.mem_concat_self, rfl, rfl,
        .inr ⟨rfl, _, List.mem_concat_self, rfl, rfl, matched⟩⟩

theorem Sound.deliver (sound : Sound receiver system)
  (unique : Attestable system.registry near.attested) (commits : Bool) :
  Sound receiver (deliver receiver near event commits system) := by
  unfold WorkerEvent.deliver
  dsimp only
  split
  next accepted => exact sound.commit unique _ accepted
  · exact sound.spare unique _ _

theorem Reachable.sound (reachable : Reachable receiver system) : Sound receiver system := by
  induction reachable with
  | start fresh => exact .of_fresh fresh
  | step _ step sound =>
    cases step with
    | deliver _ _ commits _ unique => exact sound.deliver unique commits
    | elsewhere _ work _ unique => exact sound.spare unique work _

theorem work_deliver (known : ∀ attestation, resolve receiver near system.registry event ≠
  .ok (.fresh attestation)) :
  (deliver receiver near event commits system).registry.work = system.registry.work := by
  unfold WorkerEvent.deliver
  dsimp only
  split
  next accepted =>
    obtain ⟨resolution, resolved, performed⟩ := bind_eq_ok accepted
    cases resolution with
    | recorded | quarantine | duplicate =>
      cases performed
      rfl
    | fresh attestation => exact absurd resolved (known attestation)
  · rfl

theorem resolve_ne_fresh_of_delivered (delivered : delivery ∈ registry.deliveries)
  (message : delivery.message = event.message) (attestation : Uuid) :
  resolve receiver near registry event ≠ .ok (.fresh attestation) := by
  intro resolved
  obtain ⟨-, _, -, cases⟩ := resolve_eq_ok resolved
  cases cases with
  | fresh new =>
    exact notMem_of_lockedEventDelivery new (List.mem_map.2 ⟨delivery, delivered, message⟩)

section

variable (sound : Sound receiver system)

include sound

theorem Sound.resolve_ne_fresh (member : receipt ∈ system.registry.receipts)
  (held : row ∈ system.registry.attestations)
  (task : isTaskOf event row = true)
  (recorded : receipt.facts.sourceTask = event.sourceTask)
  (attestation : Uuid) :
  resolve receiver near system.registry event ≠ .ok (.fresh attestation) := by
  intro resolved
  have tasks : (system.registry.attestations.map (·.task)).Nodup := by
    simpa using sound.attestations.tasks
  obtain ⟨-, _, identified, cases⟩ := resolve_eq_ok resolved
  rw [attestationID, lockedTaskAttestation_of_mem tasks held task] at identified
  cases identified
  obtain ⟨backing, backs, named, backed⟩ := sound.backed receipt member
  have same : backing = row :=
    List.inj_on_of_nodup_map tasks backs held
      (backed.trans (recorded.trans (isTaskOf_iff.1 task).1.symm))
  subst same
  cases cases with
  | fresh _ missing =>
    have := List.find?_eq_none.1 missing receipt member
    simp [named] at this

section

variable (recorded : Recorded receiver system.registry event outcome)

include recorded

theorem Sound.resolve_recorded (granted : near.authorityLock = .ok ()) :
  resolve receiver near system.registry event = .ok (.recorded outcome) := by
  obtain ⟨registered, ⟨row, held, task⟩, delivery, delivered, message, same, answers⟩ := recorded
  obtain ⟨_, registered⟩ := Option.isSome_iff_exists.1 registered
  have tasks : (system.registry.attestations.map (·.task)).Nodup := by
    simpa using sound.attestations.tasks
  have found : lockedEventDelivery system.registry event = some delivery := by
    rw [lockedEventDelivery, ← message]
    exact find?_unique sound.messages delivered
  have identified : attestationID near system.registry event = .ok row.id := by
    rw [attestationID, lockedTaskAttestation_of_mem tasks held task]
  simp only [resolve, granted, registered, identified, found]
  change resolveDelivery receiver system.registry event delivery = _
  rw [resolveDelivery, if_neg (not_not.2 same)]
  obtain ⟨_, quarantined, rfl⟩ | ⟨accepted, receipt, member, named, rfl, matched⟩ := answers
  · rw [quarantined]
  · have read : receiptForDelivery system.registry delivery = .ok receipt := by
      rw [receiptForDelivery, named]
      dsimp only
      rw [find?_unique sound.receiptIDs member]
    rw [accepted, read]
    change (sourceReceiptMismatchReason receiver receipt event
      receipt.facts.sourceTaskAttestationID >>= _) = _
    rw [matched]
    exact if_pos (sound.durable receipt member)

/-- Another delivery of an event that was answered: of its message, or of
another message about its source task where that was accepted. -/
def Redelivers (event : Event) (outcome : Option Uuid) (again : Event) : Prop :=
  again.message = event.message ∨ (outcome.isSome = true ∧ again.sourceTask = event.sourceTask ∧
    again.sourceTaskDispatchKey = event.sourceTaskDispatchKey)

theorem Sound.work_redeliver (redelivers : Redelivers event outcome again) :
  (WorkerEvent.deliver receiver near again commits system).registry.work =
    system.registry.work := by
  obtain ⟨-, ⟨_, held, task⟩, _, delivered, message, -, answers⟩ := recorded
  apply work_deliver
  obtain same | ⟨accepted, sameTask, sameKey⟩ := redelivers
  · exact resolve_ne_fresh_of_delivered delivered (message.trans same.symm)
  · obtain ⟨_, -, rfl⟩ | ⟨-, _, member, -, -, matched⟩ := answers
    · cases accepted
    · apply sound.resolve_ne_fresh member held
      · obtain ⟨tasked, keyed⟩ := isTaskOf_iff.1 task
        exact isTaskOf_iff.2 ⟨tasked.trans sameTask.symm, keyed.trans sameKey.symm⟩
      · exact matched.sourceTask.trans sameTask.symm

end

end

/-- Events are applied exactly once: every attestation has at most one receipt
and is applied at most once; an event that was answered is answered alike, and
no redelivery, with another payload or not, changes any job. -/
theorem worker_events_exactly_once (reachable : Reachable receiver system) :
  (∀ attestation, (system.registry.receipts.filter fun receipt =>
    receipt.facts.sourceTaskAttestationID = attestation ∧
      receipt.applicationState = .applied).length ≤ 1) ∧
  (∀ attestation, system.applied.count attestation ≤ 1) ∧
  (∀ event outcome, (event, outcome) ∈ system.answered → (∀ near, near.authorityLock = .ok () →
    acceptAndApply receiver near system.registry event = .ok (outcome, system.registry)) ∧
    ∀ near commits, (deliver receiver near event commits system).registry.work =
      system.registry.work) ∧
  ∀ event outcome, (event, outcome) ∈ system.answered → ∀ again, Redelivers event outcome again →
    receiver.sha256 again.payload ≠ receiver.sha256 event.payload →
    ∀ near commits, (deliver receiver near again commits system).registry.work =
      system.registry.work := by
  have sound := reachable.sound
  refine ⟨fun attestation => ?_, fun attestation => ?_,
    fun event outcome answered => ⟨fun near granted => ?_, ?_⟩,
    fun event outcome answered again redelivers _ near commits => ?_⟩
  · rw [← List.countP_eq_length_filter]
    apply Nat.le_trans _ (List.nodup_iff_count_le_one.1 sound.once attestation)
    rw [← sound.applied, List.count, List.countP_map]
    apply List.countP_mono_left
    intro receipt _ selected
    simp only [decide_eq_true_eq] at selected
    simp [selected.1]
  · exact List.nodup_iff_count_le_one.1 sound.once attestation
  · rw [acceptAndApply, sound.resolve_recorded (sound.answered _ answered) granted]
    rfl
  · intro near commits
    exact sound.work_redeliver (sound.answered _ answered) (.inl rfl)
  · exact sound.work_redeliver (sound.answered _ answered) redelivers

end

def workerClaim : NodeExecutionClaim where
  jobID := 1
  nodeExecutionID := 2
  workerID := "worker"
  startedAt := 7
  workerRegistrationID := some 4
  workerLeaseEpoch := some 1

def failureEvent : Event where
  message := ⟨"events", "orchestrator", "1-0"⟩
  payload := Dict.empty.set "error" "out of disk space"
  eventType := .nodeFailed
  claim := workerClaim
  sourceTask := ⟨"tasks", "workers", "1-0"⟩
  sourceTaskPayloadSha256 := "task"
  sourceTaskDispatchKey := 5

def runningTables : Tables where
  authority := openAuthority
  job :=
    { id := 1
      status := .running
      pipelineSnapshot := { nodes := [plainNode "cut" "trim"], edges := [] }
      executionPlan := none
      startedAt := some 6
      errorMessage := none
      nodes := Dict.empty.set "cut"
        { pendingExecution 2 "trim" .empty with
          status := .running
          workerID := some "worker"
          workerRegistrationID := some 4
          workerLeaseEpoch := some 1
          startedAt := some 7
          retryCount := 1 }
      listed := .refl _
      distinct := by decide }
  dispatches := []

def attestedTask : System Tables where
  registry :=
    { attestations :=
      [⟨3, ⟨"tasks", "workers", "1-0"⟩, 5, "task", workerClaim⟩]
      receipts := []
      deliveries := []
      work := runningTables }
  invoked := []
  applied := []
  answered := []

theorem fresh_attestedTask : Fresh attestedTask := ⟨⟨by decide, by decide⟩, rfl, rfl, rfl, rfl⟩

def reportReceiver : Receiver Tables :=
  engineReceiver cachedDownload fun payload =>
    String.join (payload.entries.map Prod.snd)

def quietCall : Surroundings where
  authorityLock := .ok ()
  attested := []
  emission := .ok ()
  uuid4 := 8

/-- The commit of the first call fails, and the event is delivered again. -/
def lostCommit : System Tables :=
  deliver reportReceiver quietCall failureEvent true
    (deliver reportReceiver quietCall failureEvent false attestedTask)

theorem reachable_lostCommit : Reachable reportReceiver lostCommit := by
  refine .step (.step (.start fresh_attestedTask) (.deliver quietCall
    failureEvent false attestedTask ⟨by decide, by decide⟩)) (.deliver
    quietCall failureEvent true _ ⟨by decide +kernel, by decide +kernel⟩)

theorem lostCommit_invokes_twice :
  Reachable reportReceiver lostCommit ∧ lostCommit.invoked.count 3 = 2 :=
  ⟨reachable_lostCommit, by decide +kernel⟩

/-- The same history: one receipt, and a third delivery would be answered by
it. -/
theorem lostCommit_exactly_once : lostCommit.applied.count 3 ≤ 1 ∧
  ∀ near, near.authorityLock = .ok () →
    acceptAndApply reportReceiver near lostCommit.registry failureEvent =
      .ok (some 8, lostCommit.registry) := by
  obtain ⟨-, once, answered, -⟩ := worker_events_exactly_once reachable_lostCommit
  have first : lostCommit.answered = [(failureEvent, some 8)] := rfl
  exact ⟨once 3, (answered failureEvent (some 8) (first ▸ List.mem_singleton.2 rfl)).1⟩

end VideoProcess.Python.WorkerEvent
