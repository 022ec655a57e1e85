import VideoProcess.Python.Receipt
import VideoProcess.Validation.Python

namespace VideoProcess.Python.WorkerEvent

open Data Validation.Python

/-! `parse_registered_worker_event`, and `_execution_claim_from_event` of
`event_listener.py` for events that are not registered. -/

/-- A `datetime`, with a zone or without. -/
structure Moment where
  instant : Nat
  aware : Bool

/-- What the interpreter makes of texts; `none` is a `ValueError`. -/
structure Reader where
  unicode : Unicode
  /-- `str.isdigit` of one character. -/
  isDigit : Char → Bool
  /-- The value of a decimal digit. There are digits that are not decimal. -/
  digit : Char → Option Nat
  uuid : String → Option Uuid
  fromisoformat : String → Option Moment
  uuid_none : uuid "None" = none

inductive Exception where
  | registeredWorkerEvent (message : String)
  | value (message : String)

def expect {α : Type} (value : Option α) (message : String) : Except Exception α :=
  match value with
  | some value => .ok value
  | none => .error (.registeredWorkerEvent message)

section

variable (reader : Reader) (payload : Dict String String)

section

variable (text : String)

def solid : Bool := reader.unicode.strip text ≠ ""

def isdigit : Bool := text ≠ "" ∧ text.toList.all reader.isDigit

/-- `int(text)` of digits. -/
def int (text : String) : Except String Nat :=
  let digits := text.toList.map reader.digit
  if digits.all Option.isSome then
    intOfDigits (digits.map fun digit => digit.getD 0)
  else .error ("invalid literal for int() with base 10: '" ++ text ++ "'")

variable (key : String)

def field : Option String := (payload.get? key).filter (solid reader)

def identifier : Option Uuid := (payload.get? key).bind reader.uuid

def moment : Option Nat :=
  (((payload.get? key).bind reader.fromisoformat).filter (·.aware)).map (·.instant)

def eventType : Option EventType :=
  if payload.get? "event" = some "node_completed" then some .nodeCompleted
  else if payload.get? "event" = some "node_failed" then some .nodeFailed
  else none

def isHash : Bool :=
  text.length = 64 ∧ text.toList.all (· ∈ "0123456789abcdef".toList)

def parseRegisteredWorkerEvent (message : Message) : Except Exception Event := do
  let strip := reader.unicode.strip
  let claimed (key : String) := expect (field reader payload key)
    "registered event claim or task delivery is invalid"
  let identified (key : String) := expect (identifier reader payload key)
    "registered event identifiers are invalid"
  let stream ← expect ((some message.stream).filter (solid reader))
    "redis stream is invalid"
  let group ← expect ((some message.group).filter (solid reader))
    "consumer group is invalid"
  let id ← expect ((some message.id).filter (solid reader))
    "message id is invalid"
  let type ← expect (eventType payload) "registered event type is invalid"
  let jobID ← identified "job_id"
  let nodeExecutionID ← identified "node_execution_id"
  let registrationID ← identified "worker_registration_id"
  let workerID ← claimed "worker_id"
  let _ ← claimed "started_at"
  let leaseEpoch ← claimed "worker_lease_epoch"
  let taskStream ← claimed "task_stream"
  let taskGroup ← claimed "task_group"
  let taskMessageID ← claimed "task_message_id"
  let taskPayload ← claimed "task_payload_sha256"
  let taskPayload ← expect ((some taskPayload).filter isHash)
    "registered event task payload hash is invalid"
  let dispatchKey ← expect
    ((field reader payload "task_dispatch_key").bind reader.uuid)
    "registered event task dispatch key is invalid"
  let leaseEpoch ← expect ((some leaseEpoch).filter (isdigit reader))
    "registered event lease epoch is invalid"
  let leaseEpoch ← (int reader leaseEpoch).mapError .value
  let leaseEpoch ← expect ((some leaseEpoch).filter (0 < ·))
    "registered event lease epoch is invalid"
  let startedAt ← expect (moment reader payload "started_at")
    "registered event worker start time is invalid"
  return {
    message := ⟨strip stream, strip group, strip id⟩
    payload := payload
    eventType := type
    claim := ⟨jobID, nodeExecutionID, strip workerID, startedAt,
      some registrationID, some leaseEpoch⟩
    sourceTask := ⟨strip taskStream, strip taskGroup, strip taskMessageID⟩
    sourceTaskPayloadSha256 := taskPayload
    sourceTaskDispatchKey := dispatchKey }

/-- The claim of an event whose values are texts. -/
def executionClaimFromEvent (jobID nodeExecutionID : Uuid) :
  Except String (Option NodeExecutionClaim) :=
  match field reader payload "worker_id",
    moment reader payload "started_at" with
  | some workerID, some startedAt =>
    let claim := NodeExecutionClaim.mk jobID nodeExecutionID
      (reader.unicode.strip workerID) startedAt
    let registration := payload.get? "worker_registration_id"
    let leaseEpoch := payload.get? "worker_lease_epoch"
    if registration = none ∧ leaseEpoch = none then
      .ok (some (claim none none))
    else
      -- `str(None)` is a text as well
      match reader.uuid (registration.getD "None"),
        leaseEpoch.filter (isdigit reader) with
      | some registrationID, some leaseEpoch =>
        (int reader leaseEpoch).map fun leaseEpoch =>
          if leaseEpoch ≤ 0 then none
          else some (claim (some registrationID) (some leaseEpoch))
      | _, _ => .ok none
  | _, _ => .ok none

/-- The text has no other digits than decimal ones, and not too many. -/
def Readable : Prop :=
  (∀ char ∈ text.toList, (reader.digit char).isSome = true) ∧ text.length ≤ 4300

end

/-- What the parser has looked at before it reads the lease epoch. -/
structure Registered (message : Message) : Prop where
  message : solid reader message.stream ∧ solid reader message.group ∧ solid reader message.id
  type : (eventType payload).isSome = true
  identifiers : ∀ key ∈ ["job_id", "node_execution_id",
    "worker_registration_id"], (identifier reader payload key).isSome = true
  claim : ∀ key ∈ ["worker_id", "started_at", "worker_lease_epoch",
    "task_stream", "task_group", "task_message_id", "task_payload_sha256"],
    (field reader payload key).isSome = true
  hash : ∀ text, payload.get? "task_payload_sha256" = some text → isHash text
  dispatchKey : ((field reader payload "task_dispatch_key").bind reader.uuid).isSome = true

/-- What the older path has looked at before. -/
structure Claimed : Prop where
  worker : (field reader payload "worker_id").isSome = true
  started : (moment reader payload "started_at").isSome = true
  registration : (identifier reader payload "worker_registration_id").isSome = true

end

/-- No other exception than that of the parser. -/
def Clean {α : Type} (result : Except Exception α) : Prop :=
  (∃ value, result = .ok value) ∨ ∃ message, result = .error (.registeredWorkerEvent message)

theorem clean_ok {α : Type} (value : α) : Clean (pure value : Except Exception α) :=
  .inl ⟨value, rfl⟩

theorem clean_expect_bind {α β : Type} {value : Option α} {next : α → Except Exception β} :
  Clean (expect value text >>= next) ↔ ∀ found, value = some found → Clean (next found) := by
  cases value with
  | none =>
    refine ⟨fun _ _ absent => ?_, fun _ => .inr ⟨text, rfl⟩⟩
    cases absent
  | some value =>
    refine ⟨fun clean _ same => ?_, fun all => all value rfl⟩
    cases same
    exact clean

theorem clean_int_bind {β : Type} {next : Nat → Except Exception β} :
  Clean ((int reader text).mapError .value >>= next) ↔
    ∃ value, int reader text = .ok value ∧ Clean (next value) := by
  cases int reader text with
  | error => simp [Clean, Except.mapError, bind, Except.bind]
  | ok => simp [Except.mapError, bind, Except.bind]

theorem exists_int_iff : (∃ value, int reader text = .ok value) ↔ Readable reader text := by
  unfold int intOfDigits
  simp only [List.length_map, String.length_toList, List.all_map,
    List.all_eq_true, Function.comp_apply, Readable]
  split
  · split <;> simp_all
  · simp_all

theorem clean_parse_iff : Clean (parseRegisteredWorkerEvent reader payload
  message) ↔ (Registered reader payload message → ∀ text,
    payload.get? "worker_lease_epoch" = some text →
    isdigit reader text = true → Readable reader text) := by
  unfold parseRegisteredWorkerEvent
  simp only [clean_expect_bind, clean_int_bind, clean_ok, implies_true, and_true, exists_int_iff]
  constructor
  · intro clean registered text found digits
    obtain ⟨⟨stream, group, id⟩, type, identifiers, claim, hash, key⟩ := registered
    obtain ⟨type, typed⟩ := Option.isSome_iff_exists.1 type
    obtain ⟨key, keyed⟩ := Option.isSome_iff_exists.1 key
    simp only [List.forall_mem_cons, Option.isSome_iff_exists] at identifiers claim
    obtain ⟨⟨_, job⟩, ⟨_, node⟩, ⟨_, registration⟩, -⟩ := identifiers
    obtain ⟨⟨_, worker⟩, ⟨_, started⟩, ⟨_, lease⟩, ⟨_, taskStream⟩,
      ⟨_, taskGroup⟩, ⟨_, taskID⟩, ⟨_, payloadHash⟩, -⟩ := claim
    have whole := hash _ (Option.filter_eq_some_iff.1 payloadHash).1
    obtain rfl := Option.some.inj (found.symm.trans (Option.filter_eq_some_iff.1 lease).1)
    have kept {text : String} {holds : String → Bool}
      (held : holds text = true) : (some text).filter holds = some text :=
      Option.filter_eq_some_iff.2 ⟨rfl, held⟩
    exact clean _ (kept stream) _ (kept group) _ (kept id) _ typed _ job _ node
      _ registration _ worker _ started _ lease _ taskStream _ taskGroup _
      taskID _ payloadHash _ (kept whole) _ keyed _ (kept digits)
  · intro clean _ stream _ group _ id _ type _ job _ node _ registration _
      worker _ started lease leased _ taskStream _ taskGroup _ taskID _
      payloadHash _ whole _ key _ digits
    simp only [Option.filter_eq_some_iff, Option.some.injEq] at stream group id whole digits
    obtain ⟨rfl, digits⟩ := digits
    obtain ⟨rfl, whole⟩ := whole
    refine clean ⟨⟨stream.1 ▸ stream.2, group.1 ▸ group.2, id.1 ▸ id.2⟩,
      by simp [type], by simp [job, node, registration],
      by simp [worker, started, leased, taskStream, taskGroup, taskID,
        payloadHash], fun text found => ?_, by simp [key]⟩ _
      (Option.filter_eq_some_iff.1 leased).1 digits
    rwa [Option.some.inj (found.symm.trans (Option.filter_eq_some_iff.1 payloadHash).1)]

theorem uuid_getD (key : String) : reader.uuid ((payload.get? key).getD "None") =
  identifier reader payload key := by
  unfold identifier
  cases payload.get? key with
  | none => exact reader.uuid_none
  | some => rfl

theorem claim_ok_iff {jobID nodeExecutionID : Uuid} :
  (∃ claim, executionClaimFromEvent reader payload jobID nodeExecutionID =
    .ok claim) ↔ (Claimed reader payload → ∀ text, payload.get? "worker_lease_epoch" = some text →
      isdigit reader text = true → Readable reader text) := by
  unfold executionClaimFromEvent
  split
  next workerID startedAt worker started =>
    dsimp only
    split
    next absent =>
      refine ⟨fun _ _ text found => ?_, fun _ => ⟨_, rfl⟩⟩
      rw [absent.2] at found
      cases found
    · rw [uuid_getD]
      split
      next registrationID epoch registration leased =>
        obtain ⟨found, digits⟩ := Option.filter_eq_some_iff.1 leased
        have claimed : Claimed reader payload :=
          ⟨by simp [worker], by simp [started], by simp [registration]⟩
        refine Iff.trans (b := ∃ value, int reader epoch = .ok value) ?_
          (exists_int_iff.trans ⟨?_, fun all => all claimed epoch found digits⟩)
        · cases int reader epoch <;> simp [Except.map]
        · intro readable _ text same _
          rwa [Option.some.inj (same.symm.trans found)]
      next other =>
        refine ⟨fun _ claimed text found digits => ?_, fun _ => ⟨_, rfl⟩⟩
        obtain ⟨id, registration⟩ := Option.isSome_iff_exists.1 claimed.registration
        exact (other id text registration (Option.filter_eq_some_iff.2 ⟨found, digits⟩)).elim
  next other =>
    refine ⟨fun _ claimed => ?_, fun _ => ⟨_, rfl⟩⟩
    obtain ⟨worker, found⟩ := Option.isSome_iff_exists.1 claimed.worker
    obtain ⟨start, started⟩ := Option.isSome_iff_exists.1 claimed.started
    exact (other worker start found started).elim

/-- An event is parsed or refused, on either path, just where a lease epoch of
digits is one that `int` reads. -/
theorem rejected_cleanly_iff (reader : Reader) (message : Message)
  (payload : Dict String String) (jobID nodeExecutionID : Uuid) :
  (Clean (parseRegisteredWorkerEvent reader payload message) ∧
    ∃ claim, executionClaimFromEvent reader payload jobID nodeExecutionID = .ok claim) ↔
    ∀ text, payload.get? "worker_lease_epoch" = some text → isdigit reader text = true →
      Registered reader payload message ∨ Claimed reader payload →
      Readable reader text := by
  rw [clean_parse_iff, claim_ok_iff]
  constructor
  · rintro ⟨parsed, claimed⟩ text found digits (valid | valid)
    · exact parsed valid text found digits
    · exact claimed valid text found digits
  · intro readable
    exact ⟨fun valid text found digits =>
      readable text found digits (.inl valid), fun valid text found digits =>
      readable text found digits (.inr valid)⟩

/-- Superscript digits are digits, but not decimal ones. -/
def latin : Reader where
  unicode := ascii
  isDigit char := char.isDigit ∨ char ∈ ['²', '³', '¹']
  digit char := if char.isDigit then some (char.toNat - 48) else none
  uuid := parseUUID?
  fromisoformat text :=
    if text = "2026-01-01T00:00:00+00:00" then some ⟨1767225600, true⟩ else none
  uuid_none := by decide

def leased (epoch : String) : Dict String String where
  entries := [("event", "node_failed"), ("job_id", "00000000000000000000000000000001"),
    ("node_execution_id", "00000000000000000000000000000002"),
    ("worker_registration_id", "00000000000000000000000000000003"),
    ("worker_id", "worker"), ("started_at", "2026-01-01T00:00:00+00:00"),
    ("worker_lease_epoch", epoch), ("task_stream", "tasks"),
    ("task_group", "workers"), ("task_message_id", "1-0"),
    ("task_payload_sha256", "0123456789abcdef0123456789abcdef0123456789abcdef0123456789abcdef"),
    ("task_dispatch_key", "00000000000000000000000000000004")]
  nodup := by
    simp only [List.map_cons, List.map_nil]
    decide

/-- Both paths hand on the exception of `int`. -/
theorem superscript_raises :
  parseRegisteredWorkerEvent latin (leased "²") ⟨"events", "group", "1-0"⟩ =
    .error (.value "invalid literal for int() with base 10: '²'") ∧
    executionClaimFromEvent latin (leased "²") 1 2 =
      .error "invalid literal for int() with base 10: '²'" := ⟨rfl, rfl⟩

end VideoProcess.Python.WorkerEvent
