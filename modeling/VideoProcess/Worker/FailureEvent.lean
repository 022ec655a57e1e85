import VideoProcess.Worker.CanonicalPayload
import VideoProcess.GoText
import VideoProcess.Contracts

namespace VideoProcess.Worker

open Data Utf8 GoText

/-! The event by which a registered worker reports a failed task. -/

/-- Nanoseconds. -/
abbrev Time := Int

structure WorkerTaskDeliveryProof where
  (redisStream consumerGroup messageID payloadSHA256 : String)
  dispatchKey : Uuid

/-- A claim the database has granted, so that its texts are valid. -/
structure WorkerNodeClaim where
  registrationID : Uuid
  leaseEpoch : Int
  workerID : String
  workerStartedAt : Time
  (jobID nodeExecutionID attestationID : Uuid)
  delivery : WorkerTaskDeliveryProof

/-- `UTC().Format(time.RFC3339Nano)`. -/
abbrev TimeFormat := Time → String

abbrev EventValues := Dict String Bytes

section

variable (format : TimeFormat) (claim : WorkerNodeClaim) (proof : WorkerTaskDeliveryProof)

def baseWorkerEventValues : EventValues where
  entries := [
    ("job_id", utf8 (uuidString claim.jobID)),
    ("node_execution_id", utf8 (uuidString claim.nodeExecutionID)),
    ("worker_id", utf8 claim.workerID),
    ("started_at", utf8 (format claim.workerStartedAt)),
    ("worker_registration_id", utf8 (uuidString claim.registrationID)),
    ("worker_lease_epoch", utf8 (toString claim.leaseEpoch)),
    ("task_stream", utf8 proof.redisStream),
    ("task_group", utf8 proof.consumerGroup),
    ("task_message_id", utf8 proof.messageID),
    ("task_payload_sha256", utf8 proof.payloadSHA256),
    ("task_dispatch_key", utf8 (uuidString proof.dispatchKey))]
  nodup := by
    simp only [List.map_cons, List.map_nil]
    decide

/-- The longest part of the first `maximumBytes` bytes that is valid. -/
def validLength (value : Bytes) : Nat → Nat
  | 0 => 0
  | maximumBytes + 1 =>
    if validString (value.take (maximumBytes + 1)) then maximumBytes + 1
    else validLength value maximumBytes

def boundedUTF8 (value : Bytes) (maximumBytes : Nat) : Bytes :=
  if value.length ≤ maximumBytes then value
  else value.take (validLength value maximumBytes)

def failedWorkerEventValues (errorMessage : Bytes) : EventValues :=
  ((baseWorkerEventValues format claim proof).set "event"
    (utf8 "node_failed")).set "error" (boundedUTF8 errorMessage 2000)

def mismatch : Except String Unit := .error "event_emission_mismatch"

/-- The expected values are those of `baseWorkerEventValues` for the claim's
own delivery. -/
def validateWorkerEventValues (values : Option EventValues) : Except String Unit :=
  match values with
  | none => mismatch
  | some values =>
    let expected := baseWorkerEventValues format claim claim.delivery
    let event := values.getD "event" []
    let artifact := values.getD "output_artifact_id" []
    let error := values.getD "error" []
    if values.entries.length ≠ 13 then mismatch
    else if ∃ entry ∈ expected.entries, values.getD entry.1 [] ≠ entry.2 then
      mismatch
    else if event = utf8 "node_completed" then
      if isBlank artifact ∨ error ≠ [] then mismatch else .ok ()
    else if event = utf8 "node_failed" then
      if isBlank error ∨ artifact ≠ [] then mismatch else .ok ()
    else mismatch

def EventValues.goMap (values : EventValues) : GoMap where
  entries := values.entries.map fun entry => (utf8 entry.1, entry.2)
  nodup := by
    rw [List.map_map]
    have keys := values.nodup.map utf8_injective
    rwa [List.map_map] at keys

def tail (value : Bytes) (maximum : Nat) : Bytes :=
  if value.length ≤ maximum then value
  else value.drop (value.length - maximum)

/-- The event can be stored: its values pass the check and can be encoded. -/
def Storable (values : EventValues) : Prop :=
  validateWorkerEventValues format claim (some values) = .ok () ∧
    ∃ payload, canonicalRedisPayloadJSON (some values.goMap) = .ok payload

end

theorem base_keys : (baseWorkerEventValues format claim proof).keys =
  ["job_id", "node_execution_id", "worker_id", "started_at",
    "worker_registration_id", "worker_lease_epoch", "task_stream",
    "task_group", "task_message_id", "task_payload_sha256",
    "task_dispatch_key"] := rfl

theorem failed_keys : (failedWorkerEventValues format claim proof errorMessage).keys =
  (baseWorkerEventValues format claim proof).keys ++ ["event", "error"] := by
  rw [failedWorkerEventValues, Dict.keys_set, Dict.keys_set, base_keys]
  decide

theorem length_failed : (failedWorkerEventValues format claim proof errorMessage).entries.length =
  13 := by
  have keys := congrArg List.length (@failed_keys format claim proof errorMessage)
  rwa [base_keys, Dict.keys, List.length_map] at keys

theorem getD_failed (key : String) :
  (failedWorkerEventValues format claim proof errorMessage).getD key [] =
    if "error" = key then boundedUTF8 errorMessage 2000
    else if "event" = key then utf8 "node_failed"
    else (baseWorkerEventValues format claim proof).getD key [] := by
  rw [failedWorkerEventValues, Dict.getD_set, Dict.getD_set]

theorem getD_failed_base (member : entry ∈ (baseWorkerEventValues format claim proof).entries) :
  (failedWorkerEventValues format claim proof errorMessage).getD entry.1 [] = entry.2 := by
  have key : entry.1 ∈ (baseWorkerEventValues format claim proof).keys := List.mem_map_of_mem member
  have named : "error" ≠ entry.1 ∧ "event" ≠ entry.1 := by
    constructor
    · intro same
      rw [← same, base_keys] at key
      revert key
      decide
    · intro same
      rw [← same, base_keys] at key
      revert key
      decide
  rw [getD_failed, if_neg named.1, if_neg named.2, Dict.getD_of_mem member]

theorem validate_failed_iff : validateWorkerEventValues format claim
  (some (failedWorkerEventValues format claim claim.delivery errorMessage)) = .ok () ↔
  isBlank (boundedUTF8 errorMessage 2000) = false := by
  have expected : ¬ ∃ entry ∈ (baseWorkerEventValues format claim claim.delivery).entries,
    (failedWorkerEventValues format claim claim.delivery
      errorMessage).getD entry.1 [] ≠ entry.2 := by
    rintro ⟨_, member, differs⟩
    exact differs (getD_failed_base member)
  have event := @getD_failed format claim claim.delivery errorMessage "event"
  have error := @getD_failed format claim claim.delivery errorMessage "error"
  have artifact := @getD_failed format claim claim.delivery errorMessage "output_artifact_id"
  rw [if_neg (by decide), if_pos rfl] at event
  rw [if_pos rfl] at error
  rw [if_neg (by decide), if_neg (by decide)] at artifact
  have absent : (baseWorkerEventValues format claim claim.delivery).getD
    "output_artifact_id" [] = [] := by
    rw [Dict.getD, Dict.get?_eq_none_iff.2 (by rw [base_keys]; decide), Option.getD_none]
  simp only [validateWorkerEventValues, length_failed, expected, event, error, artifact, absent]
  rw [if_neg (by decide), if_neg not_false, if_neg (by decide), if_pos trivial]
  by_cases blank : isBlank (boundedUTF8 errorMessage 2000) = true <;>
    simp [blank, mismatch]

theorem validString_base (member : entry ∈ (baseWorkerEventValues format claim proof).entries) :
  validString entry.2 = true := by
  simp only [baseWorkerEventValues, List.mem_cons, List.not_mem_nil, or_false] at member
  rcases member with rfl | rfl | rfl | rfl | rfl | rfl | rfl | rfl | rfl | rfl |
    rfl <;> exact validString_utf8 _

theorem mem_failed_error : ("error", boundedUTF8 errorMessage 2000) ∈
  (failedWorkerEventValues format claim proof errorMessage).entries := by
  rw [← Dict.get?_eq_some_iff, failedWorkerEventValues, Dict.get?_set, if_pos rfl]

theorem canonical_failed_iff : (∃ payload, canonicalRedisPayloadJSON
  (some (failedWorkerEventValues format claim proof errorMessage).goMap) = .ok payload) ↔
  validString (boundedUTF8 errorMessage 2000) = true := by
  rw [exists_canonicalRedisPayloadJSON_iff]
  constructor
  · intro valid
    exact (valid _ (List.mem_map.2 ⟨_, mem_failed_error, rfl⟩)).2
  · intro valid pair member
    obtain ⟨entry, stored, rfl⟩ := List.mem_map.1 member
    refine ⟨validString_utf8 _, ?_⟩
    have value := Dict.getD_of_mem stored []
    rw [getD_failed] at value
    change validString entry.2 = true
    rw [← value]
    split
    · exact valid
    · split
      · exact validString_utf8 _
      · cases found : (baseWorkerEventValues format claim proof).get? entry.1 with
        | none =>
          rw [Dict.getD, found]
          exact validString_utf8 ""
        | some =>
          rw [Dict.getD, found]
          exact validString_base (Dict.get?_eq_some_iff.1 found)

theorem validString_iff : validString value = true ↔ ∃ text, encode text = value := by
  rw [validString, Option.isSome_iff_exists]
  simp only [decode?_eq_some_iff]

theorem validString_take_validLength (value : Bytes) (maximum : Nat) :
  validString (value.take (validLength value maximum)) = true := by
  induction maximum with
  | zero => exact validString_iff.2 ⟨[], by simp [validLength]⟩
  | succ _ ih =>
    unfold validLength
    split
    · assumption
    · exact ih

theorem le_validLength (within : size ≤ maximum) (valid : validString (value.take size) = true) :
  size ≤ validLength value maximum := by
  induction maximum with
  | zero => exact within
  | succ _ ih =>
    unfold validLength
    split
    · exact within
    next invalid =>
      apply ih
      rcases Nat.lt_or_eq_of_le within with less | rfl
      · exact Nat.le_of_lt_succ less
      · exact absurd valid invalid

theorem validLength_le (value : Bytes) (maximum : Nat) : validLength value maximum ≤ maximum := by
  induction maximum with
  | zero => exact Nat.le_refl _
  | succ _ ih =>
    unfold validLength
    split
    · exact Nat.le_refl _
    · exact Nat.le_succ_of_le ih

/-- Some character of the first 2000 bytes, up to which they are valid, is not
a space; a message that is not cut is valid as a whole. -/
def Reportable (message : Bytes) : Prop :=
  (message.length ≤ 2000 → validString message = true) ∧
    ∃ text : List Char, encode text <+: message ∧
      (encode text).length ≤ 2000 ∧ ∃ char ∈ text, isSpace char = false

theorem validString_boundedUTF8_iff : validString (boundedUTF8 message 2000) = true ↔
  (message.length ≤ 2000 → validString message = true) := by
  unfold boundedUTF8
  split
  next short => exact ⟨fun valid _ => valid, fun valid => valid short⟩
  next long => exact ⟨fun _ short => absurd short long, fun _ => validString_take_validLength _ _⟩

theorem boundedUTF8_starts (message : Bytes) : boundedUTF8 message 2000 <+: message := by
  unfold boundedUTF8
  split
  · exact ⟨[], List.append_nil _⟩
  · exact List.take_prefix _ _

theorem length_boundedUTF8 (message : Bytes) : (boundedUTF8 message 2000).length ≤ 2000 := by
  unfold boundedUTF8
  split
  · assumption
  · rw [List.length_take]
    exact (Nat.min_le_left _ _).trans (validLength_le _ _)

theorem starts_boundedUTF8 (starts : encode text <+: message) (fits : (encode text).length ≤ 2000) :
  encode text <+: boundedUTF8 message 2000 := by
  unfold boundedUTF8
  split
  · exact starts
  · apply List.prefix_of_prefix_length_le starts ( List.take_prefix _ _)
    have start := List.prefix_iff_eq_take.1 starts
    have kept : (encode text).length ≤ validLength message 2000 :=
      le_validLength fits (validString_iff.2 ⟨text, start⟩)
    rw [List.length_take]
    exact le_min kept starts.length_le

theorem isBlank_boundedUTF8_iff (valid : validString (boundedUTF8 message 2000) = true) :
  isBlank (boundedUTF8 message 2000) = false ↔ ∃ text : List Char, encode text <+: message ∧
    (encode text).length ≤ 2000 ∧ ∃ char ∈ text, isSpace char = false := by
  obtain ⟨whole, encoded⟩ := validString_iff.1 valid
  rw [← Bool.not_eq_true, ← encoded, isBlank_encode]
  constructor
  · intro solid
    push Not at solid
    obtain ⟨char, member, shown⟩ := solid
    refine ⟨whole, ?_, ?_, char, member, by simpa using shown⟩
    · rw [encoded]
      exact boundedUTF8_starts message
    · rw [encoded]
      exact length_boundedUTF8 message
  · rintro ⟨_, starts, fits, char, member, shown⟩ blank
    have kept := starts_boundedUTF8 starts fits
    rw [← encoded] at kept
    rw [blank char ((starts_of_encode kept).subset member)] at shown
    cases shown

/-- A failure can be reported exactly if the handler's error text is
reportable. -/
theorem storable_failed_iff (format : TimeFormat) (claim : WorkerNodeClaim) (errorMessage : Bytes) :
  Storable format claim (failedWorkerEventValues format claim claim.delivery
    errorMessage) ↔ Reportable errorMessage := by
  rw [Storable, validate_failed_iff, canonical_failed_iff, Reportable,
    ← validString_boundedUTF8_iff]
  constructor
  · rintro ⟨solid, valid⟩
    exact ⟨valid, (isBlank_boundedUTF8_iff valid).1 solid⟩
  · rintro ⟨valid, solid⟩
    exact ⟨(isBlank_boundedUTF8_iff valid).2 solid, valid⟩

/-- The runner cuts a long stderr at any byte, but what it puts before the cut
is kept. -/
theorem storable_of_long_stderr {stderr : Bytes} (member : char ∈ lead)
  (shown : isSpace char = false) (fits : (encode lead).length ≤ 2000)
  (long : 2000 < stderr.length) : Storable format claim (failedWorkerEventValues format claim
    claim.delivery (encode lead ++ tail stderr 2000)) := by
  have valid : validString (boundedUTF8 (encode lead ++ tail stderr 2000) 2000) = true := by
    refine validString_boundedUTF8_iff.2 fun short => ?_
    have cut : (tail stderr 2000).length = 2000 := by
      rw [tail, if_neg (Nat.not_le.2 long), List.length_drop]
      omega
    rw [List.length_append, cut] at short
    have empty : encode lead = [] := List.length_eq_zero_iff.1 (by omega)
    rw [encode_injective (empty.trans encode_nil.symm)] at member
    cases member
  exact ⟨validate_failed_iff.2 ((isBlank_boundedUTF8_iff valid).2
    ⟨lead, ⟨_, rfl⟩, fits, char, member, shown⟩), canonical_failed_iff.2 valid⟩

def sampleClaim : WorkerNodeClaim where
  registrationID := 1
  leaseEpoch := 1
  workerID := "worker"
  workerStartedAt := 1
  jobID := 2
  nodeExecutionID := 3
  attestationID := 4
  delivery := ⟨"tasks", "workers", "1-0",
    "0000000000000000000000000000000000000000000000000000000000000000", 5⟩

def latinMessage : Bytes :=
  utf8 "ffmpeg failed: exit status 1: caf" ++ 0xe9 :: utf8 ".mp4: No such file"

def sampleFormat : TimeFormat := fun _ => "2026-01-01T00:00:00Z"

theorem storable_binary_stderr : Storable sampleFormat sampleClaim
  (failedWorkerEventValues sampleFormat sampleClaim sampleClaim.delivery
    (utf8 "ffmpeg failed: " ++ tail (List.replicate 2001 0xff) 2000)) :=
  @storable_of_long_stderr _ 'f' _ _ _ (by decide) (by decide) (by decide)
    (by rw [List.length_replicate]; decide)

/-- The event passes the check and cannot be encoded. -/
theorem latin_message_unstorable : validateWorkerEventValues sampleFormat sampleClaim
  (some (failedWorkerEventValues sampleFormat sampleClaim
    sampleClaim.delivery latinMessage)) = .ok () ∧
  ¬ Storable sampleFormat sampleClaim (failedWorkerEventValues sampleFormat
    sampleClaim sampleClaim.delivery latinMessage) := by
  have bounded : isBlank (boundedUTF8 latinMessage 2000) = false ∧
    validString (boundedUTF8 latinMessage 2000) = false := by
    decide +kernel
  refine ⟨validate_failed_iff.2 bounded.1, fun storable => ?_⟩
  have valid := canonical_failed_iff.1 storable.2
  rw [bounded.2] at valid
  cases valid

end VideoProcess.Worker
