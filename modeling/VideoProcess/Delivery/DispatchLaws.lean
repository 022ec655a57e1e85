import VideoProcess.Delivery.Dispatch

namespace VideoProcess.Delivery

open Data Python Program Fallible

/-! The delivery states form a small graph. -/

inductive Moves : DeliveryState → DeliveryState → Prop
  | stay (state : DeliveryState) : Moves state state
  | attempt : Moves .pending .attempting
  | cancel : Moves .pending .cancelled
  | deliver : Moves .attempting .delivered
  | doubt : Moves .attempting .uncertain

def Change.From : Change → DeliveryState → Prop
  | .attempting _, state => state = .pending
  | .delivered _, state => state = .attempting
  | .uncertain _, state => state = .attempting
  | .cancelled, state => state = .pending
  | .resolved _, _ => True

variable {dispatch : Dispatch} {change : Change}

theorem moves_apply (valid : change.From dispatch.deliveryState) :
  Moves dispatch.deliveryState (dispatch.apply change).deliveryState := by
  cases change with
  | attempting =>
    rw [valid]
    exact .attempt
  | delivered =>
    rw [valid]
    exact .deliver
  | uncertain =>
    rw [valid]
    exact .doubt
  | cancelled =>
    rw [valid]
    exact .cancel
  | resolved => exact .stay _

theorem Moves.not_pending (moves : Moves before after) (begun : before ≠ .pending) :
  after ≠ .pending := by
  cases moves with
  | stay => exact begun
  | attempt | cancel | deliver | doubt => simp

namespace Dispatches

variable {dispatches extended : Dispatches} {row : Dispatch}

theorem rows_write (ids : List Uuid) (change : Change) : (dispatches.write ids change).table.rows =
  dispatches.table.rows.map (written ids change) := by
  simp [write, Table.rows_update]

theorem find?_write (ids : List Uuid) (change : Change) (id : Uuid) :
  (dispatches.write ids change).find? id = (dispatches.find? id).map (written ids change) := by
  unfold write find?
  rw [Table.find?_update]
  simp

theorem insert_eq_some (inserted : dispatches.insert row = some extended) :
  dispatches.table.insert row = some extended.table := by
  unfold insert at inserted
  split at inserted
  · split at inserted
    · cases inserted
    next same =>
      cases inserted
      exact same
  · cases inserted

theorem eq_of_dispatchKey_eq (leftMember : left ∈ dispatches.table.rows)
  (rightMember : right ∈ dispatches.table.rows)
  (same : left.dispatchKey = right.dispatchKey) : left = right :=
  List.inj_on_of_nodup_map dispatches.unique leftMember rightMember same

end Dispatches

open Dispatches

/-- The change is not one that makes a row uncertain, unless the request asks
for that row. -/
def Change.Asked (change : Change) (request : Request) (ids : List Uuid) : Prop :=
  ∀ reason, change = .uncertain reason →
    ∃ id, request = .markDispatchUncertain id reason ∧ ids = [id]

inductive Writes (before : Dispatches) (request : Request) : Dispatches → Prop
  | same : Writes before request before
  | insert {row : Dispatch} {after : Dispatches}
    (new : row.deliveryState = .pending)
    (inserted : before.insert row = some after) : Writes before request after
  | write (ids : List Uuid) (change : Change)
    (valid : ∀ row ∈ before.table.rows, row.id ∈ ids → change.From row.deliveryState)
    (asked : change.Asked request ids) :
    Writes before request (before.write ids change)

section

variable (env : Env) (system : System)

theorem mem_batch (member : dispatch ∈ system.batch env wanted limit) :
  dispatch ∈ system.dispatches.table.rows ∧ wanted dispatch = true := by
  have taken := List.mem_of_mem_take (List.mem_filter.1 member).1
  rw [List.mem_insertionSort] at taken
  exact List.mem_filter.1 taken

theorem nodup_batch (wanted : Dispatch → Bool) (limit : Nat) :
  ((system.batch env wanted limit).map Dispatch.dispatchKey).Nodup := by
  have sorted := (system.dispatches.table.rows.filter wanted).perm_insertionSort
    fun left right => left.createdAt ≤ right.createdAt
  have rows : ((system.dispatches.table.rows.filter wanted).map Dispatch.dispatchKey).Nodup :=
    List.Nodup.sublist (List.filter_sublist.map _) system.dispatches.unique
  have all := (sorted.map Dispatch.dispatchKey).nodup_iff.2 rows
  have part : (system.batch env wanted limit).Sublist _ :=
    List.filter_sublist.trans (List.take_sublist limit _)
  exact List.Nodup.sublist (part.map _) all

variable {request : Request}

theorem writes_batch (wanted chosen : Dispatch → Bool) (limit : Nat) (change : Change)
  (valid : ∀ row, wanted row = true → change.From row.deliveryState)
  (certain : ∀ reason, change ≠ .uncertain reason) :
  Writes system.dispatches request
    (system.write (((system.batch env wanted limit).filter chosen).map
      Dispatch.id) change).dispatches := by
  refine Writes.write _ _ ?_ fun reason same => absurd same (certain reason)
  intro row member listed
  obtain ⟨other, picked, same⟩ := List.mem_map.1 listed
  obtain ⟨present, selected⟩ := mem_batch env system (List.mem_filter.1 picked).1
  rw [← system.dispatches.table.eq_of_key_eq present member same]
  exact valid other selected

theorem writes_one {id : Uuid} (found : system.dispatches.find? id = some dispatch)
  (valid : change.From dispatch.deliveryState)
  (asked : change.Asked request [id]) :
  Writes system.dispatches request (system.write [id] change).dispatches := by
  refine Writes.write _ _ ?_ asked
  intro row member listed
  obtain ⟨present, key⟩ := Table.find?_eq_some_iff.1 found
  have same : row.id = dispatch.id := (List.mem_singleton.1 listed).trans key.symm
  rw [system.dispatches.table.eq_of_key_eq member present same]
  exact valid

theorem pending_of_isPending {row : Dispatch} (pending : System.isPending receiptID row = true) :
  row.deliveryState = .pending := by
  simp only [System.isPending, Bool.and_eq_true, decide_eq_true_eq] at pending
  exact pending.1.1

theorem writes_execBegin (receiptID : Option Uuid) (limit : Nat) : Writes system.dispatches request
  (execBegin env receiptID limit system).2.dispatches := by
  unfold execBegin
  split
  · exact .same
  · have whole := List.filter_true (system.batch env (System.isPending receiptID) limit)
    have writes : Writes system.dispatches request _ :=
      writes_batch env system (System.isPending receiptID) (fun _ => true) limit
        (.attempting env.now) (fun row pending => pending_of_isPending pending)
        (by simp)
    rwa [whole] at writes

section

variable (dispatch : Dispatch) (fields : List String)

theorem iterate_runScript (messageID : String) (executions : Nat) (before : System) :
  (System.runScript dispatch fields messageID)^[executions] before = before ∨
    (System.runScript dispatch fields messageID)^[executions] before =
      System.runScript dispatch fields messageID before := by
  cases executions with
  | zero => exact .inl rfl
  | succ =>
    right
    rw [Function.iterate_succ_apply]
    apply Function.iterate_fixed
    cases marked : before.markers.get? dispatch.dispatchKey with
    | some => simp [System.runScript, marked]
    | none => simp [System.runScript, marked, Dict.get?_set]

theorem state_execEval : (execEval env dispatch fields system).2 =
    (System.runScript dispatch fields env.messageID)^[env.executions]
      { system with issued := system.issued ++ [dispatch.dispatchKey] } := by
  unfold execEval
  dsimp only
  split <;> rfl

theorem runScript_keeps (messageID : String) (before : System) :
  (System.runScript dispatch fields messageID before).dispatches = before.dispatches ∧
    (System.runScript dispatch fields messageID before).issued = before.issued := by
  unfold System.runScript
  split <;> exact ⟨rfl, rfl⟩

theorem eval_keeps : (execEval env dispatch fields system).2.dispatches = system.dispatches ∧
    (execEval env dispatch fields system).2.issued = system.issued ++ [dispatch.dispatchKey] := by
  rw [state_execEval]
  rcases iterate_runScript dispatch fields env.messageID env.executions
    { system with issued := system.issued ++ [dispatch.dispatchKey] } with
    same | same
  · rw [same]
    exact ⟨rfl, rfl⟩
  · rw [same]
    exact runScript_keeps dispatch fields env.messageID _

def Entry.has (dispatchKey : Uuid) (entry : Entry) : Bool := entry.dispatchKey = dispatchKey

theorem stream_execEval (key : Uuid) :
  (execEval env dispatch fields system).2.stream.countP (Entry.has key) ≤
    system.stream.countP (Entry.has key) + if dispatch.dispatchKey = key then 1 else 0 := by
  rw [state_execEval]
  rcases iterate_runScript dispatch fields env.messageID env.executions
    { system with issued := system.issued ++ [dispatch.dispatchKey] } with
    same | same
  · rw [same]
    exact Nat.le_add_right _ _
  · rw [same, System.runScript]
    split
    · exact Nat.le_add_right _ _
    · simp [Entry.has]

end

theorem writes_exec (request : Request) :
  Writes system.dispatches request (exec env request system).2.dispatches := by
  have interrupted {α : Type} {request : Request} {outcome : Except String α × System}
    (writes : Writes system.dispatches request outcome.2.dispatches) :
    Writes system.dispatches request (interrupt env.fault system outcome).2.dispatches :=
    interrupt_state (fun after : System =>
      Writes system.dispatches request after.dispatches) .same writes
  cases request with
  | now => exact .same
  | beginDispatchAttempts receiptID limit =>
    exact interrupted (writes_execBegin env system receiptID limit)
  | selectStaleAttempts | get => exact interrupted .same
  | eval dispatch fields =>
    have same := (eval_keeps env system dispatch fields).1
    exact same ▸ .same
  | markDispatchDelivered =>
    apply interrupted
    unfold execDelivered
    split
    · exact .same
    next found =>
      split_ifs with delivered same attempting
      · exact .same
      · exact .same
      · exact writes_one system found attempting (by simp [Change.Asked])
      · exact .same
  | markDispatchUncertain id =>
    apply interrupted
    unfold execUncertain
    split
    · exact .same
    next found =>
      split_ifs with delivered attempting
      · exact .same
      · exact writes_one system found attempting fun _ same => by
          cases same
          exact ⟨id, rfl, rfl⟩
      · exact .same
  | cancelPendingDispatches =>
    apply interrupted
    apply writes_batch
    · intro row wanted
      exact pending_of_isPending (Bool.and_eq_true_iff.1 wanted).1
    · simp
  | authorizeCancelledDispatches =>
    apply interrupted
    apply writes_batch
    · exact fun _ _ => trivial
    · simp
  | acknowledgeCancelledDispatch =>
    apply interrupted
    unfold execAcknowledge
    split
    · exact .same
    next found =>
      split_ifs with acknowledged authorized
      · exact .same
      · exact writes_one system found trivial (by simp [Change.Asked])
      · exact .same
  | stage draft =>
    cases inserted : system.dispatches.insert (staged env draft) with
    | none =>
      have same : (exec env (.stage draft) system).2.dispatches =
        system.dispatches := by simp [exec, inserted]
      rw [same]
      exact .same
    | some after =>
      have new : (exec env (.stage draft) system).2.dispatches = after := by simp [exec, inserted]
      rw [new]
      exact .insert rfl inserted
  | resolve => exact .write _ _ (fun _ _ _ => trivial) (by simp [Change.Asked])
  | forget => exact .same

theorem quiet_exec (other : ∀ dispatch fields, request ≠ .eval dispatch fields) :
  (exec env request system).2.issued = system.issued ∧
    (exec env request system).2.stream = system.stream := by
  have interrupted {α : Type} {outcome : Except String α × System}
    (same : outcome.2.issued = system.issued ∧ outcome.2.stream = system.stream) :
    (interrupt env.fault system outcome).2.issued = system.issued ∧
      (interrupt env.fault system outcome).2.stream = system.stream :=
    interrupt_state (fun after : System => after.issued = system.issued ∧
      after.stream = system.stream) ⟨rfl, rfl⟩ same
  cases request with
  | now => exact ⟨rfl, rfl⟩
  | eval dispatch fields => exact absurd rfl (other dispatch fields)
  | beginDispatchAttempts =>
    apply interrupted
    unfold execBegin
    split <;> exact ⟨rfl, rfl⟩
  | markDispatchDelivered =>
    apply interrupted
    unfold execDelivered
    split
    · exact ⟨rfl, rfl⟩
    · split_ifs <;> exact ⟨rfl, rfl⟩
  | markDispatchUncertain =>
    apply interrupted
    unfold execUncertain
    split
    · exact ⟨rfl, rfl⟩
    · split_ifs <;> exact ⟨rfl, rfl⟩
  | acknowledgeCancelledDispatch =>
    apply interrupted
    unfold execAcknowledge
    split
    · exact ⟨rfl, rfl⟩
    · split_ifs <;> exact ⟨rfl, rfl⟩
  | selectStaleAttempts | get | cancelPendingDispatches
  | authorizeCancelledDispatches => exact interrupted ⟨rfl, rfl⟩
  | stage | resolve | forget => exact ⟨rfl, rfl⟩

end

variable {request : Request}

theorem Writes.row (writes : Writes before request after)
  {id : Uuid} {row : Dispatch} (found : before.find? id = some row) :
  ∃ current, after.find? id = some current ∧ current.dispatchKey = row.dispatchKey ∧
    Moves row.deliveryState current.deliveryState := by
  cases writes with
  | same => exact ⟨row, found, rfl, .stay _⟩
  | insert _ inserted =>
    refine ⟨row, ?_, rfl, .stay _⟩
    have placed := insert_eq_some inserted
    rw [Dispatches.find?, Table.find?_insert placed, if_neg]
    · exact found
    · intro same
      obtain ⟨member, key⟩ := Table.find?_eq_some_iff.1 found
      exact (Table.insert_eq_some_iff.1 placed).1 row member (key.trans same.symm)
  | write ids change valid =>
    refine ⟨written ids change row, ?_, dispatchKey_written ids change row, ?_⟩
    · rw [find?_write, found]
      rfl
    · unfold written
      split
      next listed =>
        have member := (Table.find?_eq_some_iff.1 found).1
        exact moves_apply (valid row member listed)
      · exact .stay _

theorem Writes.uncertain {before : Dispatches}
  (writes : Writes before request after) {row : Dispatch}
  (member : row ∈ after.table.rows)
  (uncertain : row.deliveryState = .uncertain) :
  (∃ earlier ∈ before.table.rows, earlier.dispatchKey = row.dispatchKey ∧
    earlier.deliveryState = .uncertain) ∨
    ∃ reason, request = .markDispatchUncertain row.id reason := by
  cases writes with
  | same => exact .inl ⟨row, member, rfl, uncertain⟩
  | insert new inserted =>
    rw [(Table.insert_eq_some_iff.1 (insert_eq_some inserted)).2, Table.mem_place] at member
    rcases member with rfl | member
    · rw [new] at uncertain
      cases uncertain
    · exact .inl ⟨row, member, rfl, uncertain⟩
  | write ids change _ asked =>
    rw [rows_write] at member
    obtain ⟨earlier, present, rfl⟩ := List.mem_map.1 member
    have sameKey := dispatchKey_written ids change earlier
    have sameID := id_written ids change earlier
    rw [sameID]
    by_cases listed : earlier.id ∈ ids
    · rw [written, if_pos listed] at uncertain
      cases change with
      | attempting | delivered | cancelled => cases uncertain
      | resolved => exact .inl ⟨earlier, present, sameKey.symm, uncertain⟩
      | uncertain reason =>
        obtain ⟨_, rfl, rfl⟩ := asked reason rfl
        exact .inr ⟨reason, by rw [List.mem_singleton.1 listed]⟩
    · rw [written, if_neg listed] at uncertain
      exact .inl ⟨earlier, present, sameKey.symm, uncertain⟩

/-! The protocol of the calls. A note holds the dispatches of the batch whose
command is still to be sent, and the attempts that were found to be stale. -/

structure Note where
  owed : List Dispatch
  stale : List Uuid

namespace Note

def idle : Note := ⟨[], []⟩

def next (note : Note) : (request : Request) → dispatching.Reply request → Note
  | .beginDispatchAttempts _ _, .ok dispatches => { note with owed := dispatches }
  | .selectStaleAttempts _ _ _, .ok attempts => { note with stale := attempts.map Dispatch.id }
  | .eval _ _, _ => { note with owed := note.owed.tail }
  | _, _ => note

def Allows (note : Note) : Request → Prop
  | .eval dispatch _ => note.owed.head? = some dispatch
  | .markDispatchUncertain id _ => id ∈ note.stale
  | _ => True

end Note

def protocol : Contract dispatching Note where
  requires note request := note.Allows request
  ensures note request reply after := after = note.next request reply

abbrev follows {α : Type} (program : Call α) (note : Note) (post : α → Note → Prop) : Prop :=
  safe protocol program post (fun _ => True) note

section

variable {α : Type} (service : Service)

theorem follows_send {reply : dispatching.Reply request = Except String α}
  (allowed : note.Allows request)
  (holds : ∀ answer result, cast reply answer = .ok result →
    post result (note.next request answer)) :
  follows (send request reply) note post := by
  refine ⟨allowed, ?_⟩
  rintro answer _ rfl
  change Outcome post _ (cast reply answer) _
  cases received : cast reply answer with
  | error => trivial
  | ok result => exact holds answer result received

theorem follows_settleAttempt {marker : Option String} (listed : dispatch.id ∈ note.stale) :
  follows (service.settleAttempt dispatch marker) note fun _ after => after = note := by
  unfold Service.settleAttempt
  split
  · exact follows_send trivial fun _ _ _ => rfl
  · exact follows_send listed fun _ _ _ => rfl

theorem follows_recoverEach (attempts : List Dispatch)
  (listed : ∀ dispatch ∈ attempts, dispatch.id ∈ note.stale) :
  follows (service.recoverEach attempts) note fun _ after => after = note := by
  induction attempts with
  | nil => exact safe_pure rfl
  | cons dispatch _ ih =>
    apply safe_bind
    refine follows_send (by trivial) ?_
    intro answer marker _
    apply safe_bind
    apply safe_mono (follows_settleAttempt service (listed dispatch List.mem_cons_self))
    · rintro _ _ rfl
      exact ih fun other member =>
        listed other (List.mem_cons_of_mem dispatch member)
    · exact fun _ failed => failed

end

end VideoProcess.Delivery
