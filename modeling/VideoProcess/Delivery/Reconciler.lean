import VideoProcess.Delivery.DispatchLaws
import VideoProcess.Program.Ledger

namespace VideoProcess.Delivery

open Data Python Program

/-! Reconcilers that run side by side and may stop anywhere. -/

def System.punctual (system : System) : Request → Bool
  | .selectStaleAttempts receiptID cutoff _ =>
    system.dispatches.table.rows.all fun dispatch =>
      !System.isStale receiptID cutoff dispatch || dispatch.dispatchKey ∈ system.issued
  | _ => true

def rules (punctual : Prop) : Rules dispatching System Env Note Unit (Except String Unit) where
  start _ program note := ∃ activity : Activity, program = activity.program.run ∧ note = Note.idle
  call _ _ request _ system := punctual → system.punctual request = true
  abandon _ := True

def observer : Observer dispatching System Note Unit where
  note := Note.next
  silent := ()
  resume _ _ _ := ()
  hear _ _ _ := ()

def Begun (system : System) (key : Uuid) : Prop :=
  ∃ row ∈ system.dispatches.table.rows, row.dispatchKey = key ∧ row.deliveryState ≠ .pending

/-- A batch that has been begun owes the commands still to be sent. -/
def commands : Ledger System Note Uuid where
  taken system key := system.issued.count key
  owed note := note.owed.map Dispatch.dispatchKey
  begun := Begun

structure Tracked (system : System) (books : List (Note × Unit)) : Prop where
  sound : commands.Sound system books
  streamed : ∀ key, system.stream.countP (Entry.has key) ≤ system.issued.count key

section

variable {system : System} {front back : List (Note × Unit)} {note : Note} {key : Uuid}

theorem find?_of_mem (member : row ∈ system.dispatches.table.rows) :
  system.dispatches.find? row.id = some row := Table.find?_eq_some_iff.2 ⟨member, rfl⟩

theorem Begun.exec (env : Env) (request : Request) (begun : Begun system key) :
  Begun (exec env request system).2 key := by
  obtain ⟨_, member, rfl, started⟩ := begun
  obtain ⟨current, found, same, moves⟩ := (writes_exec env system request).row (find?_of_mem member)
  exact ⟨current, (Table.find?_eq_some_iff.1 found).1, same, moves.not_pending started⟩

theorem Tracked.of_quiet (env : Env) (tracked : Tracked system (front ++ (note, ()) :: back))
  (other : ∀ dispatch fields, request ≠ .eval dispatch fields)
  (same : next.owed = note.owed) :
  Tracked (exec env request system).2 (front ++ (next, ()) :: back) := by
  obtain ⟨issued, stream⟩ := quiet_exec env system other
  constructor
  · apply tracked.sound.keep fun _ begun => begun.exec env request
    · exact fun key => congrArg (List.count key) issued
    · exact congrArg (List.map Dispatch.dispatchKey) same
  · rw [issued, stream]
    exact tracked.streamed

theorem Tracked.eval (env : Env) (tracked : Tracked system (front ++ (note, ()) :: back))
  (first : note.owed.head? = some dispatch) :
  Tracked (exec env (.eval dispatch fields) system).2 (front ++
    ({ note with owed := note.owed.tail }, ()) :: back) := by
  obtain ⟨-, issued⟩ := eval_keeps env system dispatch fields
  have counted (key : Uuid) : (exec env (.eval dispatch fields) system).2.issued.count key =
    system.issued.count key + if dispatch.dispatchKey = key then 1 else 0 := by
    change (execEval env dispatch fields system).2.issued.count key = _
    rw [issued, List.count_append, List.count_singleton]
    simp
  have owed : note.owed = dispatch :: note.owed.tail := List.eq_cons_of_mem_head? first
  constructor
  · apply tracked.sound.take (fun _ begun => begun.exec env _) counted
    exact congrArg (List.map Dispatch.dispatchKey) owed
  · intro key
    have grown := stream_execEval env system dispatch fields key
    have before := tracked.streamed key
    rw [counted]
    change (execEval env dispatch fields system).2.stream.countP _ ≤ _
    omega

theorem begin_replied {dispatches : List Dispatch}
  (replied : (exec env (.beginDispatchAttempts receiptID limit) system).1 = .ok dispatches) :
  (dispatches.map Dispatch.dispatchKey).Nodup ∧
    ∀ dispatch ∈ dispatches, (∃ row ∈ system.dispatches.table.rows,
      row.dispatchKey = dispatch.dispatchKey ∧ row.deliveryState = .pending) ∧
      Begun (exec env (.beginDispatchAttempts receiptID limit) system).2 dispatch.dispatchKey := by
  simp only [exec] at replied ⊢
  have executed := interrupt_eq_ok replied
  rw [executed] at replied ⊢
  unfold execBegin at replied ⊢
  split at replied
  · cases replied
  next applied =>
    rw [if_neg applied]
    cases replied
    constructor
    · rw [List.map_map]
      have keys : Dispatch.dispatchKey ∘ (·.apply (.attempting env.now)) =
        Dispatch.dispatchKey := rfl
      rw [keys]
      exact nodup_batch env system _ limit
    · intro dispatch member
      obtain ⟨row, picked, rfl⟩ := List.mem_map.1 member
      obtain ⟨present, pending⟩ := mem_batch env system picked
      refine ⟨⟨row, present, rfl, pending_of_isPending pending⟩, ?_⟩
      refine ⟨row.apply (.attempting env.now), ?_, rfl, by simp [Dispatch.apply]⟩
      simp only [System.write, Dispatches.rows_write]
      refine List.mem_map.2 ⟨row, present, ?_⟩
      exact if_pos (List.mem_map_of_mem picked)

theorem Tracked.begin (env : Env) (tracked : Tracked system (front ++ (note, ()) :: back)) :
  Tracked (exec env (.beginDispatchAttempts receiptID limit) system).2
    (front ++ (note.next (.beginDispatchAttempts receiptID limit)
      (exec env (.beginDispatchAttempts receiptID limit) system).1, ()) ::
      back) := by
  have other (dispatch : Dispatch) (fields : List String) :
    Request.beginDispatchAttempts receiptID limit ≠ .eval dispatch fields := by
    simp
  cases replied : (exec env (.beginDispatchAttempts receiptID limit) system).1 with
  | error => exact tracked.of_quiet env other rfl
  | ok =>
    obtain ⟨issued, stream⟩ := quiet_exec env system other
    obtain ⟨nodup, rows⟩ := begin_replied replied
    constructor
    · apply tracked.sound.owe (fun _ begun => begun.exec env _)
      · exact fun key => congrArg (List.count key) issued
      · exact nodup
      · intro key listed
        obtain ⟨dispatch, member, rfl⟩ := List.mem_map.1 listed
        obtain ⟨⟨row, present, shared, pending⟩, begun⟩ := rows dispatch member
        refine ⟨?_, begun⟩
        -- A key of the batch belongs to a pending row.
        rintro ⟨_, present', shared', started⟩
        rw [system.dispatches.eq_of_dispatchKey_eq present' present
          (shared'.trans shared.symm)] at started
        exact started pending
    · rw [issued, stream]
      exact tracked.streamed

end

def Issued (system : System) (id : Uuid) : Prop :=
  ∃ row, system.dispatches.find? id = some row ∧ row.dispatchKey ∈ system.issued

structure Sent (system : System) (books : List (Note × Unit)) : Prop where
  stale : ∀ book ∈ books, ∀ id ∈ book.1.stale, Issued system id
  uncertain : ∀ row ∈ system.dispatches.table.rows,
    row.deliveryState = .uncertain → row.dispatchKey ∈ system.issued

section

variable {system : System} {front back : List (Note × Unit)} {note : Note}

theorem issued_exec (env : Env) (request : Request) (issued : key ∈ system.issued) :
  key ∈ (exec env request system).2.issued := by
  cases request with
  | eval dispatch fields =>
    have grown := (eval_keeps env system dispatch fields).2
    exact grown ▸ List.mem_append_left _ issued
  | _ =>
    rw [(quiet_exec env system (by simp)).1]
    exact issued

theorem Issued.exec (env : Env) (request : Request) {id : Uuid}
  (issued : Issued system id) : Issued (exec env request system).2 id := by
  obtain ⟨_, found, sent⟩ := issued
  obtain ⟨current, found, same, -⟩ := (writes_exec env system request).row found
  exact ⟨current, found, same ▸ issued_exec env request sent⟩

section

variable (env : Env) {request : Request} (sent : Sent system (front ++ (note, ()) :: back))
  (allowed : note.Allows request)

include env sent allowed

theorem sent_exec : ∀ row ∈ (exec env request system).2.dispatches.table.rows,
  row.deliveryState = .uncertain → row.dispatchKey ∈ (exec env request system).2.issued := by
  intro row member uncertain
  rcases (writes_exec env system request).uncertain member uncertain with
    ⟨earlier, present, same, already⟩ | ⟨reason, rfl⟩
  · rw [← same]
    exact issued_exec env request (sent.uncertain earlier present already)
  · have issued := sent.stale (note, ()) (by simp) row.id allowed
    obtain ⟨_, found, key⟩ := issued.exec env (.markDispatchUncertain row.id reason)
    rw [find?_of_mem member] at found
    cases found
    exact key

theorem Sent.step (learned : ∀ id ∈ next.stale, id ∈ note.stale ∨
  Issued (exec env request system).2 id) :
  Sent (exec env request system).2 (front ++ (next, ()) :: back) where
  stale book member id listed := by
    have others (present : book ∈ front ++ (note, ()) :: back) :=
      (sent.stale book present id listed).exec env request
    rcases List.mem_append.1 member with other | other
    · exact others (by simp [other])
    · rcases List.mem_cons.1 other with rfl | other
      · rcases learned id listed with known | new
        · exact (sent.stale (note, ()) (by simp) id known).exec env request
        · exact new
      · exact others (by simp [other])
  uncertain := sent_exec env sent allowed

end

end

def checks (punctual : Bool) : Pool.Checks dispatching System Env Note Unit
  (Except String Unit) Activity where
  program activity := activity.program.run
  note _ := Note.idle
  start _ _ := true
  call _ _ request _ system := !punctual || system.punctual request
  abandon _ := true

theorem checks_sound (implied : punctual → strict = true) :
  (checks strict).Sound (rules punctual) where
  start _ activity _ := ⟨activity, rfl, rfl⟩
  call := by
    intro note heard request env system passed holds
    rw [checks, implied holds] at passed
    simpa using passed
  abandon _ _ := trivial

end VideoProcess.Delivery
