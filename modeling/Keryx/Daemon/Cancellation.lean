import Keryx.Daemon.Worker
import Keryx.Store.Sqlite.Deliveries
import Keryx.Store.Sqlite.Runs

/-! Cancellation requests that run at the same time: each reads the database three times and writes it once. -/

namespace Keryx.Daemon
open Keryx.Core Store Proto Relational Relational.Transaction Relational.Session
open Sqlite (Db Op)

inductive CancelPhase where
  | arrived
  | checking (cancellation : Cancellation)
  | preparing (cancellation : Cancellation) (nowMs : Int)
  | canceling (cancellation : Cancellation) (nowMs : Int) (stored : TerminalResultRecord)
  | rereading (cancellation : Cancellation) (error : StoreError)
  | answered (answer : Except Status CancelTaskResponse)

structure CancelHandler where
  authorization : Option String
  request : CancelTaskRequest
  phase : CancelPhase

section
variable [Decoders]

/-- One read or one transaction of a handler, with the clock at that time. -/
def CancelPhase.advance (runtime : Runtime) (nowMs : Int) (handler : CancelHandler) (db : Db) :
    CancelPhase × Sqlite.Db :=
  match handler.phase with
  | .arrived =>
    match parseCancellation runtime handler.authorization handler.request with
    | .error status => (.answered (.error status), db)
    | .ok cancellation =>
      match ensureLocalCancellation runtime.config cancellation.taskId db with
      | .error status => (.answered (.error status), db)
      | .ok _ => (.checking cancellation, db)
  | .checking cancellation =>
    match existingCanceledResponse cancellation.taskId db with
    | .error status => (.answered (.error status), db)
    | .ok (some response) => (.answered (.ok response), db)
    | .ok none => (.preparing cancellation nowMs, db)
  | .preparing cancellation startedMs =>
    (.canceling cancellation startedMs
      (terminalResultRecord runtime.config cancellation.taskId .failed (cancellation.result runtime.config startedMs) db),
      db)
  | .canceling cancellation startedMs stored =>
    match commit (Sqlite.cancelTaskWithResult cancellation.taskId cancellation.leaseId cancellation.workerId startedMs
        stored) db with
    | (.ok task, after) => (.answered (.ok (canceledResponse task.id cancellation.reason)), after)
    | (.error error, after) => (.rereading cancellation error, after)
  | .rereading cancellation error =>
    match existingCanceledResponse cancellation.taskId db with
    | .ok (some response) => (.answered (.ok response), db)
    | _ => (.answered (.error (storeErrorToStatus error)), db)
  | .answered answer => (.answered answer, db)

end

structure CancelState where
  db : Db
  handlers : List CancelHandler

/-- A request arrives, a handler takes its next step, or the store is used by anyone else. -/
inductive CancelEvent where
  | arrive (authorization : Option String) (request : CancelTaskRequest)
  | advance (index : Nat) (nowMs : Int)
  | store (op : Op)

section
variable [Decoders] [Sha256]

def CancelState.step (runtime : Runtime) (state : CancelState) : CancelEvent → CancelState
  | .arrive authorization request =>
    { state with handlers := state.handlers ++ [{ authorization, request, phase := .arrived }] }
  | .advance index nowMs =>
    match state.handlers[index]? with
    | none => state
    | some handler =>
      { db := (CancelPhase.advance runtime nowMs handler state.db).2
        handlers :=
          state.handlers.set index { handler with phase := (CancelPhase.advance runtime nowMs handler state.db).1 } }
  | .store op => { state with db := Sqlite.step state.db op }

def CancelState.reached (runtime : Runtime) (events : List CancelEvent) : CancelState :=
  Run.run (CancelState.step runtime) ⟨.empty, []⟩ events

/-- A handler that nothing comes between answers as the call does. -/
theorem cancelTask_phases (runtime : Runtime) (authorization : Option String) (request : CancelTaskRequest)
    (nowMs : Int) (db : Db) :
    Run.run (CancelState.step runtime) ⟨db, []⟩
        (.arrive authorization request :: List.replicate 5 (.advance 0 nowMs)) =
      ⟨(cancelTask runtime authorization nowMs request db).2,
        [⟨authorization, request, .answered (cancelTask runtime authorization nowMs request db).1⟩]⟩ := by
  simp only [cancelTask, attempt_bind, consult_bind, Run.run, List.replicate, List.foldl, CancelState.step,
    List.nil_append, List.getElem?_cons_zero, List.set_cons_zero, CancelPhase.advance]
  cases parseCancellation runtime authorization request with
  | error status => rfl
  | ok cancellation =>
  simp only
  cases ensureLocalCancellation runtime.config cancellation.taskId db with
  | error status => rfl
  | ok _ =>
  simp only
  cases existingCanceledResponse cancellation.taskId db with
  | error status => rfl
  | ok found =>
  cases found with
  | some response => rfl
  | none =>
  simp only [observe_bind, settle_bind]
  cases commit (Sqlite.cancelTaskWithResult cancellation.taskId cancellation.leaseId cancellation.workerId nowMs
      (terminalResultRecord runtime.config cancellation.taskId .failed (cancellation.result runtime.config nowMs) db))
      db with
  | mk outcome after =>
  cases outcome with
  | ok task => rfl
  | error error =>
    simp only [observe_bind]
    cases existingCanceledResponse cancellation.taskId after with
    | error status => rfl
    | ok again => cases again <;> rfl

end

open CancelPhase (advance)
open CancelState (reached)

variable {runtime : Runtime} {state : CancelState} {db after : Db} {handler : CancelHandler} {nowMs : Int}
  {cancellation : Cancellation} {stored : TerminalResultRecord} {taskId : TaskId} {index : Nat}

structure CanceledWith (taskId : TaskId) (stored : TerminalResultRecord) (db : Db) : Prop where
  result : db.terminalResults.find taskId = some stored
  ended : ∃ task, db.tasks.find taskId = some task ∧ task.status.isTerminal = true
  once : (db.eventsForTask taskId).countP Lifecycle.Cancels = 1

theorem step_canceledWith [Sha256] (canceled : CanceledWith taskId stored db) (op : Op) :
    CanceledWith taskId stored (Sqlite.step db op) := by
  obtain ⟨task, present, terminal⟩ := canceled.ended
  have absorbs := Sqlite.run_absorbs db [op] taskId
  obtain ⟨kept, _, extra, log, only⟩ := absorbs.keeps task present terminal
  refine ⟨Sqlite.step_keeps_result db op canceled.result, ⟨task, kept, terminal⟩, ?_⟩
  have once := canceled.once
  rw [Db.eventsForTask, Journal.ordered_eq] at once ⊢
  have whole : (Sqlite.step db op).events.stream taskId = db.events.stream taskId ++ extra := log
  have silent : extra.countP Lifecycle.Cancels = 0 := by
    rw [List.countP_eq_zero]
    intro event member
    simp [Lifecycle.Cancels, (only event member).1]
  rw [whole, List.countP_append, once, silent]

theorem canceledWith_of_ok {leaseId : Option LeaseId} {workerId : Option AgentId} {value : TaskRecord}
    (uncanceled : Lifecycle.Uncanceled (db.cell taskId))
    (success : Sqlite.cancelTaskWithResult taskId leaseId workerId nowMs stored db = .ok (value, after)) :
    value.id = taskId ∧ CanceledWith taskId stored after := by
  obtain ⟨task, present, unfinished, _, returned, cells⟩ := Sqlite.cancelTaskWithResult_cells success
  have cell := cells taskId
  rw [if_pos rfl] at cell
  have log : after.events.stream taskId = _ := congrArg Lifecycle.Cell.log cell
  have clean := uncanceled.unfinished task present unfinished
  refine ⟨Table.find_key returned, congrArg Lifecycle.Cell.result cell,
    ⟨_, congrArg Lifecycle.Cell.record cell, rfl⟩, ?_⟩
  rw [Db.eventsForTask, Journal.ordered_eq, log]
  simp only [Lifecycle.advancedCell, Lifecycle.Cell.append, List.countP_append, clean]
  rfl

theorem CanceledWith.refuses (canceled : CanceledWith taskId stored db) (leaseId : Option LeaseId)
    (workerId : Option AgentId) (nowMs : Int) (again : TerminalResultRecord) :
    ∃ error, commit (Sqlite.cancelTaskWithResult taskId leaseId workerId nowMs again) db = (.error error, db) := by
  rcases commit_cases (Sqlite.cancelTaskWithResult taskId leaseId workerId nowMs again) db with
    failed | ⟨value, after, success, _⟩
  · exact failed
  · obtain ⟨_, _, _, unsettled, _⟩ := Sqlite.cancelTaskWithResult_cells success
    rw [canceled.result] at unsettled
    cases unsettled

theorem owned_rows (owned : Sqlite.Owned db) (taskId : TaskId) :
    (db.resultOutbox.rows.filter (fun row => row.taskId = taskId)).length ≤ 1 := by
  have same : db.resultOutbox.rows.filter (fun row => row.taskId = taskId) =
      db.resultOutbox.rows.filter (fun row => row.deliveryId = deliveryId taskId) := by
    apply List.filter_congr
    intro row member
    obtain ⟨named, _⟩ := owned _ row (Table.mem_rows.mp member)
    rw [decide_eq_decide, named]
    exact ⟨fun equal => by rw [equal], fun equal => Sqlite.deliveryId_inj equal⟩
  rw [same]
  cases found : db.resultOutbox.find (deliveryId taskId) with
  | some row => exact le_of_eq (Table.length_filter_key found)
  | none =>
    rw [List.filter_eq_nil_iff.mpr]
    · exact Nat.zero_le 1
    · intro row member
      rw [decide_eq_true_iff]
      exact Table.find_none.mp found row member

/-- One event, its result, and at most one row to deliver it. -/
structure CanceledOnce (config : Config) (cancellation : Cancellation) (startedMs : Int) (db : Db) : Prop where
  event : (db.eventsForTask cancellation.taskId).countP (fun event => event.eventType = .taskCanceled) = 1
  result : ∃ stored, db.terminalResults.rows.filter (fun row => row.taskId = cancellation.taskId) = [stored] ∧
    stored.encodedResult = (cancellation.result config startedMs).encodeToVec
  delivery : (db.resultOutbox.rows.filter (fun row => row.taskId = cancellation.taskId)).length ≤ 1

theorem canceledOnce (owned : Sqlite.Owned db) (canceled : CanceledWith cancellation.taskId stored db) {config : Config}
    {startedMs : Int} (encoded : stored.encodedResult = (cancellation.result config startedMs).encodeToVec) :
    CanceledOnce config cancellation startedMs db := by
  refine ⟨canceled.once, ⟨stored, ?_, encoded⟩, owned_rows owned _⟩
  obtain ⟨only, single⟩ := List.length_eq_one_iff.mp (Table.length_filter_key canceled.result)
  have listed : stored ∈ db.terminalResults.rows.filter (fun row => row.taskId = cancellation.taskId) :=
    List.mem_filter.mpr ⟨Table.find_mem canceled.result, decide_eq_true (Table.find_key canceled.result)⟩
  rw [single] at listed ⊢
  rw [List.mem_singleton.mp listed]

section
variable [Decoders]

/-- The stored result of a canceled task is read back as the answer to a cancellation. -/
theorem existingCanceledResponse_canceled {startedMs : Int} (canceled : CanceledWith cancellation.taskId stored db)
    (encoded : stored.encodedResult = (cancellation.result runtime.config startedMs).encodeToVec)
    (decodes : Decoders.taskResultEnvelope (cancellation.result runtime.config startedMs).encodeToVec =
      .ok (cancellation.result runtime.config startedMs)) :
    existingCanceledResponse cancellation.taskId db =
      .ok (some (canceledResponse cancellation.taskId cancellation.reason)) := by
  simp only [existingCanceledResponse, canceled.result, encoded, decodes]
  rfl

theorem advance_checking (checks : handler.phase = .checking cancellation) {response : CancelTaskResponse}
    (existing : existingCanceledResponse cancellation.taskId db = .ok (some response)) :
    advance runtime nowMs handler db = (.answered (.ok response), db) := by
  simp only [advance, checks, existing]

theorem advance_rereading {error : StoreError} (rereads : handler.phase = .rereading cancellation error)
    {response : CancelTaskResponse} (existing : existingCanceledResponse cancellation.taskId db = .ok (some response)) :
    advance runtime nowMs handler db = (.answered (.ok response), db) := by
  simp only [advance, rereads, existing]

theorem advance_answered {answer : Except Status CancelTaskResponse} (answered : handler.phase = .answered answer) :
    advance runtime nowMs handler db = (.answered answer, db) := by
  simp only [advance, answered]

/-- The result that a handler is about to store is the one of its request. -/
def CancelHandler.Encoded (config : Config) (handler : CancelHandler) : Prop :=
  ∀ cancellation startedMs stored, handler.phase = .canceling cancellation startedMs stored →
    stored.encodedResult = (cancellation.result config startedMs).encodeToVec

theorem advance_encoded (nowMs : Int) (handler : CancelHandler) (db : Db) :
    CancelHandler.Encoded runtime.config
      { handler with phase := (advance runtime nowMs handler db).1 } := by
  intro cancellation startedMs stored reached
  unfold advance at reached
  cases phase : handler.phase with
  | arrived =>
    simp only [phase] at reached
    split at reached
    · cases reached
    · split at reached <;> cases reached
  | checking cancellation =>
    simp only [phase] at reached
    split at reached <;> cases reached
  | preparing cancellation startedMs =>
    simp only [phase] at reached
    cases reached
    rfl
  | canceling cancellation startedMs stored =>
    simp only [phase] at reached
    split at reached <;> cases reached
  | rereading cancellation error =>
    simp only [phase] at reached
    split at reached <;> cases reached
  | answered answer =>
    simp only [phase] at reached
    cases reached

/-- The handler has answered with the cancellation, or is about to read it. -/
def CancelHandler.Told (taskId : TaskId) (reason : String) (handler : CancelHandler) : Prop :=
  handler.phase = .answered (.ok (canceledResponse taskId reason)) ∨
    ∃ cancellation error, handler.phase = .rereading cancellation error ∧ cancellation.taskId = taskId

theorem CancelHandler.Told.advance {reason : String} (told : handler.Told taskId reason)
    (existing : existingCanceledResponse taskId db = .ok (some (canceledResponse taskId reason))) (nowMs : Int) :
    advance runtime nowMs handler db = (.answered (.ok (canceledResponse taskId reason)), db) := by
  rcases told with answered | ⟨cancellation, error, rereads, rfl⟩
  · exact advance_answered answered
  · exact advance_rereading rereads existing

def CancelHandler.Looks (taskId : TaskId) (handler : CancelHandler) : Prop :=
  ∃ cancellation, cancellation.taskId = taskId ∧
    (handler.phase = .checking cancellation ∨
      ∃ startedMs stored, handler.phase = .canceling cancellation startedMs stored)

theorem CancelHandler.Looks.told {reason : String} (looks : handler.Looks taskId)
    (canceled : CanceledWith taskId stored db)
    (existing : existingCanceledResponse taskId db = .ok (some (canceledResponse taskId reason))) (nowMs : Int) :
    CancelHandler.Told taskId reason
      { handler with phase := (advance runtime nowMs handler db).1 } := by
  obtain ⟨cancellation, rfl, checks | ⟨startedMs, again, cancels⟩⟩ := looks
  · left
    simp only [advance_checking checks existing]
  · right
    obtain ⟨error, refused⟩ := canceled.refuses cancellation.leaseId cancellation.workerId startedMs again
    refine ⟨cancellation, error, ?_, rfl⟩
    simp only [advance, cancels, refused]

/-- The handler's transaction is next, and it cancels the task. -/
def CancelState.Cancels (state : CancelState) (index : Nat) (cancellation : Cancellation) (startedMs : Int) : Prop :=
  ∃ handler stored task after, state.handlers[index]? = some handler ∧
    handler.phase = .canceling cancellation startedMs stored ∧
    Sqlite.cancelTaskWithResult cancellation.taskId cancellation.leaseId cancellation.workerId startedMs stored
      state.db = .ok (task, after)

def CancelState.Looks (state : CancelState) (index : Nat) (taskId : TaskId) : Prop :=
  ∃ handler, state.handlers[index]? = some handler ∧ handler.Looks taskId

/-- The handler has answered so, or does with its next step. -/
def CancelState.Answers (runtime : Runtime) (state : CancelState) (index : Nat)
    (answer : Except Status CancelTaskResponse) : Prop :=
  ∃ handler, state.handlers[index]? = some handler ∧
    ∀ nowMs, (advance runtime nowMs handler state.db).1 = .answered answer

theorem answers_of_told {reason : String} (reads : ∀ db, CanceledWith taskId stored db →
      existingCanceledResponse taskId db = .ok (some (canceledResponse taskId reason)))
    (canceled : CanceledWith taskId stored state.db)
    (told : ∃ handler, state.handlers[index]? = some handler ∧ handler.Told taskId reason) :
    state.Answers runtime index (.ok (canceledResponse taskId reason)) := by
  obtain ⟨handler, found, told⟩ := told
  refine ⟨handler, found, ?_⟩
  intro nowMs
  rw [told.advance (reads _ canceled)]

end

section
variable [Decoders] [Sha256]

theorem advance_db (handler : CancelHandler) (db : Db) :
    (advance runtime nowMs handler db).2 = db ∨
      ∃ op, (advance runtime nowMs handler db).2 = Sqlite.step db op := by
  unfold advance
  cases handler.phase with
  | arrived =>
    left
    simp only
    split
    · rfl
    · split <;> rfl
  | checking cancellation =>
    left
    simp only
    split <;> rfl
  | preparing cancellation startedMs => exact .inl rfl
  | canceling cancellation startedMs stored =>
    right
    refine ⟨.cancelTaskWithResult cancellation.taskId cancellation.leaseId cancellation.workerId startedMs stored, ?_⟩
    simp only [Sqlite.step]
    split <;> rename_i committed <;> rw [committed]
  | rereading cancellation error =>
    left
    simp only
    split <;> rfl
  | answered answer => exact .inl rfl

theorem step_db (state : CancelState) (event : CancelEvent) :
    (state.step runtime event).db = state.db ∨ ∃ op, (state.step runtime event).db = Sqlite.step state.db op := by
  cases event with
  | arrive authorization request => exact .inl rfl
  | store op => exact .inr ⟨op, rfl⟩
  | advance index nowMs =>
    simp only [CancelState.step]
    split
    · exact .inl rfl
    · exact advance_db _ _

theorem run_store (property : Db → Prop) (kept : ∀ db op, property db → property (Sqlite.step db op))
    {state : CancelState} (initial : property state.db) (events : List CancelEvent) :
    property (Run.run (CancelState.step runtime) state events).db := by
  refine Run.always (fun state : CancelState => property state.db) (fun state event holds => ?_) initial events
  rcases step_db state event with same | ⟨op, same⟩
  · rw [same]
    exact holds
  · rw [same]
    exact kept _ _ holds

theorem step_handler (found : state.handlers[index]? = some handler) (event : CancelEvent) :
    (state.step runtime event).handlers[index]? = some handler ∨
      ∃ nowMs, event = .advance index nowMs ∧ (state.step runtime event).handlers[index]? =
        some { handler with phase := (advance runtime nowMs handler state.db).1 } := by
  obtain ⟨inside, _⟩ := List.getElem?_eq_some_iff.mp found
  cases event with
  | arrive authorization request =>
    left
    simp only [CancelState.step]
    rw [List.getElem?_append_left inside]
    exact found
  | store op => exact .inl found
  | advance other nowMs =>
    simp only [CancelState.step]
    by_cases own : other = index
    · subst own
      right
      refine ⟨nowMs, rfl, ?_⟩
      rw [found]
      exact List.getElem?_set_self inside
    · left
      split
      · exact found
      · simp only
        rw [List.getElem?_set_ne own]
        exact found

theorem step_advance (found : state.handlers[index]? = some handler) (nowMs : Int) :
    state.step runtime (.advance index nowMs) =
      { db := (advance runtime nowMs handler state.db).2
        handlers := state.handlers.set index
          { handler with phase := (advance runtime nowMs handler state.db).1 } } := by
  simp only [CancelState.step, found]

theorem step_encoded (event : CancelEvent) (encoded : ∀ handler ∈ state.handlers, handler.Encoded runtime.config) :
    ∀ handler ∈ (state.step runtime event).handlers, handler.Encoded runtime.config := by
  intro handler member
  cases event with
  | arrive authorization request =>
    rcases List.mem_append.mp member with old | new
    · exact encoded handler old
    · rw [List.mem_singleton.mp new]
      intro _ _ _ reached
      cases reached
  | store op => exact encoded handler member
  | advance index nowMs =>
    simp only [CancelState.step] at member
    split at member
    · exact encoded handler member
    · rcases List.mem_or_eq_of_mem_set member with old | new
      · exact encoded handler old
      · rw [new]
        exact advance_encoded _ _ _

theorem cancels_step (cancels : state.Cancels index cancellation nowMs)
    (uncanceled : Lifecycle.Uncanceled (state.db.cell cancellation.taskId))
    (encoded : ∀ handler ∈ state.handlers, handler.Encoded runtime.config) (clock : Int) :
    ∃ stored, stored.encodedResult = (cancellation.result runtime.config nowMs).encodeToVec ∧
      CanceledWith cancellation.taskId stored (state.step runtime (.advance index clock)).db ∧
      ∃ handler, (state.step runtime (.advance index clock)).handlers[index]? = some handler ∧
        handler.Told cancellation.taskId cancellation.reason := by
  obtain ⟨handler, stored, task, after, found, phase, success⟩ := cancels
  obtain ⟨own, canceled⟩ := canceledWith_of_ok uncanceled success
  obtain ⟨inside, _⟩ := List.getElem?_eq_some_iff.mp found
  have committed := commit_ok success
  have advanced : advance runtime clock handler state.db =
      (.answered (.ok (canceledResponse task.id cancellation.reason)), after) := by
    simp only [advance, phase, committed]
  refine ⟨stored, encoded handler (List.mem_of_getElem? found) _ _ _ phase, ?_, ?_⟩
  · rw [step_advance found, advanced]
    exact canceled
  · refine ⟨{ handler with phase := .answered (.ok (canceledResponse task.id cancellation.reason)) }, ?_, .inl ?_⟩
    · rw [step_advance found, advanced]
      exact List.getElem?_set_self inside
    · rw [own]

theorem run_canceledWith (canceled : CanceledWith taskId stored state.db) (events : List CancelEvent) :
    CanceledWith taskId stored (Run.run (CancelState.step runtime) state events).db :=
  run_store (CanceledWith taskId stored) (fun _ op kept => step_canceledWith kept op) canceled events

theorem run_told {reason : String} (reads : ∀ db, CanceledWith taskId stored db →
      existingCanceledResponse taskId db = .ok (some (canceledResponse taskId reason)))
    (canceled : CanceledWith taskId stored state.db)
    (told : ∃ handler, state.handlers[index]? = some handler ∧ handler.Told taskId reason) (events : List CancelEvent) :
    ∃ handler, (Run.run (CancelState.step runtime) state events).handlers[index]? = some handler ∧
      handler.Told taskId reason := by
  refine (Run.always (fun state : CancelState => CanceledWith taskId stored state.db ∧
    ∃ handler, state.handlers[index]? = some handler ∧ handler.Told taskId reason) ?_ ⟨canceled, told⟩ events).2
  rintro state event ⟨canceled, handler, found, told⟩
  refine ⟨run_canceledWith canceled [event], ?_⟩
  rcases step_handler found event with same | ⟨nowMs, rfl, moved⟩
  · exact ⟨handler, same, told⟩
  · refine ⟨_, moved, .inl ?_⟩
    rw [told.advance (reads _ canceled)]

theorem reached_uncanceled (events : List CancelEvent) (taskId : TaskId) :
    Lifecycle.Uncanceled ((reached runtime events).db.cell taskId) := by
  apply run_store (fun db => Lifecycle.Uncanceled (db.cell taskId))
  · intro db op uncanceled
    apply (Sqlite.step_refines db op taskId).invariant Lifecycle.Uncanceled _ uncanceled
    exact fun action before after _ step kept => step.uncanceled kept
  · exact ⟨fun _ => rfl, nofun⟩

theorem reached_owned (events : List CancelEvent) : Sqlite.Owned (reached runtime events).db := by
  apply run_store Sqlite.Owned
  · exact Sqlite.step_owned
  · intro delivery row found
    cases found

theorem reached_encoded (events : List CancelEvent) :
    ∀ handler ∈ (reached runtime events).handlers, handler.Encoded runtime.config := by
  refine Run.always (fun state : CancelState => ∀ handler ∈ state.handlers, handler.Encoded runtime.config)
    (fun _ event encoded => step_encoded event encoded) ?_ events
  intro handler member
  cases member

theorem reached_append (first second : List CancelEvent) :
    reached runtime (first ++ second) =
      Run.run (CancelState.step runtime) (reached runtime first) second :=
  Run.run_append _ first second

theorem run_looks {reason : String} (reads : ∀ db, CanceledWith taskId stored db →
      existingCanceledResponse taskId db = .ok (some (canceledResponse taskId reason)))
    (canceled : CanceledWith taskId stored state.db) (looks : state.Looks index taskId) (clock : Int)
    (events : List CancelEvent) :
    ∃ handler, (Run.run (CancelState.step runtime) state (.advance index clock :: events)).handlers[index]? =
      some handler ∧ handler.Told taskId reason := by
  obtain ⟨handler, found, looks⟩ := looks
  obtain ⟨inside, _⟩ := List.getElem?_eq_some_iff.mp found
  have told : CancelHandler.Told taskId reason
      { handler with phase := (advance runtime clock handler state.db).1 } :=
    looks.told canceled (reads _ canceled) clock
  have kept : CanceledWith taskId stored (state.step runtime (.advance index clock)).db :=
    run_canceledWith canceled [.advance index clock]
  rw [Run.run_cons]
  refine run_told reads kept ⟨_, ?_, told⟩ events
  rw [step_advance found]
  exact List.getElem?_set_self inside

/-- Once one request has canceled the task, every request that looks at it afterwards answers as that one did, and the
store holds one cancellation. -/
theorem cancellation_idempotent (runtime : Runtime) (first rest : List CancelEvent) (winner : Nat) (clock : Int)
    (cancellation : Cancellation) (startedMs : Int)
    (decodes : Decoders.taskResultEnvelope (cancellation.result runtime.config startedMs).encodeToVec =
      .ok (cancellation.result runtime.config startedMs))
    (cancels : (reached runtime first).Cancels winner cancellation startedMs) :
    CanceledOnce runtime.config cancellation startedMs
        (reached runtime (first ++ .advance winner clock :: rest)).db ∧
      (reached runtime (first ++ .advance winner clock :: rest)).Answers runtime winner
        (.ok (canceledResponse cancellation.taskId cancellation.reason)) ∧
      ∀ middle other otherClock last, rest = middle ++ .advance other otherClock :: last →
        (reached runtime (first ++ .advance winner clock :: middle)).Looks other cancellation.taskId →
        (reached runtime (first ++ .advance winner clock :: rest)).Answers runtime other
          (.ok (canceledResponse cancellation.taskId cancellation.reason)) := by
  obtain ⟨stored, encoded, canceled, told⟩ :=
    cancels_step cancels (reached_uncanceled first _) (reached_encoded first) clock
  have reads : ∀ db, CanceledWith cancellation.taskId stored db → existingCanceledResponse cancellation.taskId db =
      .ok (some (canceledResponse cancellation.taskId cancellation.reason)) := by
    intro db held
    exact existingCanceledResponse_canceled held encoded decodes
  have kept : ∀ events, CanceledWith cancellation.taskId stored
      (reached runtime (first ++ .advance winner clock :: events)).db := by
    intro events
    rw [reached_append, Run.run_cons]
    exact run_canceledWith canceled events
  refine ⟨canceledOnce (reached_owned _) (kept rest) encoded, ?_, ?_⟩
  · apply answers_of_told reads (kept rest)
    rw [reached_append, Run.run_cons]
    exact run_told reads canceled told rest
  · intro middle other otherClock last split looks
    apply answers_of_told reads (kept rest)
    have joined : first ++ .advance winner clock :: rest =
        (first ++ .advance winner clock :: middle) ++ .advance other otherClock :: last := by
      rw [split, List.append_assoc, List.cons_append]
    rw [joined, reached_append]
    exact run_looks reads (kept middle) looks otherClock last

end

def sampleCancel (reason : String) : CancelTaskRequest where
  taskId := some (protoId Sqlite.sampleTask)
  reason := reason
  metadata := .empty
  leaseId := none
  workerId := none

def sampleCancellation : Cancellation := ⟨Sqlite.sampleTask, none, none, "done", .empty⟩

abbrev cancellationDecoders : Decoders where
  taskEnvelope := fun _ => .error ""
  taskResultEnvelope := fun _ => .ok (sampleCancellation.result sampleRuntime.config 1)
  textList := fun _ => .error ""

/-- Two requests arrive, and one reaches its transaction while the other has yet to look. -/
def racingCancellations : List CancelEvent :=
  [.store (.acceptTask (TaskRecord.new Sqlite.sampleTask .pending none)), .arrive none (sampleCancel "done"),
    .arrive none (sampleCancel "late"), .advance 0 1, .advance 1 1, .advance 0 1, .advance 0 1]

/-- The other request answers with the reason of the first. -/
theorem late_request_canceled :
    @CancelState.Answers cancellationDecoders sampleRuntime
      (@reached cancellationDecoders default sampleRuntime
        (racingCancellations ++ [.advance 0 2, .advance 1 3])) 1
      (.ok (canceledResponse Sqlite.sampleTask "done")) :=
  (@cancellation_idempotent cancellationDecoders default sampleRuntime racingCancellations [.advance 1 3] 0 2
    sampleCancellation 1 rfl ⟨_, _, _, _, rfl, rfl, rfl⟩).2.2 [] 1 3 [] rfl
    ⟨_, rfl, ⟨Sqlite.sampleTask, none, none, "late", .empty⟩, rfl, .inl rfl⟩

end Keryx.Daemon
