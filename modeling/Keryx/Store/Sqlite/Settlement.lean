import Keryx.Store.Sqlite.Effects

/-! Terminal results and the rows that are to deliver them. -/

namespace Keryx.Store.Sqlite
open Keryx.Core Relational Relational.Transaction Lifecycle

variable {db after : Db}

/-- What becomes of the results and of the rows that deliver them. -/
inductive ResultsAfter (db : Db) (op : Op) (after : Db) : Prop
  | kept (results : after.terminalResults = db.terminalResults) (rows : after.resultOutbox = db.resultOutbox)
  | settled (result : TerminalResultRecord) (brings : op.settles = some result)
      (unsettled : db.terminalResults.find result.taskId = none)
      (results : after.terminalResults = db.terminalResults.put result)
      (rows : after.resultOutbox = ((makeOutbox result).map db.resultOutbox.put).getD db.resultOutbox)
  | ingested (result : TerminalResultRecord) (brings : op.ingests = some result)
      (unsettled : db.terminalResults.find result.taskId = none)
      (results : after.terminalResults = db.terminalResults.put result) (rows : after.resultOutbox = db.resultOutbox)
  | delivering (delivers : op.delivers = true) (results : after.terminalResults = db.terminalResults)

theorem ResultsAfter.of_settles {op : Op} {result : TerminalResultRecord} (brings : op.settles = some result)
    (settles : db.Settles result after) : ResultsAfter db op after := by
  rcases settles with same | ⟨unsettled, same⟩
  · have results := congrArg Db.terminalResults same
    have rows := congrArg Db.resultOutbox same
    exact .kept results rows
  · rw [beyondTasks_insertTerminalResultAndOutbox] at same
    have results := congrArg Db.terminalResults same
    have rows := congrArg Db.resultOutbox same
    unfold Db.insertTerminalResultAndOutbox at results rows
    refine .settled result brings unsettled ?_ ?_
    · cases made : makeOutbox result with
      | none =>
        rw [made] at results
        exact results
      | some row =>
        rw [made] at results
        exact results
    · cases made : makeOutbox result with
      | none =>
        rw [made] at rows
        exact rows
      | some row =>
        rw [made] at rows
        exact rows

theorem step_results [Sha256] (db : Db) (op : Op) : ResultsAfter db op (step db op) := by
  cases step_effect db op with
  | tasks same =>
    have results := congrArg Db.terminalResults same
    have rows := congrArg Db.resultOutbox same
    exact .kept results rows
  | intake _ same =>
    have results := congrArg Db.terminalResults same
    have rows := congrArg Db.resultOutbox same
    exact .kept results rows
  | contexts _ same =>
    have results := congrArg Db.terminalResults same
    have rows := congrArg Db.resultOutbox same
    exact .kept results rows
  | artifacts _ same =>
    have results := congrArg Db.terminalResults same
    have rows := congrArg Db.resultOutbox same
    exact .kept results rows
  | result result brings settles => exact .of_settles brings settles
  | outbox delivers same =>
    have results := congrArg Db.terminalResults same
    exact .delivering delivers results
  | ingest result artifacts executor asks same =>
    subst asks
    rcases ingest_beyond result artifacts executor db with kept | ⟨unsettled, inserted⟩
    · have results := congrArg Db.terminalResults kept
      have rows := congrArg Db.resultOutbox kept
      exact .kept results rows
    · have results := congrArg Db.terminalResults inserted
      have rows := congrArg Db.resultOutbox inserted
      exact .ingested result rfl unsettled results rows

theorem step_keeps_result [Sha256] (db : Db) (op : Op) {taskId : TaskId} {stored : TerminalResultRecord}
    (found : db.terminalResults.find taskId = some stored) : (step db op).terminalResults.find taskId = some stored := by
  have kept : ∀ result : TerminalResultRecord, db.terminalResults.find result.taskId = none →
      (db.terminalResults.put result).find taskId = some stored := by
    intro result unsettled
    have different : taskId ≠ result.taskId := by
      intro same
      rw [same, unsettled] at found
      cases found
    rw [Table.find_put_ne _ _ different, found]
  cases step_results db op with
  | kept results => rw [results, found]
  | settled result _ unsettled results => rw [results, kept result unsettled]
  | ingested result _ unsettled results => rw [results, kept result unsettled]
  | delivering _ results => rw [results, found]

theorem run_keeps_result [Sha256] (db : Db) (ops : List Op) {taskId : TaskId} {stored : TerminalResultRecord}
    (found : db.terminalResults.find taskId = some stored) :
    (Run.run step db ops).terminalResults.find taskId = some stored :=
  Run.always (fun db : Db => db.terminalResults.find taskId = some stored) (fun db op => step_keeps_result db op) found ops

end Keryx.Store.Sqlite
