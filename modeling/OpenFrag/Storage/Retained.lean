import OpenFrag.Storage.Live

-- The rows of live capture are never taken away.
namespace Storage

def SaveAttemptRow.IsEnded (row : SaveAttemptRow) : Prop :=
  row.status = .failed ∨ row.status = .saved

-- What of an attempt no statement changes. An attempt that has ended is not taken up again.
structure SaveAttemptRow.Continues (row row' : SaveAttemptRow) : Prop where
  id                : row'.id = row.id
  recorderRequestId : row'.recorderRequestId = row.recorderRequestId
  captureSessionId  : row'.captureSessionId = row.captureSessionId
  ended             : row.IsEnded → row'.IsEnded

structure Retains (db db' : Database) : Prop where
  captureSessions      : db.captureSessions ⊆ db'.captureSessions
  gsiSnapshots         : db.gsiSnapshots ⊆ db'.gsiSnapshots
  liveCandidates       : db.liveCandidates ⊆ db'.liveCandidates
  candidateTriggers    : db.candidateTriggers ⊆ db'.candidateTriggers
  candidateSaves       : db.candidateSaves ⊆ db'.candidateSaves
  manualFlags          : db.manualFlags ⊆ db'.manualFlags
  manualFlagSaves      : db.manualFlagSaves ⊆ db'.manualFlagSaves
  recorderSaveAttempts : ∀ row ∈ db.recorderSaveAttempts,
    ∃ row' ∈ db'.recorderSaveAttempts, row.Continues row'

-- Statements of other parts of the daemon, which may be made between the calls of live capture.
structure Writer where
  write   : Database → Database
  retains : ∀ db, Retains db (write db)

end Storage
