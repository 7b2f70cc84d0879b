import OpenFrag.Library.Program
import OpenFrag.Storage.Schema

open Program

-- The migrations of the schema, each with the digest of its text.
namespace Storage

structure TableDefinition where
  name    : String
  columns : List String
  deriving DecidableEq, Repr

structure IndexDefinition where
  name    : String
  table   : String
  columns : List String
  unique  : Bool
  deriving DecidableEq, Repr

-- A trigger, with the tables that its body is about.
structure TriggerDefinition where
  name   : String
  event  : String
  table  : String
  tables : List String
  deriving DecidableEq, Repr

inductive SchemaStatement
  | createTable (ifNotExists : Bool) (table : TableDefinition)
  | addColumn (table column : String)
  | createIndex (ifNotExists : Bool) (index : IndexDefinition)
  | createTrigger (trigger : TriggerDefinition)
  | dropTrigger (name : String)
  deriving DecidableEq, Repr

structure Migration where
  version    : Nat
  statements : List SchemaStatement
  checksum   : Digest
  deriving DecidableEq, Repr

def initialMigration : Migration where
  version    := 1
  checksum   := 0x0baf493a83a419e7c74a1a707f1c2cd614d187210dec102d78f0fdf7c4cc2952
  statements := [
    .createTable true ⟨"schema_migrations", ["version", "applied_at_ms", "checksum"]⟩,
    .createTable true ⟨"artifacts", ["sha256", "relative_path", "byte_length", "media_type",
      "availability", "created_at_ms", "deleted_at_ms"]⟩,
    .createTable true ⟨"capture_sessions", ["id", "local_steam_id", "started_at_ms", "ended_at_ms",
      "status"]⟩,
    .createTable true ⟨"recorder_save_attempts", ["id", "recorder_request_id", "capture_session_id",
      "requested_monotonic_ns", "status", "acknowledgement_count", "verified_artifact_sha256",
      "actual_start_monotonic_ns", "actual_end_monotonic_ns", "error_code"]⟩,
    .createTable true ⟨"clips", ["id", "artifact_sha256", "capture_session_id", "disposition",
      "title", "favorite", "provenance", "created_at_ms", "deleted_at_ms"]⟩,
    .createTable true ⟨"matches", ["id", "demo_sha256", "local_steam_id", "map_name",
      "imported_at_ms", "canonical_run_id", "status"]⟩,
    .createTable true ⟨"analysis_runs", ["id", "match_id", "parser_commit", "parser_build",
      "generated_proto_build", "requested_schema_hash", "metric_definition_version", "formula_id",
      "evidence_semantics_epoch", "status", "created_at_ms"]⟩,
    .createTable true ⟨"rounds", ["id", "analysis_run_id", "round_number", "end_tick", "winner"]⟩,
    .createTable true ⟨"candidate_reconciliations", ["id", "candidate_id", "analysis_run_id",
      "round_id", "status", "reason_code", "decided_at_ms"]⟩,
    .createIndex true ⟨"clips_artifact", "clips", ["artifact_sha256"], false⟩,
    .createIndex true ⟨"save_attempts_session", "recorder_save_attempts", ["capture_session_id",
      "status"], false⟩]

def contractMigration : Migration where
  version    := 2
  checksum   := 0x24a00c0770f20ffd8002c2303e2faab862d26d4e655fa81ad632af81a89656de
  statements := [
    .addColumn "artifacts" "missing_reason",
    .addColumn "capture_sessions" "game_build",
    .addColumn "capture_sessions" "recorder_build",
    .addColumn "clips" "recorded_at_ms",
    .addColumn "clips" "pre_roll_truncated",
    .addColumn "clips" "retention_class",
    .addColumn "matches" "game_build",
    .addColumn "analysis_runs" "started_at_ms",
    .addColumn "analysis_runs" "completed_at_ms",
    .addColumn "analysis_runs" "error_code",
    .createTable false ⟨"gsi_snapshots", ["sha256", "capture_session_id", "arrival_ordinal",
      "received_at_ms", "provider_timestamp", "field_presence_json", "byte_length",
      "listener_version", "http_status"]⟩,
    .createTable false ⟨"live_candidates", ["id", "capture_session_id", "rule_version",
      "observed_kind", "observed_map", "observed_round", "first_transition_monotonic_ns",
      "last_transition_monotonic_ns", "candidate_start_monotonic_ns", "candidate_end_monotonic_ns",
      "save_requested_monotonic_ns", "status"]⟩,
    .createTable false ⟨"candidate_trigger_receipts", ["candidate_id", "snapshot_sha256",
      "transition_ordinal", "transition_kind", "transition_monotonic_ns"]⟩,
    .createTable false ⟨"candidate_save_attempts", ["candidate_id", "save_attempt_id",
      "desired_start_monotonic_ns", "desired_end_monotonic_ns"]⟩,
    .createTable false ⟨"candidate_media", ["candidate_id", "save_attempt_id", "clip_id"]⟩,
    .createTable false ⟨"manual_flags", ["id", "capture_session_id", "flagged_monotonic_ns",
      "created_at_ms"]⟩,
    .createTable false ⟨"manual_flag_save_attempts", ["manual_flag_id", "save_attempt_id",
      "desired_start_monotonic_ns", "desired_end_monotonic_ns"]⟩,
    .createTable false ⟨"manual_flag_clips", ["manual_flag_id", "save_attempt_id", "clip_id"]⟩,
    .createTable false ⟨"clip_derivations", ["derived_clip_id", "source_clip_id", "operation",
      "trim_start_ms", "trim_end_ms", "created_at_ms"]⟩,
    .createTable false ⟨"clip_exports", ["id", "clip_id", "target_path", "requested_at_ms",
      "completed_at_ms", "status", "error_code", "output_sha256", "output_byte_length",
      "output_media_profile"]⟩,
    .createTable false ⟨"players", ["steam_id", "display_name", "first_seen_at_ms",
      "last_seen_at_ms"]⟩,
    .createTable false ⟨"match_players", ["match_id", "steam_id", "team_at_end",
      "participation_status"]⟩,
    .createTable false ⟨"receipts", ["id", "analysis_run_id", "round_id", "metric_key",
      "event_tick", "ingestion_ordinal", "participant_steam_ids_json", "raw_payload_json",
      "snapshots_json", "parameters_json"]⟩,
    .createTable false ⟨"round_player_metrics", ["analysis_run_id", "round_id", "steam_id",
      "metric_key", "numerator", "denominator", "value_bp", "receipt_id"]⟩,
    .createTable false ⟨"match_player_metrics", ["analysis_run_id", "steam_id", "metric_key",
      "numerator", "denominator", "value_bp", "receipt_id"]⟩,
    .createTable false ⟨"player_rating_vectors", ["id", "analysis_run_id", "steam_id", "formula_id",
      "rating_bp", "receipt_id"]⟩,
    .createTable false ⟨"player_rating_components", ["rating_vector_id", "component_key",
      "numerator", "denominator", "value_bp", "weight_bp", "receipt_id"]⟩,
    .createTable false ⟨"import_jobs", ["id", "demo_sha256", "status", "progress_bp", "lease_owner",
      "lease_expires_at_ms", "error_code", "created_at_ms", "updated_at_ms"]⟩,
    .createTable false ⟨"import_attempts", ["id", "import_job_id", "attempt_number",
      "started_at_ms", "finished_at_ms", "status", "error_code"]⟩,
    .createTrigger ⟨"metric_round_same_run", "BEFORE INSERT", "round_player_metrics",
      ["rounds", "receipts"]⟩,
    .createTrigger ⟨"candidate_media_verified", "BEFORE INSERT", "candidate_media",
      ["recorder_save_attempts", "clips"]⟩,
    .createIndex false ⟨"gsi_snapshots_session_receive", "gsi_snapshots", ["capture_session_id",
      "received_at_ms"], false⟩,
    .createIndex false ⟨"import_jobs_lease", "import_jobs", ["status",
      "lease_expires_at_ms"], false⟩]

def enforcementMigration : Migration where
  version    := 3
  checksum   := 0xa0ca5d3bbf8d57aa08624b1706b2909a349b5347ef3802487f3a6c45b604d40e
  statements := [
    .addColumn "candidate_reconciliations" "match_id",
    .addColumn "candidate_reconciliations" "receipt_id",
    .createTrigger ⟨"match_metric_participant", "BEFORE INSERT", "match_player_metrics",
      ["analysis_runs", "match_players", "receipts"]⟩,
    .createTrigger ⟨"rating_receipt_same_run", "BEFORE INSERT", "player_rating_vectors",
      ["receipts"]⟩,
    .createTrigger ⟨"rating_component_receipt_same_run", "BEFORE INSERT",
      "player_rating_components", ["receipts", "player_rating_vectors"]⟩,
    .createTrigger ⟨"canonical_run_valid", "BEFORE UPDATE OF canonical_run_id", "matches",
      ["analysis_runs", "player_rating_vectors", "receipts"]⟩,
    .createTrigger ⟨"reconciliation_valid", "BEFORE INSERT", "candidate_reconciliations",
      ["live_candidates", "capture_sessions", "matches", "rounds", "receipts"]⟩]

def importLifecycleMigration : Migration where
  version    := 4
  checksum   := 0xcad5a963a1ce34b70d31b36909f0956e1e2aac322eabf66b828dd6c6b54b466b
  statements := [
    .addColumn "import_jobs" "bytes_done",
    .addColumn "import_jobs" "bytes_total",
    .addColumn "import_jobs" "heartbeat_at_ms",
    .addColumn "import_jobs" "next_retry_at_ms",
    .addColumn "import_jobs" "remediation_code",
    .addColumn "import_jobs" "retry_budget",
    .createTrigger ⟨"import_progress_valid", "BEFORE UPDATE OF progress_bp", "import_jobs",
      []⟩]

def ratingAvailabilityMigration : Migration where
  version    := 5
  checksum   := 0xaf9a158b4dc7796afa5f5be10f9a4e64f6a2344ce503f8f2042067c9c99eeb62
  statements := [
    .createTable false ⟨"unavailable_rating_results", ["analysis_run_id", "steam_id", "formula_id",
      "reason_code", "receipt_id"]⟩,
    .createTrigger ⟨"unavailable_rating_receipt_same_run", "BEFORE INSERT",
      "unavailable_rating_results", ["receipts"]⟩,
    .dropTrigger "canonical_run_valid",
    .createTrigger ⟨"canonical_run_valid", "BEFORE UPDATE OF canonical_run_id", "matches",
      ["analysis_runs", "player_rating_vectors", "receipts", "unavailable_rating_results"]⟩]

def clipReviewMigration : Migration where
  version    := 6
  checksum   := 0xc86d1725a446f3e812161abb0daa80789ac5a110c61af83f4e04470ab73013d5
  statements := [
    .addColumn "clips" "note",
    .addColumn "clips" "review_decision",
    .createTable false ⟨"clip_tags", ["clip_id", "position", "tag"]⟩]

def clipModelMigration : Migration where
  version    := 7
  checksum   := 0xac437a9b41a69b4fd5594eb1778304977dc367af0a7d95f675acfdbfedffdb9e
  statements := [
    .addColumn "artifacts" "media_duration_ms",
    .addColumn "clips" "review_revision",
    .addColumn "clips" "origin_kind",
    .addColumn "clips" "manual_flag_time_ms",
    .createTable false ⟨"clip_origin_receipts", ["clip_id", "kind", "position", "receipt_id"]⟩]

def clipReviewTimeMigration : Migration where
  version    := 8
  checksum   := 0x7d7810ad4b972d5866d1350576ae409c5d50cf1ff502672ca080ff66ea7c2dec
  statements := [
    .addColumn "clips" "reviewed_at_ms"]

def importDiagnosticsMigration : Migration where
  version    := 9
  checksum   := 0x7cbcfca15413bb3f9e427585506e8dc2380a068487b57dbcfb79352903e3cf8e
  statements := [
    .addColumn "import_jobs" "diagnostic_json",
    .addColumn "import_attempts" "remediation_code",
    .addColumn "import_attempts" "diagnostic_json",
    .createIndex false ⟨"import_attempts_one_running", "import_attempts", ["import_job_id"], true⟩,
    .createTrigger ⟨"import_attempt_started", "AFTER UPDATE OF status, lease_owner", "import_jobs",
      ["import_attempts"]⟩,
    .createTrigger ⟨"import_attempt_finished", "AFTER UPDATE OF status", "import_jobs",
      ["import_attempts"]⟩,
    .createTrigger ⟨"import_attempt_interrupted", "AFTER UPDATE OF status", "import_jobs",
      ["import_attempts"]⟩]

def parserProgressMigration : Migration where
  version    := 10
  checksum   := 0x4a5d5c8f927bfac5c6d5b2ac78fc4bfe703bcefaf8b71ccffc5462ae8d11a9f3
  statements := [
    .addColumn "import_jobs" "work_phase",
    .addColumn "import_jobs" "frames_done",
    .addColumn "import_jobs" "events_emitted",
    .createTrigger ⟨"import_parser_progress_valid",
      "BEFORE UPDATE OF work_phase, frames_done, events_emitted", "import_jobs", []⟩]

def saveAttemptClipsMigration : Migration where
  version    := 11
  checksum   := 0x74b03c5e5f7a720d653acb2ba183a27596aef312321c96b80914125dff242828
  statements := [
    .createTable false ⟨"save_attempt_clips", ["save_attempt_id", "clip_id"]⟩]

def laterMigrations : List Migration :=
  [contractMigration, enforcementMigration, importLifecycleMigration, ratingAvailabilityMigration,
    clipReviewMigration, clipModelMigration, clipReviewTimeMigration, importDiagnosticsMigration,
    parserProgressMigration, saveAttemptClipsMigration]

structure SchemaMigrationRow where
  version  : Nat
  checksum : Digest
  deriving DecidableEq, Repr

-- What the migrations are about: the definitions of a database, and its table of migrations.
structure Catalogue where
  tables           : List TableDefinition
  indexes          : List IndexDefinition
  triggers         : List TriggerDefinition
  schemaMigrations : List SchemaMigrationRow
  deriving DecidableEq, Repr

namespace Catalogue

def new : Catalogue where
  tables           := []
  indexes          := []
  triggers         := []
  schemaMigrations := []

def hasTable (c : Catalogue) (name : String) : Bool :=
  c.tables.any (·.name = name)

def hasIndex (c : Catalogue) (name : String) : Bool :=
  c.indexes.any (·.name = name)

def hasTrigger (c : Catalogue) (name : String) : Bool :=
  c.triggers.any (·.name = name)

def hasColumn (c : Catalogue) (table column : String) : Bool :=
  c.tables.any fun definition => definition.name = table && definition.columns.contains column

end Catalogue

def SchemaStatement.execute (c : Catalogue) : SchemaStatement → Except Error Catalogue
  | .createTable ifNotExists table => do
    ensure (¬c.hasIndex table.name) (.database (.check "there is already an index"))
    if c.hasTable table.name then
      ensure ifNotExists (.database (.check "table already exists"))
      return c
    else
      return { c with tables := c.tables ++ [table] }
  | .addColumn table column => do
    ensure (c.hasTable table) (.database (.check "no such table"))
    ensure (¬c.hasColumn table column) (.database (.check "duplicate column name"))
    return { c with
      tables := c.tables.map fun definition =>
        if definition.name = table then
          { definition with columns := definition.columns ++ [column] }
        else definition }
  | .createIndex ifNotExists index => do
    ensure (¬c.hasTable index.name) (.database (.check "there is already a table"))
    if c.hasIndex index.name then
      ensure ifNotExists (.database (.check "index already exists"))
      return c
    else
      ensure (index.columns.all (c.hasColumn index.table)) (.database (.check "no such column"))
      return { c with indexes := c.indexes ++ [index] }
  | .createTrigger trigger => do
    ensure (¬c.hasTrigger trigger.name) (.database (.check "trigger already exists"))
    ensure (c.hasTable trigger.table) (.database (.check "no such table"))
    return { c with triggers := c.triggers ++ [trigger] }
  | .dropTrigger name => do
    ensure (c.hasTrigger name) (.database (.check "no such trigger"))
    return { c with triggers := c.triggers.filter (·.name ≠ name) }

def recordMigration (migration : Migration) (c : Catalogue) : Except Error Catalogue := do
  ensure (c.hasTable "schema_migrations") (.database (.check "no such table"))
  ensure (¬c.schemaMigrations.any (·.version = migration.version))
    (.database (.unique "schema_migrations.version"))
  ensure (¬c.schemaMigrations.any (·.checksum = migration.checksum))
    (.database (.unique "schema_migrations.checksum"))
  return { c with schemaMigrations := c.schemaMigrations ++ [⟨migration.version, migration.checksum⟩] }

def recordedChecksum (version : Nat) (c : Catalogue) : Except Error (Option Digest) := do
  ensure (c.hasTable "schema_migrations") (.database (.check "no such table"))
  return (c.schemaMigrations.find? (·.version = version)).map (·.checksum)

-- The first migration is a batch of statements on their own, the others are transactions.
inductive MigrationStep
  | statement (index : Nat)
  | record
  | transaction (version : Nat)
  deriving DecidableEq, Repr

abbrev MigrationProgram := Program MigrationStep Catalogue Error

def silent (op : Catalogue → Except Error Catalogue) (c : Catalogue) :
    Except Error (Unit × Catalogue) := do
  return ((), ← op c)

def recorded (version : Nat) : MigrationProgram (Option Digest) :=
  Program.atomic fun c => do return (← recordedChecksum version c, c)

def executeBatch (statements : List SchemaStatement) (c : Catalogue) : Except Error Catalogue :=
  statements.foldlM SchemaStatement.execute c

def Migration.apply (migration : Migration) (c : Catalogue) : Except Error Catalogue := do
  recordMigration migration (← executeBatch migration.statements c)

variable (plan : Option (Fault MigrationStep))

def applyMigration (migration : Migration) : MigrationProgram Unit :=
  Program.call plan (.transaction migration.version) (silent migration.apply)

def checkChecksum (migration : Migration) (found : Digest) : MigrationProgram Unit :=
  if found ≠ migration.checksum then Program.fail (.invalid "migration checksum mismatch")
  else pure ()

def ensureMigration (migration : Migration) : MigrationProgram Unit := do
  match ← recorded migration.version with
  | some found => checkChecksum migration found
  | none       => applyMigration plan migration

def createInitial : MigrationProgram Unit := do
  Program.forEach (fun index statement =>
    Program.call plan (.statement index) (silent (SchemaStatement.execute · statement)))
    0 initialMigration.statements
  Program.call plan .record (silent (recordMigration initialMigration))

def checkInitial : MigrationProgram Unit := do
  match ← recorded initialMigration.version with
  | some found => checkChecksum initialMigration found
  | none       => Program.fail (.invalid "migration history is incomplete")

def migrateInitial : MigrationProgram Unit := do
  if ¬(← get).hasTable "schema_migrations" then createInitial plan
  checkInitial

def migrate : MigrationProgram Unit := do
  migrateInitial plan
  Program.forEach (fun _ migration => ensureMigration plan migration) 0 laterMigrations

-- The catalogue after some runs, each of which may be interrupted.
def interrupted (plans : List (Option (Fault MigrationStep))) (c : Catalogue) : Catalogue :=
  plans.foldl (fun c plan => Program.final (migrate plan c)) c

-- The table of migrations exists, without the first of them.
def Catalogue.HalfCreated (c : Catalogue) : Prop :=
  c.hasTable "schema_migrations" ∧
    ¬c.schemaMigrations.any (·.version = initialMigration.version)

end Storage
