import Mathlib.Data.List.Nodup
import OpenFrag.Library.Outcome
import OpenFrag.Library.Table
import OpenFrag.Library.Within
import OpenFrag.Storage.Migrations

open Except Program

namespace Storage

variable {c c' : Catalogue} {migration : Migration} {statements : List SchemaStatement}
variable {done rest : List Migration}

theorem hasTable_addColumn {name table column : String} :
    { c with
      tables := c.tables.map fun definition =>
        if definition.name = table then
          { definition with columns := definition.columns ++ [column] }
        else definition : Catalogue }.hasTable name = c.hasTable name := by
  simp only [Catalogue.hasTable, List.any_map]
  congr 1
  funext definition
  simp only [Function.comp]
  split <;> rfl

-- A statement adds to the tables, and leaves the table of migrations as it is.
theorem SchemaStatement.execute_ok {statement : SchemaStatement} (name : String)
    (h : statement.execute c = .ok c') :
    c'.schemaMigrations = c.schemaMigrations ∧ (c.hasTable name → c'.hasTable name) := by
  cases statement
  case createTable ifNotExists table =>
    simp only [execute, bind_eq_ok_iff, ensure_eq_ok_iff, exists_const] at h
    obtain ⟨_, h⟩ := h
    split at h
    case isTrue =>
      simp only [bind_eq_ok_iff, ensure_eq_ok_iff, exists_const, pure_eq_ok_iff] at h
      obtain ⟨_, rfl⟩ := h
      exact ⟨rfl, id⟩
    case isFalse =>
      cases h
      exact ⟨rfl, by simp +contextual [Catalogue.hasTable]⟩
  case addColumn table column =>
    simp only [execute, bind_eq_ok_iff, ensure_eq_ok_iff, exists_const, pure_eq_ok_iff] at h
    obtain ⟨_, _, rfl⟩ := h
    exact ⟨rfl, by rw [hasTable_addColumn]; exact id⟩
  case createIndex ifNotExists index =>
    simp only [execute, bind_eq_ok_iff, ensure_eq_ok_iff, exists_const] at h
    obtain ⟨_, h⟩ := h
    split at h
    case isTrue =>
      simp only [bind_eq_ok_iff, ensure_eq_ok_iff, exists_const, pure_eq_ok_iff] at h
      obtain ⟨_, rfl⟩ := h
      exact ⟨rfl, id⟩
    case isFalse =>
      simp only [bind_eq_ok_iff, ensure_eq_ok_iff, exists_const, pure_eq_ok_iff] at h
      obtain ⟨_, rfl⟩ := h
      exact ⟨rfl, id⟩
  case createTrigger trigger =>
    simp only [execute, bind_eq_ok_iff, ensure_eq_ok_iff, exists_const, pure_eq_ok_iff] at h
    obtain ⟨_, _, rfl⟩ := h
    exact ⟨rfl, id⟩
  case dropTrigger trigger =>
    simp only [execute, bind_eq_ok_iff, ensure_eq_ok_iff, exists_const, pure_eq_ok_iff] at h
    obtain ⟨_, rfl⟩ := h
    exact ⟨rfl, id⟩

theorem executeBatch_ok (name : String) (h : executeBatch statements c = .ok c') :
    c'.schemaMigrations = c.schemaMigrations ∧ (c.hasTable name → c'.hasTable name) := by
  induction statements generalizing c
  case nil =>
    cases h
    exact ⟨rfl, id⟩
  case cons statement statements ih =>
    simp only [executeBatch, List.foldlM_cons, bind_eq_ok_iff] at h
    obtain ⟨next, hnext, h⟩ := h
    have ⟨hrows, hkeeps⟩ := SchemaStatement.execute_ok name hnext
    have ⟨hrows', hkeeps'⟩ := ih h
    exact ⟨hrows'.trans hrows, fun htable => hkeeps' (hkeeps htable)⟩

def Migration.row (migration : Migration) : SchemaMigrationRow :=
  ⟨migration.version, migration.checksum⟩

theorem recordMigration_ok (h : recordMigration migration c = .ok c') :
    c.hasTable "schema_migrations" ∧ c'.hasTable "schema_migrations" ∧
      c'.schemaMigrations = c.schemaMigrations ++ [migration.row] := by
  simp only [recordMigration, bind_eq_ok_iff, ensure_eq_ok_iff, exists_const, pure_eq_ok_iff] at h
  obtain ⟨htable, _, _, rfl⟩ := h
  exact ⟨htable, htable, rfl⟩

theorem Migration.apply_ok (h : migration.apply c = .ok c') :
    c'.hasTable "schema_migrations" ∧
      c'.schemaMigrations = c.schemaMigrations ++ [migration.row] := by
  simp only [Migration.apply, bind_eq_ok_iff] at h
  obtain ⟨next, hnext, h⟩ := h
  have ⟨_, htable, hrows⟩ := recordMigration_ok h
  exact ⟨htable, (executeBatch_ok "" hnext).1 ▸ hrows⟩

def upgrade (migrations : List Migration) (c : Catalogue) : Except Error Catalogue :=
  migrations.foldlM (fun c migration => Migration.apply migration c) c

-- A catalogue after the migrations of a list, in their order.
def Migrated (done : List Migration) (c : Catalogue) : Prop :=
  upgrade done .new = .ok c

theorem Migrated.append {migration : Migration} (h : Migrated (done ++ [migration]) c) :
    ∃ before, Migrated done before ∧ migration.apply before = .ok c := by
  simpa [Migrated, upgrade, List.foldlM_append, bind_eq_ok_iff] using h

theorem Migrated.rows (h : Migrated done c) : c.schemaMigrations = done.map Migration.row := by
  induction done using List.reverseRecOn generalizing c
  case nil =>
    cases h
    rfl
  case append_singleton done migration ih =>
    obtain ⟨before, hbefore, happly⟩ := h.append
    rw [(Migration.apply_ok happly).2, ih hbefore, List.map_append, List.map_singleton]

theorem Migrated.hasTable (h : Migrated done c) (hne : done ≠ []) :
    c.hasTable "schema_migrations" := by
  cases done using List.reverseRecOn
  case nil => exact absurd rfl hne
  case append_singleton done migration =>
    obtain ⟨_, _, happly⟩ := h.append
    exact (Migration.apply_ok happly).1

-- The migrations of the schema go through, in their order.
theorem migrations_apply : ∃ complete, Migrated (initialMigration :: laterMigrations) complete := by
  have h : (upgrade (initialMigration :: laterMigrations) .new).isOk := by decide +kernel
  cases hresult : upgrade (initialMigration :: laterMigrations) .new
  case error => simp [hresult, Except.isOk, Except.toBool] at h
  case ok complete => exact ⟨complete, hresult⟩

theorem versions_nodup : ((initialMigration :: laterMigrations).map (·.version)).Nodup := by
  decide

theorem recordedChecksum_eq (hdone : done <+: initialMigration :: laterMigrations)
    (hmem : migration ∈ initialMigration :: laterMigrations) (hne : done ≠ [])
    (h : Migrated done c) : recordedChecksum migration.version c =
      .ok (if migration ∈ done then some migration.checksum else none) := by
  have hsame : ∀ other ∈ done, other.version = migration.version → other = migration :=
    fun other hother heq => List.inj_on_of_nodup_map versions_nodup (hdone.mem hother) hmem heq
  have hfind : (done.map Migration.row).find? (·.version = migration.version) =
      if migration ∈ done then some migration.row else none := by
    split
    case isTrue hin =>
      have hnodup : ((done.map Migration.row).map SchemaMigrationRow.version).Nodup := by
        simpa [Function.comp_def, Migration.row] using versions_nodup.sublist (hdone.sublist.map _)
      exact Table.find?_key hnodup (List.mem_map_of_mem hin)
    case isFalse hnot =>
      simp only [List.find?_eq_none, List.mem_map, forall_exists_index, and_imp,
        forall_apply_eq_imp_iff₂, decide_eq_true_eq]
      exact fun other hother heq => hnot (hsame other hother heq ▸ hother)
  rw [recordedChecksum, ensure, if_pos (h.hasTable hne), h.rows, hfind]
  split <;> rfl

-- The catalogues that the interruption of a run can leave.
inductive Reached : Catalogue → Prop
  | half {begun left c} (hsplit : begun ++ left = initialMigration.statements)
    (h : executeBatch begun .new = .ok c) : Reached c
  | migrated {finished left c} (hsplit : finished ++ left = initialMigration :: laterMigrations)
    (hne : finished ≠ []) (h : Migrated finished c) : Reached c

theorem executeBatch_prefix {done rest : List SchemaStatement}
    (h : executeBatch (done ++ rest) c = .ok c') :
    ∃ before, executeBatch done c = .ok before ∧ executeBatch rest before = .ok c' := by
  simpa [executeBatch, List.foldlM_append, bind_eq_ok_iff] using h

theorem upgrade_prefix (h : upgrade (done ++ rest) c = .ok c') :
    ∃ before, upgrade done c = .ok before ∧ upgrade rest before = .ok c' := by
  simpa [upgrade, List.foldlM_append, bind_eq_ok_iff] using h

-- After each of the migrations the next one goes through.
theorem Migrated.next (h : Migrated done c)
    (hsplit : done ++ migration :: rest = initialMigration :: laterMigrations) :
    ∃ c', migration.apply c = .ok c' := by
  obtain ⟨complete, hcomplete⟩ := migrations_apply
  rw [Migrated, ← hsplit] at hcomplete
  obtain ⟨before, hbefore, hrest⟩ := upgrade_prefix hcomplete
  obtain rfl := Except.ok.inj (hbefore.symm.trans h)
  simp only [upgrade, List.foldlM_cons, bind_eq_ok_iff] at hrest
  obtain ⟨next, hnext, _⟩ := hrest
  exact ⟨next, hnext⟩

theorem Migrated.snoc (h : Migrated done c) (happly : migration.apply c = .ok c') :
    Migrated (done ++ [migration]) c' := by
  rw [Migrated, upgrade, List.foldlM_append]
  simp only [Migrated, upgrade] at h
  simp [h, happly, Bind.bind, Except.bind]

section

variable {plan : Option (Fault MigrationStep)}

-- The migrations of the first list are done, and maybe some of the second.
def Upgrading (done rest : List Migration) (c : Catalogue) : Prop :=
  ∃ more left, more ++ left = rest ∧ Migrated (done ++ more) c

theorem Upgrading.reached (hne : done ≠ [])
    (hsplit : done ++ rest = initialMigration :: laterMigrations) (h : Upgrading done rest c) :
    Reached c := by
  obtain ⟨more, left, rfl, h⟩ := h
  exact .migrated (by rwa [List.append_assoc]) (by simp [hne]) h

theorem silent_eq_ok_iff {op : Catalogue → Except Error Catalogue} {r : Unit × Catalogue} :
    silent op c = .ok r ↔ op c = .ok r.2 := by
  simp only [silent, bind_eq_ok_iff, pure_eq_ok_iff]
  constructor
  · rintro ⟨_, h, rfl⟩
    exact h
  · exact fun h => ⟨r.2, h, rfl⟩

theorem recorded_bind {α : Type} {version : Nat} {found : Option Digest}
    {next : Option Digest → MigrationProgram α} (h : recordedChecksum version c = .ok found) :
    (recorded version >>= next) c = next found c := by
  apply EStateM.bind_ok
  simp only [recorded, Program.atomic, h]
  rfl

-- A later migration is skipped when it is done, and done when it is not.
theorem ensureMigration_settles (hne : done ≠ [])
    (hsplit : done ++ migration :: rest = initialMigration :: laterMigrations) :
    Settles plan id True (Upgrading done (migration :: rest)) (ensureMigration plan migration)
      (fun _ => Upgrading (done ++ [migration]) rest) (fun _ _ => Reached) := by
  have hmem : migration ∈ initialMigration :: laterMigrations := hsplit ▸ by simp
  rintro c ⟨more, left, hmore, h⟩
  simp only [id] at h
  have hinitial : done ++ more <+: initialMigration :: laterMigrations :=
    ⟨left, by rw [List.append_assoc, hmore, hsplit]⟩
  have hrecorded := recordedChecksum_eq hinitial hmem (by simp [hne]) h
  rw [ensureMigration, recorded_bind hrecorded]
  cases more
  case cons next more =>
    obtain ⟨rfl, htail⟩ := List.cons_eq_cons.mp hmore
    simp only [List.mem_append, List.mem_cons, true_or, or_true, if_true, checkChecksum, ne_eq,
      not_true, if_false]
    exact ⟨trivial, more, left, htail, by simpa using h⟩
  case nil =>
    have hnew : migration ∉ done := by
      have hnodup := versions_nodup.of_map
      rw [← hsplit] at hnodup
      exact fun hin => (List.nodup_append.mp hnodup).2.2 migration hin migration (by simp) rfl
    simp only [List.append_nil] at h
    simp only [List.append_nil, if_neg hnew]
    have hsplit' : (done ++ [migration]) ++ rest = initialMigration :: laterMigrations := by
      simpa using hsplit
    suffices hcall : Settles plan id True (· = c) (applyMigration plan migration)
        (fun _ => Upgrading (done ++ [migration]) rest) (fun _ _ => Reached) from hcall c rfl
    apply Settles.call
    case hgood =>
      rintro _ rfl
      obtain ⟨next, hnext⟩ := h.next hsplit
      exact iff_of_true trivial ⟨((), next), silent_eq_ok_iff.mpr hnext⟩
    case hQ =>
      rintro _ _ next rfl happly
      exact ⟨[], rest, rfl, by simpa using h.snoc (silent_eq_ok_iff.mp happly)⟩
    case before =>
      rintro _ rfl
      exact .migrated hsplit hne h
    case after => exact fun _ _ h => h.reached (by simp) hsplit'

theorem migrateInitial_created (htable : c.hasTable "schema_migrations") :
    migrateInitial plan c = checkInitial c := by
  rw [migrateInitial, EStateM.bind_get]
  simp [htable]

theorem migrateInitial_new (htable : ¬c.hasTable "schema_migrations") :
    migrateInitial plan c = (createInitial plan >>= fun _ => checkInitial) c := by
  rw [migrateInitial, EStateM.bind_get]
  simp [htable]

theorem checkInitial_half (h : c.HalfCreated) : checkInitial c =
    .error (.failed (.invalid "migration history is incomplete")) c := by
  have ⟨htable, hnone⟩ := h
  have hrecorded : recordedChecksum initialMigration.version c = .ok none := by
    have hfind : c.schemaMigrations.find? (·.version = initialMigration.version) = none := by
      simpa using hnone
    rw [recordedChecksum, ensure, if_pos htable, hfind]
    rfl
  exact recorded_bind hrecorded

theorem checkInitial_settles : Settles plan id True (Upgrading [initialMigration] laterMigrations)
    checkInitial (fun _ => Upgrading [initialMigration] laterMigrations) (fun _ _ => Reached) := by
  rintro c ⟨more, left, hmore, h⟩
  simp only [id] at h
  have hinitial : [initialMigration] ++ more <+: initialMigration :: laterMigrations :=
    ⟨left, by rw [List.append_assoc, hmore]; rfl⟩
  have hrecorded := recordedChecksum_eq hinitial List.mem_cons_self (by simp) h
  rw [checkInitial, recorded_bind hrecorded]
  simp only [List.mem_append, List.mem_singleton, true_or, if_true, checkChecksum, ne_eq, not_true,
    if_false]
  exact ⟨trivial, more, left, hmore, h⟩

theorem initialMigration_batch : ∃ c c', executeBatch initialMigration.statements .new = .ok c ∧
    recordMigration initialMigration c = .ok c' := by
  have hnone : Migrated [] .new := rfl
  have hsplit : [] ++ initialMigration :: laterMigrations = initialMigration :: laterMigrations :=
    rfl
  obtain ⟨c', hc'⟩ := hnone.next hsplit
  simp only [Migration.apply, bind_eq_ok_iff] at hc'
  obtain ⟨c, hbatch, hrecord⟩ := hc'
  exact ⟨c, c', hbatch, hrecord⟩

-- The statements of the first migration go through one after the other.
theorem executeBatch_next {begun left : List SchemaStatement} {statement : SchemaStatement}
    (hsplit : begun ++ statement :: left = initialMigration.statements)
    (h : executeBatch begun .new = .ok c) : ∃ c', statement.execute c = .ok c' := by
  obtain ⟨complete, _, hbatch, _⟩ := initialMigration_batch
  rw [← hsplit] at hbatch
  obtain ⟨before, hbefore, hrest⟩ := executeBatch_prefix hbatch
  obtain rfl := Except.ok.inj (hbefore.symm.trans h)
  simp only [executeBatch, List.foldlM_cons, bind_eq_ok_iff] at hrest
  obtain ⟨next, hnext, _⟩ := hrest
  exact ⟨next, hnext⟩

theorem executeBatch_snoc {begun : List SchemaStatement} {statement : SchemaStatement}
    (h : executeBatch begun .new = .ok c) (hnext : statement.execute c = .ok c') :
    executeBatch (begun ++ [statement]) .new = .ok c' := by
  rw [executeBatch, List.foldlM_append]
  simp only [executeBatch] at h
  simp [h, hnext, Bind.bind, Except.bind]

theorem createInitial_settles : Settles plan id True (· = .new) (createInitial plan)
    (fun _ => Upgrading [initialMigration] laterMigrations) (fun _ _ => Reached) := by
  have hbatch : Settles plan id True (fun c => executeBatch [] .new = .ok c)
      (Program.forEach (fun index statement =>
        Program.call plan (.statement index) (silent (SchemaStatement.execute · statement)))
        0 initialMigration.statements)
      (fun _ c => executeBatch initialMigration.statements .new = .ok c)
      (fun _ _ => Reached) := by
    refine Settles.congr (by simp) <| Settles.forEach
      (fun begun _ c => executeBatch begun .new = .ok c) (fun _ _ => True) ?_
    intro begun statement left hsplit
    have hsplit' : (begun ++ [statement]) ++ left = initialMigration.statements := by
      simpa using hsplit
    apply Settles.call
    case hgood =>
      intro c h
      obtain ⟨next, hnext⟩ := executeBatch_next hsplit h
      exact iff_of_true trivial ⟨((), next), silent_eq_ok_iff.mpr hnext⟩
    case hQ => exact fun c _ next h hnext => executeBatch_snoc h (silent_eq_ok_iff.mp hnext)
    case before => exact fun _ h => .half hsplit h
    case after => exact fun _ _ h => .half hsplit' h
  have hrecord : Settles plan id True
      (fun c => executeBatch initialMigration.statements .new = .ok c)
      (Program.call plan .record (silent (recordMigration initialMigration)))
      (fun _ => Upgrading [initialMigration] laterMigrations) (fun _ _ => Reached) := by
    apply Settles.call
    case hgood =>
      intro c h
      obtain ⟨_, next, hbatch, hnext⟩ := initialMigration_batch
      obtain rfl := Except.ok.inj (hbatch.symm.trans h)
      exact iff_of_true trivial ⟨((), next), silent_eq_ok_iff.mpr hnext⟩
    case hQ =>
      intro c _ next h hnext
      have hnone : Migrated [] .new := rfl
      have happly : initialMigration.apply .new = .ok next := by
        simp only [Migration.apply, bind_eq_ok_iff]
        exact ⟨c, h, silent_eq_ok_iff.mp hnext⟩
      exact ⟨[], laterMigrations, rfl, hnone.snoc happly⟩
    case before => exact fun _ h => .half (List.append_nil _) h
    case after => exact fun _ _ h => h.reached (by simp) rfl
  have hnew : ∀ c, c = .new → executeBatch [] .new = .ok c := by
    rintro _ rfl
    rfl
  exact (hbatch.pre hnew).seq fun _ => hrecord

theorem migrateInitial_settles : Settles plan id True
    (fun c => c = .new ∨ Upgrading [initialMigration] laterMigrations c) (migrateInitial plan)
    (fun _ => Upgrading [initialMigration] laterMigrations) (fun _ _ => Reached) := by
  have hfirst : Settles plan id True (· = .new) (migrateInitial plan)
      (fun _ => Upgrading [initialMigration] laterMigrations) (fun _ _ => Reached) := by
    refine (createInitial_settles.seq fun _ => checkInitial_settles).of_run fun c hc => ?_
    apply migrateInitial_new
    simp only [id] at hc
    simp [hc, Catalogue.new, Catalogue.hasTable]
  have hagain : Settles plan id True (Upgrading [initialMigration] laterMigrations)
      (migrateInitial plan) (fun _ => Upgrading [initialMigration] laterMigrations)
      (fun _ _ => Reached) := by
    refine checkInitial_settles.of_run fun c hc => ?_
    obtain ⟨_, _, _, h⟩ := hc
    exact migrateInitial_created (h.hasTable (by simp))
  rintro c (hnew | h)
  · exact hfirst c hnew
  · exact hagain c h

-- A run of the migrations goes through from each state that it can begin in, or is interrupted.
theorem migrate_settles (plan : Option (Fault MigrationStep)) : Settles plan id True
    (fun c => c = .new ∨ Upgrading [initialMigration] laterMigrations c) (migrate plan)
    (fun _ => Migrated (initialMigration :: laterMigrations)) (fun _ _ => Reached) := by
  refine migrateInitial_settles.seq fun _ => ?_
  have hloop : Settles plan id (∀ done migration rest, done ++ migration :: rest = laterMigrations →
        True) (Upgrading [initialMigration] laterMigrations)
      (Program.forEach (fun _ migration => ensureMigration plan migration) 0 laterMigrations)
      (fun _ => Upgrading (initialMigration :: laterMigrations) []) (fun _ _ => Reached) := by
    refine Settles.forEach (fun done rest => Upgrading (initialMigration :: done) rest) _ ?_
    intro done migration rest hsplit
    exact ensureMigration_settles (by simp) (by simp [← hsplit])
  refine hloop.mono (by simp) (fun _ h => h) ?_
  rintro _ c ⟨more, left, hmore, h⟩
  simpa [(List.append_eq_nil_iff.mp hmore).1] using h

end

-- A catalogue that an interrupted run leaves can be migrated, unless it has half of the first
-- migration.
theorem Reached.cases (h : Reached c) :
    c = .new ∨ c.HalfCreated ∨ Upgrading [initialMigration] laterMigrations c := by
  cases h
  case half begun left hsplit h =>
    cases begun
    case nil =>
      cases h
      exact .inl rfl
    case cons first begun =>
      obtain ⟨rfl, -⟩ := List.cons_eq_cons.mp hsplit
      simp only [executeBatch, List.foldlM_cons, bind_eq_ok_iff] at h
      obtain ⟨next, hnext, h⟩ := h
      cases hnext
      have ⟨hrows, htable⟩ := executeBatch_ok "schema_migrations" h
      exact .inr (.inl ⟨htable (by decide), by simp [hrows, Catalogue.new]⟩)
  case migrated finished left hsplit hne h =>
    cases finished
    case nil => exact absurd rfl hne
    case cons first finished =>
      obtain ⟨rfl, hrest⟩ := List.cons_eq_cons.mp hsplit
      exact .inr (.inr ⟨finished, left, hrest, h⟩)

theorem migrate_half (plan : Option (Fault MigrationStep)) (h : c.HalfCreated) :
    migrate plan c = .error (.failed (.invalid "migration history is incomplete")) c := by
  apply EStateM.bind_error
  rw [migrateInitial_created h.1]
  exact checkInitial_half h

-- Each run ends in a catalogue that an interrupted run can leave.
theorem Reached.run (h : Reached c) (plan : Option (Fault MigrationStep)) :
    Reached (Program.final (migrate plan c)) := by
  have hends (hstart : c = .new ∨ Upgrading [initialMigration] laterMigrations c) :
      Reached (Program.final (migrate plan c)) := by
    have hsettles := migrate_settles plan c hstart
    cases hrun : migrate plan c
    case ok r c' =>
      simp only [hrun] at hsettles
      exact .migrated (List.append_nil _) (by simp) hsettles.2
    case error stop c' =>
      cases stop
      case failed => simp [hrun] at hsettles
      case interrupted =>
        simp only [hrun] at hsettles
        exact hsettles.2
  rcases h.cases with hnew | hhalf | hmigrated
  · exact hends (.inl hnew)
  · rw [migrate_half plan hhalf]
    exact h
  · exact hends (.inr hmigrated)

theorem interrupted_reached (h : Reached c) (plans : List (Option (Fault MigrationStep))) :
    Reached (interrupted plans c) := by
  induction plans generalizing c
  case nil => exact h
  case cons plan plans ih => exact ih (h.run plan)

-- Without an interruption a run ends, and in one catalogue.
theorem migrate_uninterrupted (h : c = .new ∨ Upgrading [initialMigration] laterMigrations c) :
    ∃ complete, Migrated (initialMigration :: laterMigrations) complete ∧
      migrate none c = .ok () complete := by
  have hsettles := migrate_settles none c h
  cases hrun : migrate none c
  case ok r c' =>
    simp only [hrun] at hsettles
    exact ⟨c', hsettles.2, rfl⟩
  case error stop c' => cases stop <;> simp [hrun] at hsettles

-- A recorded checksum differs from that of its migration.
def Mismatch (migration : Migration) (c : Catalogue) : Prop :=
  ∃ found, recordedChecksum migration.version c = .ok (some found) ∧ found ≠ migration.checksum

theorem Mismatch.ensureMigration {plan : Option (Fault MigrationStep)}
    (h : Mismatch migration c) : ensureMigration plan migration c =
      .error (.failed (.invalid "migration checksum mismatch")) c := by
  obtain ⟨found, hrecorded, hne⟩ := h
  rw [Storage.ensureMigration, recorded_bind hrecorded]
  simp only [checkChecksum, if_pos hne]
  rfl

theorem ensureMigration_recorded {plan : Option (Fault MigrationStep)}
    (hrecorded : recordedChecksum migration.version c = .ok (some migration.checksum)) :
    ensureMigration plan migration c = .ok () c := by
  rw [ensureMigration, recorded_bind hrecorded]
  simp only [checkChecksum, ne_eq, not_true, if_false]
  rfl

-- The later migrations stop at the first of them whose checksum differs, if all before it are done.
theorem forEach_mismatch {plan : Option (Fault MigrationStep)} {migrations : List Migration}
    (index : Nat) (hsorted : migrations.Pairwise (·.version < ·.version))
    (hmem : migration ∈ migrations) (h : Mismatch migration c)
    (hdone : ∀ other ∈ migrations, other.version ≤ migration.version →
      ∃ found, recordedChecksum other.version c = .ok (some found)) :
    Program.forEach (fun _ migration => ensureMigration plan migration) index migrations c =
      .error (.failed (.invalid "migration checksum mismatch")) c := by
  induction migrations generalizing index
  case nil => cases hmem
  case cons first migrations ih =>
    have ⟨hfirst, hsorted⟩ := List.pairwise_cons.mp hsorted
    by_cases hmismatch : Mismatch first c
    case pos => exact EStateM.bind_error hmismatch.ensureMigration
    case neg =>
      rcases List.mem_cons.mp hmem with rfl | hmem
      · exact absurd h hmismatch
      · obtain ⟨found, hfound⟩ := hdone first List.mem_cons_self (hfirst migration hmem).le
        have hsame : found = first.checksum := by
          by_contra hne
          exact hmismatch ⟨found, hfound, hne⟩
        rw [Program.forEach, EStateM.bind_ok (ensureMigration_recorded (hsame ▸ hfound))]
        exact ih (index + 1) hsorted hmem fun other hother =>
          hdone other (List.mem_cons_of_mem first hother)

-- A catalogue whose table of migrations has the versions up to one of them.
structure Contiguous (c : Catalogue) (last : Nat) : Prop where
  table    : c.hasTable "schema_migrations"
  versions : (c.schemaMigrations.map (·.version)).Perm (List.range' 1 last)

theorem Contiguous.recorded {last : Nat} (h : Contiguous c last) {row : SchemaMigrationRow}
    (hrow : row ∈ c.schemaMigrations) :
    recordedChecksum row.version c = .ok (some row.checksum) := by
  have hnodup : (c.schemaMigrations.map SchemaMigrationRow.version).Nodup :=
    h.versions.nodup_iff.mpr List.nodup_range'
  rw [recordedChecksum, ensure, if_pos h.table, Table.find?_key hnodup hrow]
  rfl

theorem Contiguous.recorded_le {last version : Nat} (h : Contiguous c last) {row : SchemaMigrationRow}
    (hrow : row ∈ c.schemaMigrations) (hpos : 1 ≤ version) (hle : version ≤ row.version) :
    ∃ found, recordedChecksum version c = .ok (some found) := by
  have hlast := h.versions.mem_iff.mp (List.mem_map_of_mem hrow)
  have hmem : version ∈ c.schemaMigrations.map (·.version) := by
    rw [h.versions.mem_iff]
    simp only [List.mem_range'_1] at hlast ⊢
    omega
  obtain ⟨other, hother, rfl⟩ := List.mem_map.mp hmem
  exact ⟨other.checksum, h.recorded hother⟩

theorem migrate_mismatch (plan : Option (Fault MigrationStep)) {last : Nat}
    (h : Contiguous c last) {row : SchemaMigrationRow} (hrow : row ∈ c.schemaMigrations)
    (hmem : migration ∈ initialMigration :: laterMigrations)
    (hversion : row.version = migration.version) (hne : row.checksum ≠ migration.checksum) :
    migrate plan c = .error (.failed (.invalid "migration checksum mismatch")) c := by
  have hmismatch : Mismatch migration c := ⟨row.checksum, hversion ▸ h.recorded hrow, hne⟩
  have hsorted : (initialMigration :: laterMigrations).Pairwise (·.version < ·.version) := by
    decide
  have ⟨hfirst, hsorted⟩ := List.pairwise_cons.mp hsorted
  have hpositive : ∀ other ∈ initialMigration :: laterMigrations, 1 ≤ other.version := by decide
  have hdone : ∀ other ∈ initialMigration :: laterMigrations,
      other.version ≤ migration.version →
      ∃ found, recordedChecksum other.version c = .ok (some found) :=
    fun other hother hle => h.recorded_le hrow (hpositive other hother) (hversion ▸ hle)
  obtain ⟨found, hfound⟩ := hdone initialMigration List.mem_cons_self <| by
    rcases List.mem_cons.mp hmem with rfl | hlater
    · exact le_refl _
    · exact (hfirst migration hlater).le
  have hinitial : migrateInitial plan c = checkChecksum initialMigration found c := by
    rw [migrateInitial_created h.table, checkInitial, recorded_bind hfound]
  by_cases hsame : found = initialMigration.checksum
  case neg =>
    apply EStateM.bind_error
    rw [hinitial, checkChecksum, if_pos hsame]
    rfl
  case pos =>
    have hlater : migration ∈ laterMigrations := by
      rcases List.mem_cons.mp hmem with rfl | hlater
      · obtain ⟨other, hother, hdiffers⟩ := hmismatch
        rw [hfound] at hother
        cases hother
        exact absurd hsame hdiffers
      · exact hlater
    have hok : migrateInitial plan c = .ok () c := by
      rw [hinitial, checkChecksum, if_neg (not_not.mpr hsame)]
      rfl
    rw [migrate, EStateM.bind_ok hok]
    exact forEach_mismatch 0 hsorted hlater hmismatch fun other hother =>
      hdone other (List.mem_cons_of_mem _ hother)

-- A run after any interrupted runs of a new database goes through to the schema and the history of
-- an uninterrupted one, unless the first migration is there and not recorded; and a checksum that
-- differs is rejected without any change.
theorem migrate_recovers_iff (plans : List (Option (Fault MigrationStep))) :
    (migrate none (interrupted plans .new) = .ok () (Program.final (migrate none .new)) ↔
      ¬(interrupted plans .new).HalfCreated) ∧
    (Program.final (migrate none .new)).schemaMigrations =
      (initialMigration :: laterMigrations).map Migration.row ∧
    ∀ plan c last, Contiguous c last → ∀ row ∈ c.schemaMigrations,
      ∀ migration ∈ initialMigration :: laterMigrations, row.version = migration.version →
        row.checksum ≠ migration.checksum →
        migrate plan c = .error (.failed (.invalid "migration checksum mismatch")) c := by
  obtain ⟨complete, hcomplete, hnew⟩ := migrate_uninterrupted (.inl rfl)
  have hfinal : Program.final (migrate none .new) = complete := congrArg Program.final hnew
  rw [hfinal]
  refine ⟨?_, hcomplete.rows, ?_⟩
  · have hreached := interrupted_reached (.half (List.nil_append _) rfl) plans
    constructor
    · intro hrun hhalf
      rw [migrate_half none hhalf] at hrun
      cases hrun
    · intro hhalf
      have hstart : interrupted plans .new = .new ∨
          Upgrading [initialMigration] laterMigrations (interrupted plans .new) := by
        rcases hreached.cases with hnew | hhalf' | hmigrated
        · exact .inl hnew
        · exact absurd hhalf' hhalf
        · exact .inr hmigrated
      obtain ⟨other, hother, hrun⟩ := migrate_uninterrupted hstart
      obtain rfl := Except.ok.inj (hother.symm.trans hcomplete)
      exact hrun
  · exact fun plan c last h row hrow migration hmem => migrate_mismatch plan h hrow hmem

-- The process ends after the first statement of the first migration.
theorem migrate_interrupted_fails :
    migrate none (interrupted [some ⟨.statement 0, .after, true⟩] .new) =
      .error (.failed (.invalid "migration history is incomplete"))
        (interrupted [some ⟨.statement 0, .after, true⟩] .new) :=
  rfl

end Storage
