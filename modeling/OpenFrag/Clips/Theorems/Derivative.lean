import OpenFrag.Clips.Derivative
import OpenFrag.Clips.Theorems.Export
import OpenFrag.Clips.Theorems.Reviewers

open EStateM Function

namespace Clips

variable {W σ ε α : Type} {ports : MediaPorts W} {files : Files} {w : W} {path : FilePath}

section Inspects

-- The computation does not change the files.
abbrev Inspects (x : EStateM ε (Disk W) α) : Prop :=
  EStateM.Keeps (fun disk : Disk W => disk.files) x

theorem Inspects.cases {x : EStateM ε (Disk W) α} (h : Inspects x) (files : Files) (w : W) :
    (∃ e w', x ⟨files, w⟩ = .error e ⟨files, w'⟩) ∨ (∃ a w', x ⟨files, w⟩ = .ok a ⟨files, w'⟩) := by
  rcases hx : x ⟨files, w⟩ with ⟨a, files', w'⟩ | ⟨e, files', w'⟩
  case ok =>
    have hkeep : files' = files := h.ok hx
    exact .inr ⟨a, w', by rw [hkeep]⟩
  case error =>
    have hkeep : files' = files := h.error hx
    exact .inl ⟨e, w', by rw [hkeep]⟩

theorem Inspects.adaptExcept {ε' : Type} {x : EStateM ε (Disk W) α} (h : Inspects x) (f : ε → ε') :
    Inspects (EStateM.adaptExcept f x) := by
  intro disk
  cases hx : x disk
  case ok => simpa [EStateM.adaptExcept, hx] using h.ok hx
  case error => simpa [EStateM.adaptExcept, hx] using h.error hx

theorem discard_removes (hremoves : Removes ports.toDiskPorts) (path : FilePath) (files : Files)
    (w : W) :
    ∃ w', Disk.discard ports.toDiskPorts path ⟨files, w⟩ = ⟨update files path none, w'⟩ := by
  have ⟨entry, w', h, _, hnone⟩ := Disk.discard_eq ports.toDiskPorts path files w
  rw [hnone hremoves] at h
  exact ⟨w', h⟩

-- A check of a file removes it when it fails.
theorem Inspects.orDiscard (hremoves : Removes ports.toDiskPorts) {x : EStateM ε (Disk W) α}
    (h : Inspects x) (path : FilePath) (files : Files) (w : W) :
    (∃ e w', Disk.orDiscard ports.toDiskPorts path x ⟨files, w⟩ =
      .error e ⟨update files path none, w'⟩) ∨
    (∃ a w', x ⟨files, w⟩ = .ok a ⟨files, w'⟩ ∧
      Disk.orDiscard ports.toDiskPorts path x ⟨files, w⟩ = .ok a ⟨files, w'⟩) := by
  rcases h.cases files w with ⟨e, w', hx⟩ | ⟨a, w', hx⟩
  case inl =>
    have ⟨w'', hdiscard⟩ := discard_removes hremoves path files w'
    exact .inl ⟨e, w'', by rw [Disk.orDiscard_error hx, hdiscard]⟩
  case inr => exact .inr ⟨a, w', hx, Disk.orDiscard_ok hx⟩

theorem checkCancelled_inspects : Inspects (checkCancelled ports) := by
  intro disk
  rcases h : ports.isCancelled disk.world with ⟨_ | _, w'⟩ <;> simp [checkCancelled, h]

theorem probe_inspects (path : FilePath) : Inspects (probe ports path) := by
  intro disk
  rcases h : ports.probe path disk.world with ⟨e | media, w'⟩ <;> simp [probe, h]

theorem ofExcept_inspects (x : Except ε α) : Inspects (ofExcept x : EStateM ε (Disk W) α) := by
  intro disk
  cases x <;> rfl

theorem contentOf_inspects (ports : DiskPorts W) (step : FileStep) (path : FilePath) :
    Inspects (Disk.contentOf ports step path) := by
  intro ⟨files, w⟩
  rcases Disk.contentOf_cases ports step path files w with ⟨e, w', h⟩ | ⟨content, w', _, h⟩ <;>
    rw [h] <;> rfl

theorem attempt_inspects (ports : DiskPorts W) (step : FileStep) : Inspects (Disk.attempt ports step) := by
  intro ⟨files, w⟩
  rcases Disk.attempt_cases ports step files w with ⟨text, w', _, h⟩ | ⟨w', h⟩ <;> rw [h] <;> rfl

end Inspects

section Steps

variable {staging directory : FilePath} {name : String}

theorem stagingPath_eq (ports : MediaPorts W) (directory : FilePath) (h : PlainName name)
    (files : Files) (w : W) :
    ∃ staging w', Hidden staging ∧
      stagingPath ports directory name ⟨files, w⟩ = .ok staging ⟨files, w'⟩ := by
  have hplain := hiddenName_plain ".stage-" ports.processId (ports.nextId w).1 h (by decide) rfl
  refine ⟨_, (ports.nextId w).2, ?_, rfl⟩
  rw [hplain.join]
  exact hidden_concat (by simp)

theorem copyToNewFile_cases (ports : MediaPorts W) (source staging : FilePath) (files : Files)
    (w : W) :
    (∃ e entry w', copyToNewFile ports source staging ⟨files, w⟩ =
      .error e ⟨update files staging entry, w'⟩) ∨
    (∃ entry w', files staging = none ∧ copyToNewFile ports source staging ⟨files, w⟩ =
      .ok () ⟨update files staging entry, w'⟩) := by
  unfold copyToNewFile
  rcases (contentOf_inspects ports.toDiskPorts .open source).cases files w with
    ⟨e, w, h⟩ | ⟨content, w, h⟩
  case inl => exact .inl ⟨e, files staging, w, by rw [bind_error h, update_eq_self]⟩
  rw [bind_ok h]
  clear h
  rcases Disk.createNew_cases ports.toDiskPorts staging files w with ⟨e, w, h⟩ | ⟨w, hfree, h⟩
  case inl => exact .inl ⟨e, files staging, w, by rw [bind_error h, update_eq_self]⟩
  rw [bind_ok h]
  clear h
  rcases Disk.write_cases ports.toDiskPorts staging content
    (update files staging (some (.file []))) w with ⟨e, part, w, h⟩ | ⟨w, h⟩ <;>
    rw [update_idem] at h
  case inl => exact .inl ⟨e, _, w, bind_error h⟩
  rw [bind_ok h]
  clear h
  rcases (attempt_inspects ports.toDiskPorts .sync).cases
    (update files staging (some (.file content))) w with ⟨e, w, h⟩ | ⟨⟨⟩, w, h⟩
  case inl => exact .inl ⟨e, _, w, h⟩
  case inr => exact .inr ⟨_, w, hfree, h⟩

theorem transcode_cases (ports : MediaPorts W) (request : TranscodeRequest) (files : Files)
    (w : W) :
    (∃ e entry w', transcode ports request ⟨files, w⟩ =
      .error e ⟨update files request.destination entry, w'⟩) ∨
    (∃ entry w', files request.destination = none ∧ transcode ports request ⟨files, w⟩ =
      .ok () ⟨update files request.destination entry, w'⟩) := by
  unfold transcode
  cases hentry : files request.destination with
  | some entry =>
    refine .inl ⟨ports.refuse w, files request.destination, w, ?_⟩
    simp [hentry]
  | none =>
    rcases hresult : ports.transcode request w with ⟨⟨e | ⟨⟨⟩⟩, output⟩, w'⟩
    case error => exact .inl ⟨e, output.map .file, w', by simp [hentry]⟩
    case ok => exact .inr ⟨output.map .file, w', rfl, by simp [hentry]⟩

-- The staging file, and nothing else, is made; it has not been there when this succeeds.
theorem createStagingDerivative_cases (ports : MediaPorts W) (source staging : FilePath)
    (trim : TrimRange) (trimRequested : Bool) (profile : DerivativeProfile) (files : Files)
    (w : W) :
    (∃ e entry w', createStagingDerivative ports source staging trim trimRequested profile
      ⟨files, w⟩ = .error e ⟨update files staging entry, w'⟩) ∨
    (∃ entry w', files staging = none ∧
      createStagingDerivative ports source staging trim trimRequested profile ⟨files, w⟩ =
        .ok () ⟨update files staging entry, w'⟩) := by
  unfold createStagingDerivative
  split
  case isTrue =>
    rcases copyToNewFile_cases ports source staging files w with
      ⟨e, entry, w', h⟩ | ⟨entry, w', hfree, h⟩
    case inl => exact .inl ⟨_, entry, w', adaptExcept_error h⟩
    case inr => exact .inr ⟨entry, w', hfree, adaptExcept_ok h⟩
  case isFalse =>
    rcases transcode_cases ports ⟨source, staging, trim, profile⟩ files w with
      ⟨e, entry, w', h⟩ | ⟨entry, w', hfree, h⟩
    case inl => exact .inl ⟨_, entry, w', adaptExcept_error h⟩
    case inr => exact .inr ⟨entry, w', hfree, adaptExcept_ok h⟩

-- A check that fails removes the staging file.
theorem verifyStagingDerivative_cases (hremoves : Removes ports.toDiskPorts) (staging : FilePath)
    (profile : DerivativeProfile) (files : Files) (w : W) :
    (∃ e w', verifyStagingDerivative ports staging profile ⟨files, w⟩ =
      .error e ⟨update files staging none, w'⟩) ∨
    (∃ media w', verifyStagingDerivative ports staging profile ⟨files, w⟩ =
      .ok media ⟨files, w'⟩) := by
  unfold verifyStagingDerivative
  rcases checkCancelled_inspects.orDiscard hremoves staging files w with
    ⟨e, w, h⟩ | ⟨⟨⟩, w, _, h⟩
  case inl => exact .inl ⟨e, w, bind_error h⟩
  rw [bind_ok h]
  clear h
  rcases ((probe_inspects staging).adaptExcept DerivativeReviewError.probe).orDiscard hremoves staging
    files w with ⟨e, w, h⟩ | ⟨media, w, _, h⟩
  case inl => exact .inl ⟨e, w, bind_error h⟩
  rw [bind_ok h]
  clear h
  cases profile with
  | review => exact .inr ⟨media, w, rfl⟩
  | discord discord =>
    dsimp only
    rcases ((ofExcept_inspects (verifyDiscordMedia media discord)).adaptExcept
      DerivativeReviewError.discordIncompatible).orDiscard hremoves staging files w with
      ⟨e, w, h⟩ | ⟨⟨⟩, w, _, h⟩
    case inl => exact .inl ⟨e, w, bind_error h⟩
    rw [bind_ok h]
    clear h
    rcases ((contentOf_inspects ports.toDiskPorts .metadata staging).adaptExcept fileError).orDiscard
      hremoves staging files w with ⟨e, w, h⟩ | ⟨content, w, _, h⟩
    case inl => exact .inl ⟨e, w, bind_error h⟩
    rw [bind_ok h]
    by_cases hlarge : content.length > discord.maxBytes
    case neg =>
      rw [if_neg hlarge]
      exact .inr ⟨media, w, rfl⟩
    case pos =>
      rw [if_pos hlarge]
      have ⟨w', hdiscard⟩ := discard_removes hremoves staging files w
      refine .inl ⟨.outputTooLarge content.length discord.maxBytes, w', ?_⟩
      rw [← hdiscard]
      exact Disk.orDiscard_error rfl

theorem linkTo_cases (directory : FilePath) (hremoves : Removes ports.toDiskPorts)
    (hname : PlainName name) (hne : directory ++ [name] ≠ staging) (files : Files) (w : W) :
    (∃ e w', linkTo ports staging directory name ⟨files, w⟩ = .error e ⟨files, w'⟩) ∨
    (∃ w', linkTo ports staging directory name ⟨files, w⟩ = .ok none ⟨files, w'⟩) ∨
    (∃ entry w', files staging = some entry ∧ files (directory ++ [name]) = none ∧
      linkTo ports staging directory name ⟨files, w⟩ =
        .ok (some (directory ++ [name]))
          ⟨update (update files (directory ++ [name]) (some entry)) staging none, w'⟩) := by
  unfold linkTo
  rw [hname.join]
  rcases Disk.hardLink_cases ports.toDiskPorts staging (directory ++ [name]) files w with
    ⟨w, _, h⟩ | ⟨e, w, hkind, h⟩ | ⟨entry, w, hentry, hfree, h⟩
  case inl => exact .inr (.inl ⟨w, by simp [h, taken]⟩)
  case inr.inl => exact .inl ⟨fileError e, w, by simp [h, hkind]⟩
  case inr.inr =>
    rcases Disk.removeFile_cases ports.toDiskPorts staging
      (update files (directory ++ [name]) (some entry)) w with
      ⟨e, w', _, habsent⟩ | ⟨w', hremove⟩
    case inl =>
      have hstaging := habsent hremoves
      rw [update_of_ne hne.symm, hentry] at hstaging
      cases hstaging
    case inr => exact .inr (.inr ⟨entry, w', hentry, hfree, by simp [h, hremove]⟩)

-- The staging file gets a name that has been free, or nothing happens to it.
theorem promote_cases {filename : String} (directory : FilePath)
    (hremoves : Removes ports.toDiskPorts) (hname : FileName filename.toList) (hhidden : Hidden staging) (files : Files) (w : W) :
    (∃ e w', promoteWithoutOverwrite ports staging directory filename ⟨files, w⟩ =
      .error e ⟨files, w'⟩) ∨
    (∃ name entry w', FileName name.toList ∧ files staging = some entry ∧
      files (directory ++ [name]) = none ∧
      promoteWithoutOverwrite ports staging directory filename ⟨files, w⟩ =
        .ok (directory ++ [name])
          ⟨update (update files (directory ++ [name]) (some entry)) staging none, w'⟩) := by
  have htries : ∀ (remaining index : Nat) (w : W),
      (∃ e w', tryCandidates (linkTo ports staging directory) filename remaining index ⟨files, w⟩ =
        .error e ⟨files, w'⟩) ∨
      (∃ w', tryCandidates (linkTo ports staging directory) filename remaining index ⟨files, w⟩ =
        .ok none ⟨files, w'⟩) ∨
      (∃ name entry w', FileName name.toList ∧ files staging = some entry ∧
        files (directory ++ [name]) = none ∧
        tryCandidates (linkTo ports staging directory) filename remaining index ⟨files, w⟩ =
          .ok (some (directory ++ [name]))
            ⟨update (update files (directory ++ [name]) (some entry)) staging none, w'⟩) := by
    intro remaining
    induction remaining
    case zero => exact fun index w => .inr (.inl ⟨w, rfl⟩)
    case succ remaining ih =>
      intro index w
      have hcandidate := fileName_candidate hname index
      unfold tryCandidates
      rcases linkTo_cases directory hremoves hcandidate.plain
        (hcandidate.ne_hidden hhidden) files w with
        ⟨e, w', h⟩ | ⟨w', h⟩ | ⟨entry, w', hentry, hfree, h⟩
      case inl => exact .inl ⟨e, w', bind_error h⟩
      case inr.inl =>
        rw [bind_ok h]
        exact ih (index + 1) w'
      case inr.inr =>
        rw [bind_ok h]
        exact .inr (.inr ⟨_, entry, w', hcandidate, hentry, hfree, rfl⟩)
  unfold promoteWithoutOverwrite
  rcases htries maxCollisionIndex 1 w with
    ⟨e, w', h⟩ | ⟨w', h⟩ | ⟨name, entry, w', hname', hentry, hfree, h⟩
  case inl => exact .inl ⟨e, w', bind_error h⟩
  case inr.inl => exact .inl ⟨.nameSpaceExhausted, w', by rw [bind_ok h]; rfl⟩
  case inr.inr => exact .inr ⟨name, entry, w', hname', hentry, hfree, by rw [bind_ok h]; rfl⟩

end Steps

-- No file is new or changed, and no visible one is gone.
structure Loses (files files' : Files) : Prop where
  old     : ∀ path entry, files' path = some entry → files path = some entry
  visible : ∀ path, ¬Hidden path → files' path = files path

theorem Loses.refl : Loses files files := ⟨fun _ _ h => h, fun _ _ => rfl⟩

theorem Loses.remove (hhidden : Hidden path) : Loses files (update files path none) where
  old path' entry h := by
    by_cases heq : path' = path
    case pos => simp [heq] at h
    case neg => rwa [update_of_ne heq] at h
  visible path' h := by
    have hne : path' ≠ path := fun heq => h (by rw [heq]; exact hhidden)
    exact update_of_ne hne none files

-- The provenance tells of the file and lies inside the source.
structure Derives (ports : MediaPorts W) (clip : Clip) (destination : FilePath)
    (content : List UInt8) (derivative : DerivativeProvenance) : Prop where
  path   : derivative.artifact.path = destination.text
  sha256 : derivative.artifact.sha256 = ports.sha256 content
  bytes  : derivative.artifact.bytes = content.length
  trim   : derivative.trim.endMs ≤ clip.snapshot.sourceCapture.durationMs

section Prepare

variable {clip : Clip} {request : DerivativeReviewRequest}

theorem ofExcept_error {x : Except ε α} {e : ε} {disk : Disk W} (h : x = .error e) :
    (ofExcept x : EStateM ε (Disk W) α) disk = .error e disk := by
  rw [h]
  rfl

theorem ofExcept_ok {x : Except ε α} {a : α} {disk : Disk W} (h : x = .ok a) :
    (ofExcept x : EStateM ε (Disk W) α) disk = .ok a disk := by
  rw [h]
  rfl

theorem artifact_new_ok {artifactId path sha256 : String} {durationMs bytes : Nat}
    {artifact : ArtifactProvenance}
    (h : ArtifactProvenance.new artifactId path sha256 durationMs bytes = .ok artifact) :
    artifact.path = path ∧ artifact.sha256 = sha256 ∧ artifact.bytes = bytes := by
  unfold ArtifactProvenance.new at h
  split at h
  case isTrue => cases h
  split at h
  case isTrue => cases h
  split at h
  case isTrue => cases h
  cases h
  exact ⟨rfl, rfl, rfl⟩

theorem prepareDerivative_cases (hremoves : Removes ports.toDiskPorts) (clip : Clip)
    (request : DerivativeReviewRequest) (files : Files) (w : W) :
    (∃ e files' w', Loses files files' ∧
      prepareDerivative ports clip request ⟨files, w⟩ = .error e ⟨files', w'⟩) ∨
    (∃ name content derivative w', FileName name.toList ∧
      files (request.destinationDirectory ++ [name]) = none ∧
      Derives ports clip (request.destinationDirectory ++ [name]) content derivative ∧
      prepareDerivative ports clip request ⟨files, w⟩ =
        .ok (request.destinationDirectory ++ [name], derivative)
          ⟨update files (request.destinationDirectory ++ [name]) (some (.file content)), w'⟩) := by
  unfold prepareDerivative
  rcases checkCancelled_inspects.cases files w with ⟨e, w, h⟩ | ⟨⟨⟩, w, h⟩
  case inl => exact .inl ⟨e, files, w, .refl, bind_error h⟩
  rw [bind_ok h]
  clear h
  by_cases hrejected : clip.snapshot.reviewState.isRejected
  case pos =>
    rw [if_pos hrejected]
    exact .inl ⟨_, files, w, .refl, rfl⟩
  rw [if_neg hrejected]
  cases htrim : requestedTrim clip request.trim with
  | error e => exact .inl ⟨_, files, w, .refl, bind_error (adaptExcept_error (ofExcept_error rfl))⟩
  | ok trim =>
    rw [bind_ok (adaptExcept_ok (ofExcept_ok rfl))]
    by_cases hinside : trim.endMs > clip.snapshot.sourceCapture.durationMs
    case pos =>
      rw [if_pos hinside]
      exact .inl ⟨_, files, w, .refl, rfl⟩
    rw [if_neg hinside]
    rcases ((attempt_inspects ports.toDiskPorts .createDirectory).adaptExcept fileError).cases files w
      with ⟨e, w, h⟩ | ⟨⟨⟩, w, h⟩
    case inl => exact .inl ⟨e, files, w, .refl, bind_error h⟩
    rw [bind_ok h]
    clear h
    have hname := fileName_sanitize request.metadata.title clip.snapshot.id
    have ⟨staging, w, hhidden, h⟩ :=
      stagingPath_eq ports request.destinationDirectory hname.plain files w
    rw [bind_ok h]
    clear h
    rcases createStagingDerivative_cases ports (.components clip.snapshot.sourceCapture.path) staging
      trim request.trim.isSome request.profile files w with
      ⟨e, entry, w, h⟩ | ⟨entry, w, hfree, h⟩
    case inl =>
      have ⟨w', hdiscard⟩ := discard_removes hremoves staging (update files staging entry) w
      rw [update_idem] at hdiscard
      refine .inl ⟨e, _, w', .remove hhidden, bind_error ?_⟩
      rw [← hdiscard]
      exact Disk.orDiscard_error h
    rw [bind_ok (Disk.orDiscard_ok h)]
    clear h
    have hstaging : update (update files staging entry) staging none = files := by
      rw [update_idem, ← hfree, update_eq_self]
    rcases verifyStagingDerivative_cases hremoves staging request.profile
      (update files staging entry) w with ⟨e, w, h⟩ | ⟨media, w, h⟩
    case inl =>
      rw [hstaging] at h
      exact .inl ⟨e, files, w, .refl, bind_error h⟩
    rw [bind_ok h]
    clear h
    rcases promote_cases request.destinationDirectory hremoves hname hhidden
      (update files staging entry) w with ⟨e, w, h⟩ | ⟨name, entry', w, hname', hentry, hfree', h⟩
    case inl =>
      have ⟨w', hdiscard⟩ := discard_removes hremoves staging (update files staging entry) w
      rw [hstaging] at hdiscard
      refine .inl ⟨e, files, w', .refl, bind_error ?_⟩
      rw [← hdiscard]
      exact Disk.orDiscard_error h
    have hne : request.destinationDirectory ++ [name] ≠ staging := hname'.ne_hidden hhidden
    rw [update_of_ne hne] at hfree'
    rw [bind_ok (Disk.orDiscard_ok h), update_comm hne, hstaging]
    clear h
    have hdestination (entry : Option Entry) :
        update (update files (request.destinationDirectory ++ [name]) entry)
          (request.destinationDirectory ++ [name]) none = files := by
      rw [update_idem, ← hfree', update_eq_self]
    rcases Disk.contentOf_cases ports.toDiskPorts .read (request.destinationDirectory ++ [name])
      (update files (request.destinationDirectory ++ [name]) (some entry')) w with
      ⟨e, w, h⟩ | ⟨content, w, hcontent, h⟩
    case inl =>
      have ⟨w', hdiscard⟩ := discard_removes hremoves (request.destinationDirectory ++ [name])
        (update files (request.destinationDirectory ++ [name]) (some entry')) w
      rw [hdestination] at hdiscard
      refine .inl ⟨fileError e, files, w', .refl, bind_error ?_⟩
      rw [← hdiscard]
      exact Disk.orDiscard_error (adaptExcept_error h)
    rw [bind_ok (Disk.orDiscard_ok (adaptExcept_ok h))]
    clear h
    have hentry' : entry' = .file content := by simpa using hcontent
    rw [hentry']
    cases hartifact : ArtifactProvenance.new request.artifactId
      (request.destinationDirectory ++ [name] : FilePath).text (ports.sha256 content)
      media.durationMs content.length with
    | error e =>
      have ⟨w', hdiscard⟩ := discard_removes hremoves (request.destinationDirectory ++ [name])
        (update files (request.destinationDirectory ++ [name]) (some (.file content))) w
      rw [hdestination] at hdiscard
      refine .inl ⟨.model e, files, w', .refl, bind_error ?_⟩
      rw [← hdiscard]
      exact Disk.orDiscard_error (adaptExcept_error (ofExcept_error rfl))
    | ok artifact =>
      have ⟨hpath, hsha256, hbytes⟩ := artifact_new_ok hartifact
      refine .inr ⟨name, content,
        { artifact, trim, sourceArtifactId := clip.snapshot.sourceCapture.artifactId }, w, hname',
        hfree', ⟨hpath, hsha256, hbytes, Nat.le_of_not_gt hinside⟩, ?_⟩
      rw [bind_ok (Disk.orDiscard_ok (adaptExcept_ok (ofExcept_ok rfl)))]
      rfl

end Prepare

section Reviewed

variable {repository : ClipRepository σ} {holds : σ → Clip → Prop} {clip clip' : Clip} {s s' : σ}

-- A write that is refused changes nothing, and one that is not stores its clip.
structure ClipRepository.Swaps (repository : ClipRepository σ) (holds : σ → Clip → Prop) : Prop where
  failed : ∀ revision updated s e s',
    repository.compareAndSwap revision updated s = .error e s' → s' = s
  stored : ∀ revision updated s s',
    repository.compareAndSwap revision updated s = .ok () s' → holds s' updated

theorem store_swaps (h : repository.Swaps holds) (clip : Clip) (asked : Except ReviewError Clip)
    (s : σ) :
    (∃ e, store repository clip asked s = .error e s) ∨
    (∃ updated s', asked = .ok updated ∧ holds s' updated ∧
      store repository clip asked s = .ok updated s') := by
  cases asked with
  | error e => exact .inl ⟨e, rfl⟩
  | ok updated =>
    rcases hswap : repository.compareAndSwap clip.snapshot.revision updated s with ⟨⟨⟩, s'⟩ | ⟨e, s'⟩
    case ok =>
      exact .inr ⟨updated, s', rfl, h.stored _ _ _ _ hswap, bind_ok (adaptExcept_ok hswap)⟩
    case error =>
      have hsame := h.failed _ _ _ _ _ hswap
      rw [hsame] at hswap
      exact .inl ⟨.repository e, bind_error (adaptExcept_error hswap)⟩

-- The repository over the store takes clips without a derivative only.
theorem storageRepository_swaps (now : Int) :
    (storageRepository now).Swaps fun s clip => ∃ id expected db,
      clipNamed clip.snapshot.id = some id ∧ (Commit.mk id expected clip.content).Stores db s.db where
  failed expected updated s e s' h := by
    rcases compareAndSwapDurable_cases s now expected updated with ⟨_, _, _, _, hok⟩ | ⟨_, herror⟩
    case inl => simp [storageRepository, adaptExcept_ok hok] at h
    case inr =>
      simp only [storageRepository, adaptExcept_error herror] at h
      cases h
      rfl
  stored expected updated s s' h := by
    rcases compareAndSwapDurable_cases s now expected updated with
      ⟨id, r, hid, hswap, hok⟩ | ⟨_, herror⟩
    case inl =>
      simp only [storageRepository, adaptExcept_ok hok] at h
      cases h
      exact ⟨id, expected, s.db, hid, Commit.swap_stores hswap⟩
    case inr => simp [storageRepository, adaptExcept_error herror] at h

theorem refused_removes (hremoves : Removes ports.toDiskPorts) (path : FilePath) (e : ReviewError)
    (files : Files) (w : W) :
    ∃ e' w', refused ports path e ⟨files, w⟩ = (e', ⟨update files path none, w'⟩) := by
  have ⟨w', hdiscard⟩ := discard_removes hremoves path files w
  cases e with
  | repository e =>
    rcases Disk.removeFile_cases ports.toDiskPorts path files w with ⟨e', w', h, habsent⟩ | ⟨w', h⟩
    case inl =>
      have hsame : update files path none = files := by rw [← habsent hremoves, update_eq_self]
      exact ⟨.repositoryCleanup e e'.text, w', by simp only [refused, h, hsame]⟩
    case inr => exact ⟨.review (.repository e), w', by simp only [refused, h]⟩
  | trimOutsideSource => exact ⟨.review .trimOutsideSource, w', by simp only [refused, hdiscard]⟩
  | derivativeHasWrongSource =>
    exact ⟨.review .derivativeHasWrongSource, w', by simp only [refused, hdiscard]⟩
  | invalidTransition => exact ⟨.review .invalidTransition, w', by simp only [refused, hdiscard]⟩

-- An error leaves no new file, and the repository as it has been. A success adds the file that the
-- clip in the repository tells of.
structure Prepared (ports : MediaPorts W) (holds : σ → Clip → Prop) (clip : Clip)
    (directory : FilePath) (files files' : Files) (s s' : σ)
    (result : Except DerivativeReviewError Clip) : Prop where
  failed   : ∀ e, result = .error e → Loses files files' ∧ s' = s
  prepared : ∀ clip', result = .ok clip' → holds s' clip' ∧
    ∃ name content derivative, FileName name.toList ∧ files (directory ++ [name]) = none ∧
      files' = update files (directory ++ [name]) (some (.file content)) ∧
      clip'.snapshot.derivative = some derivative ∧
      Derives ports clip (directory ++ [name]) content derivative

theorem Prepared.of_error {directory : FilePath} {files files' : Files} {e : DerivativeReviewError}
    (h : Loses files files') :
    Prepared ports holds clip directory files files' s s (.error e) where
  failed _ _      := ⟨h, rfl⟩
  prepared _ heq  := nomatch heq

theorem prepareDerivativeAndReview_prepared (ports : MediaPorts W) (repository : ClipRepository σ)
    (holds : σ → Clip → Prop) (hremoves : Removes ports.toDiskPorts)
    (hswaps : repository.Swaps holds) (clip : Clip) (request : DerivativeReviewRequest)
    (files : Files) (w : W) (s : σ) :
    let result := prepareDerivativeAndReview ports repository clip request (⟨files, w⟩, s)
    Prepared ports holds clip request.destinationDirectory files result.state.1.files s
      result.state.2 result.toExcept := by
  intro result
  unfold result prepareDerivativeAndReview
  rcases prepareDerivative_cases hremoves clip request files w with
    ⟨e, files', w', hloses, h⟩ | ⟨name, content, derivative, w', hname, hfree, hderives, h⟩ <;>
    simp only [h]
  case inl => exact .of_error hloses
  case inr =>
    rcases store_swaps hswaps clip
      (clip.reviewed (request.metadata.edit derivative) request.reviewedAtMs) s with
      ⟨e, hstore⟩ | ⟨updated, s', hreviewed, hholds, hstore⟩ <;>
      simp only [reviewClip, hstore]
    case inl =>
      have ⟨e', w'', hrefused⟩ := refused_removes hremoves (request.destinationDirectory ++ [name]) e
        (update files (request.destinationDirectory ++ [name]) (some (.file content))) w'
      rw [hrefused, update_idem, ← hfree, update_eq_self]
      exact .of_error .refl
    case inr =>
      have ⟨_, _, heq⟩ := reviewed_eq_ok_iff.mp hreviewed
      constructor
      case failed => exact fun e he => nomatch he
      case prepared =>
        intro clip' hclip'
        cases hclip'
        exact ⟨hholds, name, content, derivative, hname, hfree, rfl, by rw [← heq]; rfl, hderives⟩

def memoryRepository : ClipRepository (List Clip) where
  compareAndSwap _ updated := modify (· ++ [updated])

theorem memoryRepository_swaps : memoryRepository.Swaps fun committed clip => clip ∈ committed where
  failed _ _ _ _ _ h := by cases h
  stored _ _ _ _ h := by
    cases h
    simp

def demoMediaPorts : MediaPorts Unit where
  toDiskPorts   := faultyPorts []
  isCancelled _ := (false, ())
  transcode _ _ := ((.ok (), some [3]), ())
  refuse _      := .timedOut
  probe _ _     := (.ok ⟨500, ⟨none, none, none, none, none⟩, []⟩, ())
  sha256 _      := "5ac6a5945f16500911219129984ba8b387a06f24fe383ce4e81a73294065461b"

def demoPreparation : DerivativeReviewRequest where
  artifactId           := "trim"
  destinationDirectory := ["/", "derivatives"]
  trim                 := some demoTrim.trim
  profile              := .review
  metadata             := ⟨"ace", "", {"b"}, true⟩
  reviewedAtMs         := 7

theorem prepareDerivativeAndReview_prepared_demo :
    let result := prepareDerivativeAndReview demoMediaPorts memoryRepository (demoClip "kill")
      demoPreparation (⟨demoFiles, ()⟩, [])
    Prepared demoMediaPorts (fun committed clip => clip ∈ committed) (demoClip "kill")
      ["/", "derivatives"] demoFiles result.state.1.files [] result.state.2 result.toExcept :=
  prepareDerivativeAndReview_prepared demoMediaPorts memoryRepository _ (fun _ => rfl)
    memoryRepository_swaps _ demoPreparation demoFiles () []

end Reviewed

end Clips
