import OpenFrag.Live.Durable
import OpenFrag.Live.Theorems.Adapter
import OpenFrag.Storage.Theorems.Retained

open EStateM
open Domain (CaptureWindow HighlightCandidate)
open Gsi (EvidenceReceipt)
open Storage (CaptureSessionId Database Retains LiveCandidateId ManualFlagId SaveAttemptId Statement
  hasAttempt)

namespace Live

variable {W α : Type} {env : Environment W}

-- Rows stay where they are.
section Rows

variable {db db' : Database} {session : CaptureSessionId} {candidate : LiveCandidateId}
variable {attempt : SaveAttemptId} {flag : ManualFlagId}

theorem ReceiptMetadata.IsIn.retained {metadata : ReceiptMetadata} (h : metadata.IsIn db session)
    (hretains : Retains db db') : metadata.IsIn db' session := by
  obtain ⟨row, hrow, hcolumns⟩ := h
  exact ⟨row, hretains.gsiSnapshots hrow, hcolumns⟩

theorem ReceiptMetadata.Triggers.retained {metadata : ReceiptMetadata}
    (h : metadata.Triggers db candidate) (hretains : Retains db db') :
    metadata.Triggers db' candidate := by
  obtain ⟨row, hrow, hcolumns⟩ := h
  exact ⟨row, hretains.candidateTriggers hrow, hcolumns⟩

theorem CandidateMetadata.IsIn.retained {metadata : CandidateMetadata} {roundId : String}
    (h : metadata.IsIn db session roundId) (hretains : Retains db db') :
    metadata.IsIn db' session roundId := by
  obtain ⟨row, hrow, hcolumns⟩ := h
  exact ⟨row, hretains.liveCandidates hrow, hcolumns⟩

theorem SaveAttemptMetadata.IsIn.retained {metadata : SaveAttemptMetadata} (h : metadata.IsIn db)
    (hretains : Retains db db') : metadata.IsIn db' := by
  obtain ⟨row, hrow, hid, hfailed⟩ := h
  obtain ⟨row', hrow', hcontinues⟩ := hretains.recorderSaveAttempts row hrow
  exact ⟨row', hrow', hcontinues.id.trans hid, hcontinues.ended ∘ hfailed⟩

theorem SaveAttemptMetadata.IsIn.hasAttempt {metadata : SaveAttemptMetadata}
    (h : metadata.IsIn db) : hasAttempt db metadata.id := by
  obtain ⟨row, hrow, hid, -⟩ := h
  simpa [Storage.hasAttempt] using ⟨row, hrow, hid⟩

theorem IsFlag.retained (h : IsFlag db session flag) (hretains : Retains db db') :
    IsFlag db' session flag := by
  obtain ⟨row, hrow, hcolumns⟩ := h
  exact ⟨row, hretains.manualFlags hrow, hcolumns⟩

theorem IsJoined.retained (h : IsJoined db candidate attempt) (hretains : Retains db db') :
    IsJoined db' candidate attempt := by
  obtain ⟨row, hrow, hcolumns⟩ := h
  exact ⟨row, hretains.candidateSaves hrow, hcolumns⟩

theorem IsFlagJoined.retained (h : IsFlagJoined db flag attempt) (hretains : Retains db db') :
    IsFlagJoined db' flag attempt := by
  obtain ⟨row, hrow, hcolumns⟩ := h
  exact ⟨row, hretains.manualFlagSaves hrow, hcolumns⟩

end Rows

-- Nothing of what the store knows is lost.
structure Extends (s s' : StorageEvidenceStore) : Prop where
  session     : s'.session = s.session
  storage     : Retains s.storage s'.storage
  receipts    : ∀ id metadata, s.receipts.get? id = some metadata →
    s'.receipts.get? id = some metadata
  candidates  : ∀ roundId metadata, s.candidates.get? roundId = some metadata →
    ∃ metadata', s'.candidates.get? roundId = some metadata' ∧ metadata'.id = metadata.id
  manualFlags : ∀ captureId flag, s.manualFlags.get? captureId = some flag →
    s'.manualFlags.get? captureId = some flag

section Extends

variable {s s' s'' : StorageEvidenceStore} {candidate : LiveCandidateId} {id : String}

theorem Extends.refl (s : StorageEvidenceStore) : Extends s s where
  session     := rfl
  storage     := .refl _
  receipts    := fun _ _ h => h
  candidates  := fun _ metadata h => ⟨metadata, h, rfl⟩
  manualFlags := fun _ _ h => h

theorem Extends.trans (h : Extends s s') (h' : Extends s' s'') : Extends s s'' where
  session     := h'.session.trans h.session
  storage     := h.storage.trans h'.storage
  receipts    := fun id metadata hmetadata => h'.receipts id metadata (h.receipts id metadata hmetadata)
  candidates  := by
    intro roundId metadata hmetadata
    obtain ⟨metadata', hmetadata', hid⟩ := h.candidates roundId metadata hmetadata
    obtain ⟨metadata'', hmetadata'', hid'⟩ := h'.candidates roundId metadata' hmetadata'
    exact ⟨metadata'', hmetadata'', hid'.trans hid⟩
  manualFlags := fun id flag hflag => h'.manualFlags id flag (h.manualFlags id flag hflag)

theorem Extends.write {db : Database} (h : Retains s.storage db) :
    Extends s { s with storage := db } :=
  { Extends.refl s with storage := h }

theorem Extends.setReceipt {metadata : ReceiptMetadata} (h : s.receipts.get? id = none) :
    Extends s { s with receipts := s.receipts.insert id metadata } where
  session     := rfl
  storage     := .refl _
  receipts    := by
    intro id' metadata' hmetadata'
    have hne : id' ≠ id := by
      rintro rfl
      rw [h] at hmetadata'
      cases hmetadata'
    exact (HashMap.get?_insert_of_ne hne).trans hmetadata'
  candidates  := (Extends.refl s).candidates
  manualFlags := (Extends.refl s).manualFlags

theorem Extends.setCandidate {roundId : String} {metadata : CandidateMetadata}
    (h : ∀ metadata', s.candidates.get? roundId = some metadata' → metadata.id = metadata'.id) :
    Extends s { s with candidates := s.candidates.insert roundId metadata } where
  session     := rfl
  storage     := .refl _
  receipts    := (Extends.refl s).receipts
  candidates  := by
    intro roundId' metadata' hmetadata'
    by_cases hround : roundId' = roundId
    case pos =>
      subst hround
      exact ⟨metadata, HashMap.get?_insert_self, h metadata' hmetadata'⟩
    case neg => exact ⟨metadata', (HashMap.get?_insert_of_ne hround).trans hmetadata', rfl⟩
  manualFlags := (Extends.refl s).manualFlags

theorem Extends.setFlag {flag : ManualFlagId} (h : s.manualFlags.get? id = none) :
    Extends s { s with manualFlags := s.manualFlags.insert id flag } where
  session     := rfl
  storage     := .refl _
  receipts    := (Extends.refl s).receipts
  candidates  := (Extends.refl s).candidates
  manualFlags := by
    intro id' flag' hflag'
    have hne : id' ≠ id := by
      rintro rfl
      rw [h] at hflag'
      cases hflag'
    exact (HashMap.get?_insert_of_ne hne).trans hflag'

theorem Added.extend (h : Added s candidate id) (hextends : Extends s s') :
    Added s' candidate id := by
  obtain ⟨metadata, hmetadata, htriggers⟩ := h
  exact ⟨metadata, hextends.receipts id metadata hmetadata, htriggers.retained hextends.storage⟩

theorem CandidateMetadata.Backed.extend {metadata : CandidateMetadata} {roundId : String}
    (h : metadata.Backed s roundId) (hextends : Extends s s') : metadata.Backed s' roundId where
  row      := hextends.session ▸ h.row.retained hextends.storage
  roundId  := h.roundId
  complete := h.complete
  added    := fun id hid => (h.added id hid).extend hextends

end Extends

namespace Backed

variable {s : StorageEvidenceStore} {id : String}

theorem write (h : Backed s) {db : Database} (hretains : Retains s.storage db) :
    Backed { s with storage := db } where
  session      := hretains.hasSession h.session
  receipts     := fun id metadata hmetadata => (h.receipts id metadata hmetadata).retained hretains
  snapshots    := h.snapshots
  candidates   := fun roundId metadata hmetadata =>
    (h.candidates roundId metadata hmetadata).extend (.write hretains)
  rounds       := h.rounds
  saveAttempts := fun id metadata hmetadata => (h.saveAttempts id metadata hmetadata).retained hretains
  manualFlags  := fun id flag hflag => (h.manualFlags id flag hflag).retained hretains
  flagged      := h.flagged
  joins        := fun join hjoin => (h.joins join hjoin).retained hretains

-- A new receipt has a snapshot and a number of its own.
theorem setReceipt (h : Backed s) {metadata : ReceiptMetadata} (hnone : s.receipts.get? id = none)
    (hrow : metadata.IsIn s.storage s.session)
    (hnew : ∀ id' metadata', s.receipts.get? id' = some metadata' →
      metadata'.snapshotSha256 ≠ metadata.snapshotSha256 ∧ metadata'.sequence ≠ metadata.sequence) :
    Backed { s with receipts := s.receipts.insert id metadata } where
  session      := h.session
  receipts     := by
    intro id' metadata' hmetadata'
    cases HashMap.get?_insert_cases hmetadata'
    case inl heq => exact heq.2 ▸ hrow
    case inr hold => exact h.receipts id' metadata' hold.2
  snapshots    := by
    intro id₁ id₂ metadata₁ metadata₂ h₁ h₂ hsame
    cases HashMap.get?_insert_cases h₁
    case inl heq₁ =>
      cases HashMap.get?_insert_cases h₂
      case inl heq₂ => exact heq₁.1.trans heq₂.1.symm
      case inr hold₂ =>
        obtain ⟨hsha256, hsequence⟩ := hnew id₂ metadata₂ hold₂.2
        rw [heq₁.2] at hsame
        exact (hsame.elim (hsha256 ∘ Eq.symm) (hsequence ∘ Eq.symm)).elim
    case inr hold₁ =>
      cases HashMap.get?_insert_cases h₂
      case inl heq₂ =>
        obtain ⟨hsha256, hsequence⟩ := hnew id₁ metadata₁ hold₁.2
        rw [heq₂.2] at hsame
        exact (hsame.elim hsha256 hsequence).elim
      case inr hold₂ => exact h.snapshots id₁ id₂ metadata₁ metadata₂ hold₁.2 hold₂.2 hsame
  candidates   := fun roundId metadata' hmetadata' =>
    (h.candidates roundId metadata' hmetadata').extend (.setReceipt hnone)
  rounds       := h.rounds
  saveAttempts := h.saveAttempts
  manualFlags  := h.manualFlags
  flagged      := h.flagged
  joins        := h.joins

-- A candidate is entered, or entered again, for the one round that has its row.
theorem setCandidate (h : Backed s) {roundId : String} {metadata : CandidateMetadata}
    (hbacked : metadata.Backed s roundId)
    (hsame : ∀ metadata', s.candidates.get? roundId = some metadata' → metadata.id = metadata'.id)
    (hround : ∀ roundId' metadata', s.candidates.get? roundId' = some metadata' →
      metadata'.id = metadata.id → roundId' = roundId) :
    Backed { s with candidates := s.candidates.insert roundId metadata } where
  session      := h.session
  receipts     := h.receipts
  snapshots    := h.snapshots
  candidates   := by
    intro roundId' metadata' hmetadata'
    cases HashMap.get?_insert_cases hmetadata'
    case inl heq =>
      obtain ⟨rfl, rfl⟩ := heq
      exact hbacked.extend (.setCandidate hsame)
    case inr hold => exact (h.candidates roundId' metadata' hold.2).extend (.setCandidate hsame)
  rounds       := by
    intro roundId₁ roundId₂ metadata₁ metadata₂ h₁ h₂ hid
    cases HashMap.get?_insert_cases h₁
    case inl heq₁ =>
      cases HashMap.get?_insert_cases h₂
      case inl heq₂ => exact heq₁.1.trans heq₂.1.symm
      case inr hold₂ =>
        rw [heq₁.2] at hid
        exact heq₁.1.trans (hround roundId₂ metadata₂ hold₂.2 hid.symm).symm
    case inr hold₁ =>
      cases HashMap.get?_insert_cases h₂
      case inl heq₂ =>
        rw [heq₂.2] at hid
        exact (hround roundId₁ metadata₁ hold₁.2 hid).trans heq₂.1.symm
      case inr hold₂ => exact h.rounds roundId₁ roundId₂ metadata₁ metadata₂ hold₁.2 hold₂.2 hid
  saveAttempts := h.saveAttempts
  manualFlags  := h.manualFlags
  flagged      := h.flagged
  joins        := h.joins

theorem setAttempt (h : Backed s) {metadata : SaveAttemptMetadata} (hrow : metadata.IsIn s.storage) :
    Backed { s with saveAttempts := s.saveAttempts.insert id metadata } :=
  { h with
    candidates   := fun roundId metadata hmetadata =>
      (h.candidates roundId metadata hmetadata).extend { Extends.refl s with }
    saveAttempts := by
      intro id' metadata' hmetadata'
      cases HashMap.get?_insert_cases hmetadata'
      case inl heq => exact heq.2 ▸ hrow
      case inr hold => exact h.saveAttempts id' metadata' hold.2 }

theorem setFlag (h : Backed s) {flag : ManualFlagId} (hnone : s.manualFlags.get? id = none)
    (hrow : IsFlag s.storage s.session flag)
    (hnew : ∀ id' flag', s.manualFlags.get? id' = some flag' → flag' ≠ flag) :
    Backed { s with manualFlags := s.manualFlags.insert id flag } :=
  { h with
    candidates   := fun roundId metadata hmetadata =>
      (h.candidates roundId metadata hmetadata).extend (.setFlag hnone)
    manualFlags := by
      intro id' flag' hflag'
      cases HashMap.get?_insert_cases hflag'
      case inl heq => exact heq.2 ▸ hrow
      case inr hold => exact h.manualFlags id' flag' hold.2
    flagged     := by
      intro id₁ id₂ flag' h₁ h₂
      cases HashMap.get?_insert_cases h₁
      case inl heq₁ =>
        cases HashMap.get?_insert_cases h₂
        case inl heq₂ => exact heq₁.1.trans heq₂.1.symm
        case inr hold₂ => exact absurd heq₁.2 (hnew id₂ flag' hold₂.2)
      case inr hold₁ =>
        cases HashMap.get?_insert_cases h₂
        case inl heq₂ => exact absurd heq₂.2 (hnew id₁ flag' hold₁.2)
        case inr hold₂ => exact h.flagged id₁ id₂ flag' hold₁.2 hold₂.2 }

theorem addJoin (h : Backed s) {join : LiveCandidateId × SaveAttemptId}
    (hrow : IsJoined s.storage join.1 join.2) :
    Backed { s with candidateJoins := join :: s.candidateJoins } :=
  { h with
    candidates := fun roundId metadata hmetadata =>
      (h.candidates roundId metadata hmetadata).extend { Extends.refl s with }
    joins      := fun _ hjoin => by
      cases hjoin
      case head => exact hrow
      case tail hjoin => exact h.joins _ hjoin }

end Backed

-- A store that is backed goes on to be so, and loses nothing.
def Advances (s s' : StorageEvidenceStore) : Prop :=
  Backed s → Extends s s' ∧ Backed s'

abbrev Advancing (b b' : Backend W) : Prop :=
  Advances b.store b'.store

instance advancing_refl : Std.Refl (Advancing (W := W)) where
  refl b h := ⟨.refl b.store, h⟩

instance advancing_trans : IsTrans (Backend W) Advancing where
  trans _ _ _ h h' hbacked :=
    have hfirst := h hbacked
    have hsecond := h' hfirst.2
    ⟨hfirst.1.trans hsecond.1, hsecond.2⟩

-- Only rows are written.
structure Writing (b b' : Backend W) : Prop where
  caches  : b'.store = { b.store with storage := b'.store.storage }
  storage : Retains b.store.storage b'.store.storage

namespace Writing

variable {b b' : Backend W}

theorem trans {b'' : Backend W} (h : Writing b b') (h' : Writing b' b'') : Writing b b'' where
  caches  := by rw [h'.caches, h.caches]
  storage := h.storage.trans h'.storage

instance writing_refl : Std.Refl (Writing (W := W)) where
  refl _ := ⟨rfl, .refl _⟩

instance writing_trans : IsTrans (Backend W) Writing where
  trans _ _ _ h h' := h.trans h'

theorem session (h : Writing b b') : b'.store.session = b.store.session := by
  rw [h.caches]

theorem receipts (h : Writing b b') : b'.store.receipts = b.store.receipts := by
  rw [h.caches]

theorem candidates (h : Writing b b') : b'.store.candidates = b.store.candidates := by
  rw [h.caches]

theorem manualFlags (h : Writing b b') : b'.store.manualFlags = b.store.manualFlags := by
  rw [h.caches]

theorem extended (h : Writing b b') : Extends b.store b'.store :=
  h.caches ▸ .write h.storage

theorem advancing (h : Writing b b') : Advancing b b' := by
  intro hbacked
  exact ⟨h.extended, h.caches ▸ hbacked.write h.storage⟩

theorem within {x : Adapter W α} (hx : Within Writing x) : Within Advancing x :=
  hx.mono fun _ _ => advancing

-- The rest of a method may rely on what has been there before, and on what has been written.
theorem bind {β : Type} {x : Adapter W α} {f : α → Adapter W β} (hx : Within Writing x)
    (hf : ∀ a b', x b = .ok a b' → Writing b b' → Backed b.store → Advancing b' (f a b').state) :
    Advancing b ((x >>= f) b).state := by
  intro hbacked
  refine Within.bind_at (R := Advancing) (hx b).advancing (fun a b' h => ?_) hbacked
  exact hf a b' h (hx.ok h) hbacked

theorem store : Within Writing (StorageAdapter.store (W := W)) :=
  fun _ => ⟨rfl, .refl _⟩

theorem checked (result : Except LiveDiagnostic α) :
    Within Writing (StorageAdapter.checked (W := W) result) := by
  intro b
  cases result <;> exact ⟨rfl, .refl _⟩

theorem reading (f : W → α × W) : Within Writing (StorageAdapter.reading f) :=
  fun _ => ⟨rfl, .refl _⟩

theorem io (what : String) (f : W → Except String α × W) :
    Within Writing (StorageAdapter.io what f) := by
  intro b
  unfold StorageAdapter.io
  split <;> exact ⟨rfl, .refl _⟩

theorem guarded (operation : Operation) (wrap : String → LiveDiagnostic) :
    Within Writing (StorageAdapter.guarded env operation wrap) := by
  intro b
  unfold StorageAdapter.guarded
  split <;> exact ⟨rfl, .refl _⟩

theorem execute {operation : Operation} {op : Statement α}
    (h : ∀ db r, op db = .ok r → Retains db r.2) :
    Within Writing (StorageAdapter.execute env operation op) := by
  refine Within.bind (guarded _ _) fun _ b => ?_
  unfold StorageAdapter.statement
  split
  case h_1 a storage hop => exact ⟨rfl, h _ _ hop⟩
  case h_2 => exact ⟨rfl, .refl _⟩

end Writing

open StorageAdapter

-- A change of what the store knows, on which the later steps build.
theorem modifyStore_advancing {b : Backend W} {f : StorageEvidenceStore → StorageEvidenceStore}
    (h : Advances b.store (f b.store)) : Advancing b (modifyStore f b).state :=
  h

section Receipts

variable {b b' : Backend W}

-- A snapshot that has been recorded is one of its own.
theorem recordGsiSnapshot_isIn (metadata : ReceiptMetadata) {session : CaptureSessionId}
    {receivedAtMs : Int} {fields version : String} {db : Database} {r : Unit × Database}
    (h : Storage.recordGsiSnapshot session metadata.snapshotSha256 metadata.sequence receivedAtMs
      fields version db = .ok r) :
    metadata.IsIn r.2 session ∧ ∀ metadata' : ReceiptMetadata, metadata'.IsIn db session →
      metadata'.snapshotSha256 ≠ metadata.snapshotSha256 ∧
        metadata'.sequence ≠ metadata.sequence := by
  obtain ⟨artifact, -, hsnapshot, hordinal, -, rfl⟩ := Storage.recordGsiSnapshot_eq_ok_iff.mp h
  refine ⟨⟨_, List.mem_cons_self, rfl, rfl, rfl⟩, fun metadata' hrow => ?_⟩
  obtain ⟨row, hrow, hsha256, hsession, hsequence⟩ := hrow
  simp only [Storage.hasSnapshot, List.any_eq_true, decide_eq_true_eq, not_exists, not_and,
    Bool.and_eq_true] at hsnapshot hordinal
  constructor
  case left => exact fun heq => hsnapshot row hrow (hsha256.trans heq)
  case right => exact fun heq => hordinal row hrow hsession (hsequence.trans heq)

theorem persistReceipt_advancing (receipt : EvidenceReceipt) :
    Within Advancing (persistReceipt env receipt) := by
  intro b
  unfold persistReceipt
  rw [bind_ok store_apply]
  by_cases hknown : b.store.receipts.containsKey (receiptId receipt)
  case pos =>
    rw [if_neg (by simp [hknown])]
    exact Within.pure b
  case neg =>
    rw [if_pos (by simp [hknown])]
    refine Writing.bind (Writing.guarded _ _) fun _ b₁ _ h₁ _ => ?_
    refine Writing.bind (Writing.reading _) fun now b₂ _ h₂ _ => ?_
    refine Writing.bind (Writing.execute fun _ _ => Retains.commitArtifact) fun sha256 b₃ _ h₃ _ => ?_
    refine Writing.bind (Writing.checked _) fun sequence b₄ _ h₄ _ => ?_
    refine Writing.bind (Writing.checked _) fun receivedAtMs b₅ _ h₅ _ => ?_
    have hwritten := (((h₁.trans h₂).trans h₃).trans h₄).trans h₅
    refine Writing.bind (Writing.execute fun _ _ => Retains.recordGsiSnapshot)
      fun _ b₆ hrecorded h₆ hbacked => ?_
    refine Writing.bind (Writing.checked _) fun receivedAtNs b₇ hchecked _ _ => ?_
    obtain ⟨-, rfl⟩ := checked_ok_iff.mp hchecked
    obtain ⟨storage, w, hsnapshot, rfl⟩ := execute_ok hrecorded
    have hnone : b₅.store.receipts.get? (receiptId receipt) = none := by
      rw [hwritten.receipts]
      simpa [HashMap.containsKey] using hknown
    rw [← hwritten.session] at hsnapshot
    obtain ⟨hrow, hnew⟩ := recordGsiSnapshot_isIn
      ⟨sha256, sequence, receivedAtNs, receiptTrigger receipt⟩ hsnapshot
    apply modifyStore_advancing
    intro hbacked'
    exact ⟨.setReceipt hnone, hbacked'.setReceipt hnone hrow fun id metadata hmetadata =>
      hnew metadata (hbacked.receipts id metadata hmetadata)⟩

theorem persistReceipt_ok {receipt : EvidenceReceipt} {u : Unit}
    (h : persistReceipt env receipt b = .ok u b') :
    ∃ metadata, b'.store.receipts.get? (receiptId receipt) = some metadata := by
  unfold persistReceipt at h
  rw [bind_ok store_apply] at h
  by_cases hknown : b.store.receipts.containsKey (receiptId receipt)
  case pos =>
    rw [if_neg (by simp [hknown])] at h
    cases h
    exact Option.isSome_iff_exists.mp hknown
  case neg =>
    rw [if_pos (by simp [hknown])] at h
    simp only [bind_ok_iff] at h
    obtain ⟨_, _, -, _, _, -, _, _, -, _, _, -, _, _, -, _, _, -, _, _, -, h⟩ := h
    cases h
    exact ⟨_, HashMap.get?_insert_self⟩

end Receipts

section Candidates

variable {b b' : Backend W} {id : LiveCandidateId} {receiptId : String}

theorem addTrigger_writing (id : LiveCandidateId) (receiptId : String) :
    Within Writing (addTrigger env id receiptId) := by
  refine Within.bind (Within.bind Writing.store fun _ => Writing.checked _) fun receipt => ?_
  refine Within.bind (Writing.checked _) fun trigger => ?_
  exact Writing.execute fun _ _ => Retains.addCandidateTrigger

theorem addTrigger_ok {u : Unit} (h : addTrigger env id receiptId b = .ok u b') :
    Added b'.store id receiptId := by
  unfold addTrigger hydrated at h
  rw [bind_ok_iff] at h
  obtain ⟨receipt, b₁, hhydrated, h⟩ := h
  rw [bind_ok store_apply, checked_ok_iff, required_eq_ok_iff] at hhydrated
  obtain ⟨hreceipt, rfl⟩ := hhydrated
  rw [bind_ok_iff] at h
  obtain ⟨trigger, b₂, hchecked, h⟩ := h
  obtain ⟨-, rfl⟩ := checked_ok_iff.mp hchecked
  obtain ⟨storage, w, hadded, rfl⟩ := execute_ok h
  obtain ⟨-, -, -, heq⟩ := Storage.addCandidateTrigger_eq_ok_iff.mp hadded
  cases heq
  exact ⟨receipt, hreceipt, _, List.mem_cons_self, rfl, rfl, rfl⟩

-- What is persisted of the receipts of a candidate when one of them, or all, are gone through.
structure Persists (id : LiveCandidateId) (receiptIds persisted persisted' : List String)
    (s : StorageEvidenceStore) : Prop where
  kept  : persisted ⊆ persisted'
  given : receiptIds ⊆ persisted'
  added : ∀ receiptId ∈ persisted', receiptId ∈ persisted ∨ Added s id receiptId

theorem foldlM_persists {f : List String → String → Adapter W (List String)}
    (hf : ∀ persisted receiptId, Within Writing (f persisted receiptId))
    (hok : ∀ persisted receiptId b persisted' b', f persisted receiptId b = .ok persisted' b' →
      Persists id [receiptId] persisted persisted' b'.store)
    {receiptIds persisted persisted' : List String}
    (h : receiptIds.foldlM f persisted b = .ok persisted' b') :
    Persists id receiptIds persisted persisted' b'.store := by
  induction receiptIds generalizing persisted b
  case nil =>
    cases h
    exact ⟨List.Subset.refl _, List.nil_subset _, fun _ => .inl⟩
  case cons receiptId receiptIds ih =>
    rw [List.foldlM_cons, bind_ok_iff] at h
    obtain ⟨persisted₁, b₁, hfirst, h⟩ := h
    have hrest : Writing b₁ b' := (Within.foldlM hf receiptIds persisted₁).ok h
    have hpersists := ih h
    have hpersists₁ := hok _ _ _ _ _ hfirst
    constructor
    case kept => exact List.Subset.trans hpersists₁.kept hpersists.kept
    case given =>
      rw [List.cons_subset]
      exact ⟨hpersists.kept (hpersists₁.given List.mem_cons_self), hpersists.given⟩
    case added =>
      intro receiptId' hreceipt
      cases hpersists.added receiptId' hreceipt
      case inl hearlier =>
        exact (hpersists₁.added receiptId' hearlier).imp_right (·.extend hrest.extended)
      case inr hadded => exact .inr hadded

theorem addMissingTrigger_writing (env : Environment W) (id : LiveCandidateId)
    (persisted : List String) (receiptId : String) :
    Within Writing (addMissingTrigger env id persisted receiptId) := by
  refine Within.ite (fun _ => Within.pure) fun _ => ?_
  exact Within.bind (addTrigger_writing _ _) fun _ => Within.pure

theorem addMissingTrigger_ok {persisted persisted' : List String}
    (h : addMissingTrigger env id persisted receiptId b = .ok persisted' b') :
    Persists id [receiptId] persisted persisted' b'.store := by
  unfold addMissingTrigger at h
  by_cases hknown : persisted.contains receiptId
  case pos =>
    rw [if_pos hknown] at h
    cases h
    exact ⟨List.Subset.refl _, by simpa using hknown, fun _ => .inl⟩
  case neg =>
    rw [if_neg hknown, bind_ok_iff] at h
    obtain ⟨_, b₁, hadded, h⟩ := h
    cases h
    refine ⟨List.subset_cons_self _ _, by simp, fun receiptId' hreceipt => ?_⟩
    cases hreceipt
    case head => exact .inr (addTrigger_ok hadded)
    case tail hreceipt => exact .inl hreceipt

theorem addFirstTrigger_writing (env : Environment W) (id : LiveCandidateId)
    (persisted : List String) (receiptId : String) :
    Within Writing (addFirstTrigger env id persisted receiptId) :=
  Within.bind (addTrigger_writing _ _) fun _ => Within.pure

theorem addFirstTrigger_ok {persisted persisted' : List String}
    (h : addFirstTrigger env id persisted receiptId b = .ok persisted' b') :
    Persists id [receiptId] persisted persisted' b'.store := by
  unfold addFirstTrigger at h
  rw [bind_ok_iff] at h
  obtain ⟨_, b₁, hadded, h⟩ := h
  cases h
  refine ⟨List.subset_cons_self _ _, by simp, fun receiptId' hreceipt => ?_⟩
  cases hreceipt
  case head => exact .inr (addTrigger_ok hadded)
  case tail hreceipt => exact .inl hreceipt

-- A candidate that has been created has a row of its own.
theorem createCandidate_isIn (metadata : CandidateMetadata) {session : CaptureSessionId}
    {ruleVersion kind roundId map : String} {round firstNs lastNs startNs endNs : Int} {db : Database}
    {r : LiveCandidateId × Database} (hround : parseRoundId roundId = .ok (map, round))
    (hid : metadata.id = r.1)
    (h : Storage.createCandidate session ruleVersion kind (some map) (some round) firstNs lastNs
      startNs endNs db = .ok r) :
    metadata.IsIn r.2 session roundId ∧ ∀ (roundId' : String) (metadata' : CandidateMetadata),
      metadata'.IsIn db session roundId' → metadata'.id ≠ metadata.id := by
  obtain ⟨-, -, -, -, rfl⟩ := Storage.createCandidate_eq_ok_iff.mp h
  constructor
  case left => exact ⟨_, List.mem_cons_self, hid.symm, rfl, map, round, hround, rfl, rfl⟩
  case right =>
    intro roundId' metadata' hrow heq
    obtain ⟨row, hrow, hrowId, -⟩ := hrow
    apply Table.fresh_notMem (db.liveCandidates.map (·.id))
    have hid : row.id = Table.fresh (db.liveCandidates.map (·.id)) := hrowId.trans (heq.trans hid)
    exact hid ▸ List.mem_map_of_mem hrow

theorem updateCandidate_advancing {existing : CandidateMetadata} {record : CandidateRecord}
    (h : b.store.candidates.get? record.candidate.roundId = some existing) :
    Advancing b (updateCandidate env existing record b).state := by
  unfold updateCandidate
  have hwriting := addMissingTrigger_writing env existing.id
  refine Writing.bind (Within.foldlM hwriting _ _) fun persisted b₁ hfold h₁ hbacked => ?_
  apply Within.bind_at (R := Advancing)
  case hf => exact fun _ _ _ => Within.pure _
  case hx =>
    apply modifyStore_advancing
    intro hbacked₁
    have hpersists := foldlM_persists hwriting (fun _ _ _ _ _ => addMissingTrigger_ok) hfold
    have hexisting := h₁.candidates ▸ h
    have hsame : ∀ metadata, b₁.store.candidates.get? record.candidate.roundId = some metadata →
        existing.id = metadata.id := by
      intro metadata hmetadata
      rw [hexisting] at hmetadata
      cases hmetadata
      rfl
    have hold := hbacked₁.candidates _ _ hexisting
    refine ⟨.setCandidate hsame, hbacked₁.setCandidate ⟨hold.row, rfl, hpersists.given, ?_⟩ hsame ?_⟩
    · intro receiptId hreceipt
      exact (hpersists.added receiptId hreceipt).elim (hold.added receiptId) id
    · intro roundId metadata hmetadata hid
      exact hbacked₁.rounds _ _ _ _ hmetadata hexisting hid

theorem insertCandidate_advancing {record : CandidateRecord}
    (h : b.store.candidates.get? record.candidate.roundId = none) :
    Advancing b (insertCandidate env record b).state := by
  unfold insertCandidate
  refine Writing.bind (Writing.checked _) fun first b₁ _ h₁ _ => ?_
  refine Writing.bind (Within.bind Writing.store fun _ => Writing.checked _)
    fun receipt b₂ _ h₂ _ => ?_
  refine Writing.bind (Writing.checked _) fun trigger b₃ _ h₃ _ => ?_
  refine Writing.bind (Writing.checked _) fun identity b₄ hidentity h₄ _ => ?_
  obtain ⟨map, round⟩ := identity
  refine Writing.bind (Writing.checked _) fun startNs b₅ _ h₅ _ => ?_
  refine Writing.bind (Writing.checked _) fun endNs b₆ _ h₆ _ => ?_
  refine Writing.bind Writing.store fun s b₇ hstore h₇ _ => ?_
  obtain ⟨rfl, rfl⟩ := pure_ok_iff.mp hstore
  have hwritten := (((((h₁.trans h₂).trans h₃).trans h₄).trans h₅).trans h₆).trans h₇
  refine Writing.bind (Writing.execute fun _ _ => Retains.createCandidate)
    fun id b₈ hcreated h₈ hbacked => ?_
  have hwriting := addFirstTrigger_writing env id
  refine Writing.bind (Within.foldlM hwriting _ _) fun persisted b₉ hfold h₉ _ => ?_
  apply Within.bind_at (R := Advancing)
  case hf => exact fun _ _ _ => Within.pure _
  case hx =>
    apply modifyStore_advancing
    intro hbacked₉
    have hpersists := foldlM_persists hwriting (fun _ _ _ _ _ => addFirstTrigger_ok) hfold
    have hcaches := (h₈.trans h₉).candidates
    have hnone := (hcaches.trans hwritten.candidates) ▸ h
    obtain ⟨hparsed, -⟩ := checked_ok_iff.mp hidentity
    obtain ⟨storage, w, hinserted, rfl⟩ := execute_ok hcreated
    let metadata : CandidateMetadata := { id, record, triggerReceipts := persisted }
    obtain ⟨hrow, hnew⟩ := createCandidate_isIn metadata hparsed rfl hinserted
    have hsame : ∀ metadata', b₉.store.candidates.get? record.candidate.roundId = some metadata' →
        id = metadata'.id := by
      intro metadata' hmetadata'
      rw [hnone] at hmetadata'
      cases hmetadata'
    refine ⟨.setCandidate hsame, hbacked₉.setCandidate ⟨?_, rfl, hpersists.given, ?_⟩ hsame ?_⟩
    · rw [(h₈.trans h₉).session]
      exact hrow.retained h₉.storage
    · intro receiptId hreceipt
      exact (hpersists.added receiptId hreceipt).elim (by simp) fun h => h
    · intro roundId metadata' hmetadata' hid
      rw [hcaches] at hmetadata'
      exact absurd hid (hnew roundId metadata' (hbacked.candidates roundId metadata' hmetadata').row)

theorem persistCandidate_advancing (record : CandidateRecord) :
    Within Advancing (persistCandidate env record) := by
  intro b
  unfold persistCandidate
  rw [bind_ok store_apply]
  split
  case isTrue => exact Within.throw b
  case isFalse =>
    split
    case isTrue => exact Within.throw b
    case isFalse =>
      cases hexisting : b.store.candidates.get? record.candidate.roundId
      case none => exact insertCandidate_advancing hexisting
      case some existing => exact updateCandidate_advancing hexisting

-- The candidate that has been persisted is the one that is remembered for its round.
theorem persistCandidate_ok {record : CandidateRecord}
    (h : persistCandidate env record b = .ok id b') : ∃ metadata,
      b'.store.candidates.get? record.candidate.roundId = some metadata ∧ metadata.id = id ∧
        metadata.record = record := by
  unfold persistCandidate at h
  rw [bind_ok store_apply] at h
  split at h
  case isTrue => cases h
  case isFalse =>
    split at h
    case isTrue => cases h
    case isFalse =>
      cases hexisting : b.store.candidates.get? record.candidate.roundId
      case some existing =>
        simp only [hexisting] at h
        unfold updateCandidate at h
        simp only [bind_ok_iff] at h
        obtain ⟨persisted, b₁, -, _, b₂, hmodified, h⟩ := h
        obtain ⟨rfl, rfl⟩ := pure_ok_iff.mp h
        cases hmodified
        exact ⟨_, HashMap.get?_insert_self, rfl, rfl⟩
      case none =>
        simp only [hexisting] at h
        unfold insertCandidate at h
        simp only [bind_ok_iff] at h
        obtain ⟨_, _, -, _, _, -, _, _, -, _, _, -, _, _, -, _, _, -, _, _, -, id', _, -, persisted, b₁, -, _,
          b₂, hmodified, h⟩ := h
        obtain ⟨rfl, rfl⟩ := pure_ok_iff.mp h
        cases hmodified
        exact ⟨_, HashMap.get?_insert_self, rfl, rfl⟩

theorem IsProposed.extend {s s' : StorageEvidenceStore} {candidate : HighlightCandidate}
    (h : IsProposed s candidate) (hextends : Extends s s') : IsProposed s' candidate := by
  obtain ⟨metadata, hmetadata, ⟨row, hrow, hrowId, hsession, hround⟩, hadded⟩ := h
  obtain ⟨metadata', hmetadata', hid⟩ := hextends.candidates _ metadata hmetadata
  refine ⟨metadata', hmetadata', ⟨row, hextends.storage.liveCandidates hrow, hrowId.trans hid.symm,
    hsession.trans hextends.session.symm, hround⟩, fun receiptId hreceipt => ?_⟩
  exact hid ▸ (hadded receiptId hreceipt).extend hextends

theorem IsProposed.of_backed {s : StorageEvidenceStore} {metadata : CandidateMetadata}
    (h : Backed s)
    (hmetadata : s.candidates.get? metadata.record.candidate.roundId = some metadata) :
    IsProposed s metadata.record.candidate := by
  have hbacked := h.candidates _ metadata hmetadata
  exact ⟨metadata, hmetadata, hbacked.row, fun receiptId hreceipt =>
    hbacked.added receiptId (hbacked.complete hreceipt)⟩

theorem persistCandidate_isProposed {record : CandidateRecord} (hbacked : Backed b.store)
    (h : persistCandidate env record b = .ok id b') : IsProposed b'.store record.candidate := by
  obtain ⟨metadata, hmetadata, -, rfl⟩ := persistCandidate_ok h
  exact .of_backed ((persistCandidate_advancing _).ok h hbacked).2 hmetadata

theorem upsertCandidate_advancing (record : CandidateRecord) :
    Within Advancing (upsertCandidate env record) :=
  Within.bind (persistCandidate_advancing record) fun _ => Within.pure

theorem upsertCandidate_isProposed {record : CandidateRecord} {u : Unit} (hbacked : Backed b.store)
    (h : upsertCandidate env record b = .ok u b') : IsProposed b'.store record.candidate := by
  unfold upsertCandidate at h
  rw [bind_ok_iff] at h
  obtain ⟨id, b₁, hpersisted, h⟩ := h
  cases h
  exact persistCandidate_isProposed hbacked hpersisted

end Candidates

section Attempts

variable {b b' : Backend W} {attempt : SaveAttemptId} {flag : ManualFlagId}

-- A request has an attempt.
theorem requestSave_row {session : CaptureSessionId} {recorderRequestId : String}
    {requestedNs : Int} {db : Database} {r : SaveAttemptId × Database}
    (h : Storage.requestSave session recorderRequestId requestedNs db = .ok r) :
    ∃ row ∈ r.2.recorderSaveAttempts, row.id = r.1 := by
  cases Storage.requestSave_eq_ok_iff.mp h
  case inl hfound =>
    obtain ⟨row, hrow, rfl⟩ := hfound
    exact ⟨row, List.mem_of_find?_eq_some hrow, rfl⟩
  case inr hnew =>
    obtain ⟨-, -, rfl⟩ := hnew
    exact ⟨_, List.mem_cons_self, rfl⟩

theorem newAttempt_advancing (capture : CaptureRecord) (generation requestedAtMs : Nat)
    (recorderRequestId : Option String) :
    Within Advancing (newAttempt env capture generation requestedAtMs recorderRequestId) := by
  intro b
  unfold newAttempt
  refine Writing.bind (Writing.checked _) fun requestedNs b₁ _ _ _ => ?_
  refine Writing.bind Writing.store fun s b₂ _ _ _ => ?_
  refine Writing.bind (Writing.execute fun _ _ => Retains.requestSave) fun id b₃ hrequested _ _ => ?_
  obtain ⟨storage, w, hinserted, rfl⟩ := execute_ok hrequested
  obtain ⟨row, hrow, hid⟩ := requestSave_row hinserted
  refine Within.bind_at (R := Advancing) (modifyStore_advancing ?_) fun _ _ _ => Within.pure _
  exact fun hbacked => ⟨{ Extends.refl _ with }, hbacked.setAttempt ⟨row, hrow, hid, by simp⟩⟩

theorem newAttempt_ok {capture : CaptureRecord} {generation requestedAtMs : Nat}
    {recorderRequestId : Option String}
    (h : newAttempt env capture generation requestedAtMs recorderRequestId b = .ok attempt b') :
    ∃ metadata, b'.store.saveAttempts.get? capture.id = some metadata ∧ metadata.id = attempt := by
  unfold newAttempt at h
  simp only [bind_ok_iff] at h
  obtain ⟨_, _, -, _, _, -, id, b₁, -, _, b₂, hmodified, h⟩ := h
  obtain ⟨rfl, rfl⟩ := pure_ok_iff.mp h
  cases hmodified
  exact ⟨_, HashMap.get?_insert_self, rfl⟩

theorem ensureAttempt_advancing (capture : CaptureRecord) (requestedAtMs : Nat)
    (recorderRequestId : Option String) :
    Within Advancing (ensureAttempt env capture requestedAtMs recorderRequestId) := by
  intro b
  unfold ensureAttempt
  rw [bind_ok store_apply]
  cases hexisting : b.store.saveAttempts.get? capture.id
  case none => exact newAttempt_advancing _ _ _ _ b
  case some existing =>
    dsimp only
    split
    case isTrue => exact newAttempt_advancing _ _ _ _ b
    case isFalse =>
      refine Within.bind_at (R := Advancing) (modifyStore_advancing ?_) fun _ _ _ => Within.pure _
      exact fun hbacked => ⟨{ Extends.refl _ with },
        hbacked.setAttempt (hbacked.saveAttempts _ existing hexisting)⟩

theorem ensureAttempt_ok {capture : CaptureRecord} {requestedAtMs : Nat}
    {recorderRequestId : Option String}
    (h : ensureAttempt env capture requestedAtMs recorderRequestId b = .ok attempt b') :
    ∃ metadata, b'.store.saveAttempts.get? capture.id = some metadata ∧ metadata.id = attempt := by
  unfold ensureAttempt at h
  rw [bind_ok store_apply] at h
  cases hexisting : b.store.saveAttempts.get? capture.id
  case none =>
    simp only [hexisting] at h
    exact newAttempt_ok h
  case some existing =>
    simp only [hexisting] at h
    split at h
    case isTrue => exact newAttempt_ok h
    case isFalse =>
      rw [bind_ok_iff] at h
      obtain ⟨_, b₁, hmodified, h⟩ := h
      obtain ⟨rfl, rfl⟩ := pure_ok_iff.mp h
      cases hmodified
      exact ⟨_, HashMap.get?_insert_self, rfl⟩

theorem joinCandidateOnce_advancing (candidate : LiveCandidateId) (attempt : SaveAttemptId)
    (window : CaptureWindow) :
    Within Advancing (joinCandidateOnce env candidate attempt window) := by
  intro b
  unfold joinCandidateOnce
  rw [bind_ok store_apply]
  split
  case isFalse => exact Within.pure b
  case isTrue =>
    refine Writing.bind (Writing.checked _) fun startNs b₁ _ _ _ => ?_
    refine Writing.bind (Writing.checked _) fun endNs b₂ _ _ _ => ?_
    refine Writing.bind (Writing.execute fun _ _ => Retains.joinCandidateSave)
      fun _ b₃ hjoined _ _ => ?_
    obtain ⟨storage, w, hinserted, rfl⟩ := execute_ok hjoined
    obtain ⟨-, -, -, -, heq⟩ := Storage.joinCandidateSave_eq_ok_iff.mp hinserted
    cases heq
    apply modifyStore_advancing
    exact fun hbacked => ⟨{ Extends.refl _ with },
      hbacked.addJoin ⟨_, List.mem_cons_self, rfl, rfl⟩⟩

-- A join that is remembered has been made.
theorem joinCandidateOnce_ok {candidate : LiveCandidateId} {window : CaptureWindow} {u : Unit}
    (hbacked : Backed b.store)
    (h : joinCandidateOnce env candidate attempt window b = .ok u b') :
    IsJoined b'.store.storage candidate attempt := by
  unfold joinCandidateOnce at h
  rw [bind_ok store_apply] at h
  split at h
  case isFalse hknown =>
    cases h
    exact hbacked.joins (candidate, attempt) (by simpa using hknown)
  case isTrue =>
    simp only [bind_ok_iff] at h
    obtain ⟨_, _, -, _, _, -, _, b₃, hjoined, h⟩ := h
    cases h
    obtain ⟨storage, w, hinserted, rfl⟩ := execute_ok hjoined
    obtain ⟨-, -, -, -, heq⟩ := Storage.joinCandidateSave_eq_ok_iff.mp hinserted
    cases heq
    exact ⟨_, List.mem_cons_self, rfl, rfl⟩

theorem createManualFlag_isFlag {session : CaptureSessionId} {flaggedNs now : Int} {db : Database}
    {r : ManualFlagId × Database}
    (h : Storage.createManualFlag session flaggedNs now db = .ok r) :
    IsFlag r.2 session r.1 ∧ ∀ flag, IsFlag db session flag → flag ≠ r.1 := by
  obtain ⟨-, rfl⟩ := Storage.createManualFlag_eq_ok_iff.mp h
  refine ⟨⟨_, List.mem_cons_self, rfl, rfl⟩, fun flag hflag heq => ?_⟩
  obtain ⟨row, hrow, hid, -⟩ := hflag
  apply Table.fresh_notMem (db.manualFlags.map (·.id))
  have hid : row.id = Table.fresh (db.manualFlags.map (·.id)) := hid.trans heq
  exact hid ▸ List.mem_map_of_mem hrow

theorem ensureManualFlag_advancing (capture : CaptureRecord) (window : CaptureWindow) :
    Within Advancing (ensureManualFlag env capture window) := by
  intro b
  unfold ensureManualFlag
  rw [bind_ok store_apply]
  cases hflag : b.store.manualFlags.get? capture.id
  case some flag => exact Within.pure b
  case none =>
    dsimp only
    refine Writing.bind (Writing.checked _) fun flaggedNs b₁ _ h₁ _ => ?_
    refine Writing.bind (Writing.reading _) fun now b₂ _ h₂ _ => ?_
    have hwritten := h₁.trans h₂
    refine Writing.bind (Writing.execute fun _ _ => Retains.createManualFlag)
      fun flag b₃ hcreated _ hbacked => ?_
    obtain ⟨storage, w, hinserted, rfl⟩ := execute_ok hcreated
    rw [← hwritten.session] at hinserted
    obtain ⟨hrow, hnew⟩ := createManualFlag_isFlag hinserted
    refine Within.bind_at (R := Advancing) (modifyStore_advancing ?_) fun _ _ _ => Within.pure _
    intro hbacked'
    have hnone : b₂.store.manualFlags.get? capture.id = none := hwritten.manualFlags ▸ hflag
    exact ⟨.setFlag hnone, hbacked'.setFlag hnone hrow fun id flag' hflag' =>
      hnew flag' (hbacked.manualFlags id flag' hflag')⟩

theorem ensureManualFlag_ok {capture : CaptureRecord} {window : CaptureWindow}
    (h : ensureManualFlag env capture window b = .ok flag b') :
    b'.store.manualFlags.get? capture.id = some flag := by
  unfold ensureManualFlag at h
  rw [bind_ok store_apply] at h
  cases hflag : b.store.manualFlags.get? capture.id
  case some flag' =>
    simp only [hflag] at h
    obtain ⟨rfl, rfl⟩ := pure_ok_iff.mp h
    exact hflag
  case none =>
    simp only [hflag, bind_ok_iff] at h
    obtain ⟨_, _, -, _, _, -, flag', b₁, -, _, b₂, hmodified, h⟩ := h
    obtain ⟨rfl, rfl⟩ := pure_ok_iff.mp h
    cases hmodified
    exact HashMap.get?_insert_self

theorem joinFlag_advancing (capture : CaptureRecord) (attempt : SaveAttemptId)
    (window : CaptureWindow) : Within Advancing (joinFlag env capture attempt window) := by
  refine Within.bind (ensureManualFlag_advancing _ _) fun flag => ?_
  refine Within.bind (Writing.within (Writing.checked _)) fun startNs => ?_
  refine Within.bind (Writing.within (Writing.checked _)) fun endNs => ?_
  exact Writing.within (Writing.execute fun _ _ h => (Retains.joinManualFlagSave h).1)

theorem joinFlag_ok {capture : CaptureRecord} {window : CaptureWindow} {u : Unit}
    (h : joinFlag env capture attempt window b = .ok u b') :
    ∃ flag, b'.store.manualFlags.get? capture.id = some flag ∧
      IsFlagJoined b'.store.storage flag attempt := by
  unfold joinFlag at h
  simp only [bind_ok_iff] at h
  obtain ⟨flag, b₁, hensured, startNs, b₂, hstart, endNs, b₃, hend, h⟩ := h
  have hflag := ensureManualFlag_ok hensured
  obtain ⟨-, rfl⟩ := checked_ok_iff.mp hstart
  obtain ⟨-, rfl⟩ := checked_ok_iff.mp hend
  obtain ⟨storage, w, hjoined, rfl⟩ := execute_ok h
  exact ⟨flag, hflag, (Retains.joinManualFlagSave hjoined).2⟩

end Attempts

section Captures

variable {b b' : Backend W} {attempt : SaveAttemptId} {captureId : String}

theorem failSave_isEnded {message : String} {db : Database} {r : Unit × Database}
    {metadata : SaveAttemptMetadata} (h : Storage.failSave metadata.id message db = .ok r)
    (hrow : metadata.IsIn db) : SaveAttemptMetadata.IsIn r.2 { metadata with failed := true } := by
  cases h
  obtain ⟨row, hrow, hid, -⟩ := hrow
  refine ⟨_, Table.mem_update.mpr ⟨row, hrow, rfl⟩, ?_⟩
  by_cases hsaved : row.status = .saved
  case pos => simp [hid, hsaved, Storage.SaveAttemptRow.IsEnded]
  case neg => simp [hid, hsaved, Storage.SaveAttemptRow.IsEnded]

-- The attempt that has failed is the one that is remembered for the capture.
theorem failAttempt_advancing {message : String}
    (h : ∀ metadata, b.store.saveAttempts.get? captureId = some metadata → metadata.id = attempt) :
    Advancing b (failAttempt env captureId attempt message b).state := by
  unfold failAttempt
  refine Writing.bind (Writing.execute fun _ _ => Retains.failSave) fun _ b₁ hfailed h₁ hbacked => ?_
  obtain ⟨storage, w, hended, rfl⟩ := execute_ok hfailed
  apply modifyStore_advancing
  intro hbacked'
  cases hmetadata : b.store.saveAttempts.get? captureId
  case none => exact ⟨.refl _, hbacked'⟩
  case some metadata =>
    rw [← h metadata hmetadata] at hended
    refine ⟨{ Extends.refl _ with }, hbacked'.setAttempt ?_⟩
    exact failSave_isEnded hended (hbacked.saveAttempts captureId metadata hmetadata)

-- Joins and flags leave the attempts as they are.
theorem joinCandidateOnce_saveAttempts (candidate : LiveCandidateId) (attempt : SaveAttemptId)
    (window : CaptureWindow) :
    Sees (·.saveAttempts) (joinCandidateOnce env candidate attempt window) := by
  refine Within.bind Sees.store fun s => Within.ite (fun _ => ?_) fun _ => Within.pure
  refine Within.bind (Sees.checked _) fun startNs => Within.bind (Sees.checked _) fun endNs => ?_
  exact Within.bind (Sees.execute fun _ _ _ => rfl) fun _ => Sees.modifyStore fun _ => rfl

theorem joinFlag_saveAttempts (capture : CaptureRecord) (attempt : SaveAttemptId)
    (window : CaptureWindow) :
    Sees (·.saveAttempts) (joinFlag env capture attempt window) := by
  refine Within.bind (Within.bind Sees.store fun s => ?_) fun flag => ?_
  · cases s.manualFlags.get? capture.id
    case some => exact Within.pure
    case none =>
      refine Within.bind (Sees.checked _) fun flaggedNs => Within.bind (Sees.reading _) fun now => ?_
      refine Within.bind (Sees.execute fun _ _ _ => rfl) fun flag => ?_
      exact Within.bind (Sees.modifyStore fun _ => rfl) fun _ => Within.pure
  · refine Within.bind (Sees.checked _) fun startNs => Within.bind (Sees.checked _) fun endNs => ?_
    exact Sees.execute fun _ _ _ => rfl

-- The joins and the failure of an attempt, each of which may be left out.
def joinCandidates (env : Environment W) (candidate : Option LiveCandidateId)
    (attempt : SaveAttemptId) (window : CaptureWindow) : Adapter W Unit :=
  match candidate with
  | some candidate => joinCandidateOnce env candidate attempt window
  | none           => pure ()

def joinFlags (env : Environment W) (capture : CaptureRecord) (attempt : SaveAttemptId)
    (window : CaptureWindow) : Adapter W Unit :=
  if capture.kind = .manualFlag then joinFlag env capture attempt window else pure ()

def failAttempts (env : Environment W) (capture : CaptureRecord) (attempt : SaveAttemptId) :
    Adapter W Unit :=
  match failure capture.status with
  | some message => failAttempt env capture.id attempt message
  | none         => pure ()

theorem recordAttempt_eq (capture : CaptureRecord) (candidate : Option LiveCandidateId)
    (window : CaptureWindow) :
    recordAttempt env capture candidate window =
      ensureAttempt env capture ((capture.rawCoverage.map (·.endMs)).getD window.requestedAtMs)
        (recorderRequestId capture.status) >>= fun attempt =>
          joinCandidates env candidate attempt window >>= fun _ =>
            joinFlags env capture attempt window >>= fun _ => failAttempts env capture attempt := by
  unfold recordAttempt joinCandidates joinFlags failAttempts
  refine congrArg (ensureAttempt env capture _ _ >>= ·) (funext fun attempt => ?_)
  cases candidate <;> cases failure capture.status <;>
    by_cases hkind : capture.kind = .manualFlag <;> simp [hkind]

theorem joinCandidates_advancing (candidate : Option LiveCandidateId) (attempt : SaveAttemptId)
    (window : CaptureWindow) : Within Advancing (joinCandidates env candidate attempt window) := by
  cases candidate
  case none => exact Within.pure
  case some candidate => exact joinCandidateOnce_advancing candidate attempt window

theorem joinFlags_advancing (capture : CaptureRecord) (attempt : SaveAttemptId)
    (window : CaptureWindow) : Within Advancing (joinFlags env capture attempt window) :=
  Within.ite (fun _ => joinFlag_advancing capture attempt window) fun _ => Within.pure

theorem failAttempts_advancing {capture : CaptureRecord}
    (h : ∀ metadata, b.store.saveAttempts.get? capture.id = some metadata → metadata.id = attempt) :
    Advancing b (failAttempts env capture attempt b).state := by
  unfold failAttempts
  cases failure capture.status
  case none => exact Within.pure b
  case some message => exact failAttempt_advancing h

-- The joins are made for the attempt that is remembered for the capture.
theorem joins_saveAttempts {capture : CaptureRecord} {candidate : Option LiveCandidateId}
    {window : CaptureWindow} {b₁ b₂ b₃ : Backend W} {u v : Unit}
    (h₂ : joinCandidates env candidate attempt window b₁ = .ok u b₂)
    (h₃ : joinFlags env capture attempt window b₂ = .ok v b₃) :
    b₃.store.saveAttempts = b₁.store.saveAttempts := by
  have hcandidates : Sees (·.saveAttempts) (joinCandidates env candidate attempt window) := by
    cases candidate
    case none => exact Within.pure
    case some candidate => exact joinCandidateOnce_saveAttempts candidate attempt window
  have hflags : Sees (·.saveAttempts) (joinFlags env capture attempt window) :=
    Within.ite (fun _ => joinFlag_saveAttempts capture attempt window) fun _ => Within.pure
  exact (hflags.ok h₃).trans (hcandidates.ok h₂)

theorem recordAttempt_advancing (capture : CaptureRecord) (candidate : Option LiveCandidateId)
    (window : CaptureWindow) :
    Within Advancing (recordAttempt env capture candidate window) := by
  intro b
  rw [recordAttempt_eq]
  refine Within.bind_at (R := Advancing) (ensureAttempt_advancing _ _ _ b) fun attempt b₁ h₁ => ?_
  refine Within.bind_at (R := Advancing) (joinCandidates_advancing _ _ _ b₁) fun _ b₂ h₂ => ?_
  refine Within.bind_at (R := Advancing) (joinFlags_advancing _ _ _ b₂) fun _ b₃ h₃ => ?_
  apply failAttempts_advancing
  obtain ⟨metadata, hmetadata, hid⟩ := ensureAttempt_ok h₁
  rw [joins_saveAttempts h₂ h₃, hmetadata]
  rintro _ ⟨⟩
  exact hid

-- An attempt that has been recorded is joined to the candidate and the flag of its capture.
theorem recordAttempt_ok {capture : CaptureRecord} {candidate : Option LiveCandidateId}
    {window : CaptureWindow} {u : Unit} (hbacked : Backed b.store)
    (h : recordAttempt env capture candidate window b = .ok u b') :
    ∃ attempt, hasAttempt b'.store.storage attempt ∧
      (∀ id ∈ candidate, IsJoined b'.store.storage id attempt) ∧
      (capture.kind = .manualFlag → ∃ flag, b'.store.manualFlags.get? capture.id = some flag ∧
        IsFlagJoined b'.store.storage flag attempt) := by
  rw [recordAttempt_eq] at h
  simp only [bind_ok_iff] at h
  obtain ⟨attempt, b₁, h₁, _, b₂, h₂, _, b₃, h₃, h⟩ := h
  obtain ⟨metadata, hmetadata, hid⟩ := ensureAttempt_ok h₁
  have hfail : Advancing b₃ b' := by
    have hlast : Advancing b₃ (failAttempts env capture attempt b₃).state := by
      apply failAttempts_advancing
      rw [joins_saveAttempts h₂ h₃, hmetadata]
      rintro _ ⟨⟩
      exact hid
    rwa [h] at hlast
  have hbacked₁ := ((ensureAttempt_advancing _ _ _).ok h₁ hbacked).2
  obtain ⟨hextends₂, hbacked₂⟩ := (joinCandidates_advancing _ _ _).ok h₂ hbacked₁
  obtain ⟨hextends₃, hbacked₃⟩ := (joinFlags_advancing _ _ _).ok h₃ hbacked₂
  have hextends := hextends₃.trans (hfail hbacked₃).1
  refine ⟨attempt, ?_, ?_, ?_⟩
  · have hattempt := (hbacked₁.saveAttempts _ metadata hmetadata).hasAttempt
    exact (hextends₂.trans hextends).storage.hasAttempt (hid ▸ hattempt)
  · rintro id ⟨⟩
    exact (joinCandidateOnce_ok hbacked₁ h₂).retained hextends.storage
  · intro hkind
    unfold joinFlags at h₃
    rw [if_pos hkind] at h₃
    obtain ⟨flag, hflag, hjoined⟩ := joinFlag_ok h₃
    have hafter := (hfail hbacked₃).1
    exact ⟨flag, hafter.manualFlags _ flag hflag, hjoined.retained hafter.storage⟩

theorem persistCapturedCandidate_advancing (capture : CaptureRecord) :
    Within Advancing (persistCapturedCandidate env capture) := by
  unfold persistCapturedCandidate
  cases capture.candidate
  case none => exact Within.pure
  case some => exact Within.bind (persistCandidate_advancing _) fun _ => Within.pure

theorem persistCapturedCandidate_ok {capture : CaptureRecord} {id? : Option LiveCandidateId}
    (hbacked : Backed b.store) (h : persistCapturedCandidate env capture b = .ok id? b') :
    ∀ candidate ∈ capture.candidate, IsProposed b'.store candidate ∧ ∃ metadata,
      b'.store.candidates.get? candidate.roundId = some metadata ∧ id? = some metadata.id := by
  unfold persistCapturedCandidate at h
  cases hcandidate : capture.candidate
  case none => simp
  case some candidate =>
    rw [hcandidate, bind_ok_iff] at h
    obtain ⟨id, b₁, hpersisted, h⟩ := h
    obtain ⟨rfl, rfl⟩ := pure_ok_iff.mp h
    rintro _ ⟨⟩
    obtain ⟨metadata, hmetadata, rfl, -⟩ := persistCandidate_ok hpersisted
    exact ⟨persistCandidate_isProposed hbacked hpersisted, metadata, hmetadata, rfl⟩

theorem upsertCapture_advancing (capture : CaptureRecord) :
    Within Advancing (upsertCapture env capture) := by
  refine Within.ite (fun _ => Within.throw) fun _ => ?_
  refine Within.bind (persistCapturedCandidate_advancing capture) fun candidate => ?_
  refine Within.bind (Writing.within Writing.store) fun s => ?_
  refine Within.ite (fun _ => ?_) fun _ => Within.pure
  refine Within.bind (Writing.within (Writing.checked _)) fun window => ?_
  refine Within.ite (fun _ => ?_) fun _ => recordAttempt_advancing _ _ _
  exact Within.bind (ensureManualFlag_advancing _ _) fun _ => Within.pure

theorem not_asked_of_isUnattempted {capture : CaptureRecord} {s : StorageEvidenceStore}
    (h : isUnattempted capture s) : capture.status ≠ .requesting ∧ ¬capture.status.asked := by
  unfold isUnattempted at h
  cases hstatus : capture.status <;> simp [hstatus, CaptureStatus.asked] at h ⊢

theorem CaptureRecord.IsIn.of_unasked {capture : CaptureRecord} {s : StorageEvidenceStore}
    (hcandidate : ∀ candidate ∈ capture.candidate, IsProposed s candidate)
    (h : capture.status ≠ .requesting ∧ ¬capture.status.asked) : capture.IsIn s where
  candidate := hcandidate
  flag      := fun _ hstatus => (hstatus.elim h.1 h.2).elim
  attempt   := fun hasked => absurd hasked h.2

theorem CaptureRecord.IsIn.of_requesting {capture : CaptureRecord} {flag : ManualFlagId}
    (hcandidate : ∀ candidate ∈ capture.candidate, IsProposed b.store candidate)
    (hstatus : capture.status = .requesting) (hbacked : Backed b.store)
    (hflag : b.store.manualFlags.get? capture.id = some flag) : capture.IsIn b.store where
  candidate := hcandidate
  flag      := fun _ _ => ⟨flag, hflag, hbacked.manualFlags _ flag hflag⟩
  attempt   := by simp [hstatus, CaptureStatus.asked]

theorem CaptureRecord.IsIn.of_recorded {capture : CaptureRecord} {window : CaptureWindow}
    {id? : Option LiveCandidateId} {u : Unit} (hbacked : Backed b.store)
    (hcandidate : ∀ candidate ∈ capture.candidate, IsProposed b.store candidate ∧ ∃ metadata,
      b.store.candidates.get? candidate.roundId = some metadata ∧ id? = some metadata.id)
    (h : recordAttempt env capture id? window b = .ok u b') : capture.IsIn b'.store := by
  obtain ⟨hextends, hbacked'⟩ := (recordAttempt_advancing _ _ _).ok h hbacked
  obtain ⟨attempt, hattempt, hjoined, hflag⟩ := recordAttempt_ok hbacked h
  constructor
  case candidate => exact fun candidate hmem => (hcandidate candidate hmem).1.extend hextends
  case flag =>
    rintro hkind -
    obtain ⟨flag, hflag, -⟩ := hflag hkind
    exact ⟨flag, hflag, hbacked'.manualFlags _ flag hflag⟩
  case attempt =>
    refine fun _ => ⟨attempt, hattempt, fun candidate hmem => ?_, hflag⟩
    obtain ⟨-, metadata, hmetadata, hid⟩ := hcandidate candidate hmem
    obtain ⟨metadata', hmetadata', hid'⟩ := hextends.candidates _ metadata hmetadata
    exact ⟨metadata', hmetadata', hid' ▸ hjoined metadata.id hid⟩

-- A capture that has been stored is in the database.
theorem upsertCapture_isIn {capture : CaptureRecord} {u : Unit} (hbacked : Backed b.store)
    (h : upsertCapture env capture b = .ok u b') : capture.IsIn b'.store := by
  unfold upsertCapture at h
  split at h
  case isTrue => cases h
  case isFalse =>
    rw [bind_ok_iff] at h
    obtain ⟨id?, b₁, hpersisted, h⟩ := h
    obtain ⟨-, hbacked₁⟩ := (persistCapturedCandidate_advancing _).ok hpersisted hbacked
    have hcandidate := persistCapturedCandidate_ok hbacked hpersisted
    rw [bind_ok store_apply] at h
    by_cases hunattempted : isUnattempted capture b₁.store
    case pos =>
      rw [if_neg (by simp [hunattempted])] at h
      cases h
      exact .of_unasked (fun candidate hmem => (hcandidate candidate hmem).1)
        (not_asked_of_isUnattempted hunattempted)
    case neg =>
      rw [if_pos (by simp [hunattempted]), bind_ok_iff] at h
      obtain ⟨window, b₂, hchecked, h⟩ := h
      obtain ⟨-, rfl⟩ := checked_ok_iff.mp hchecked
      by_cases hrequesting : capture.kind = .manualFlag ∧ capture.status = .requesting
      case pos =>
        rw [if_pos hrequesting, bind_ok_iff] at h
        obtain ⟨flag, b₃, hensured, h⟩ := h
        cases h
        obtain ⟨hextends, hbacked'⟩ := (ensureManualFlag_advancing _ _).ok hensured hbacked₁
        exact .of_requesting (fun candidate hmem => (hcandidate candidate hmem).1.extend hextends)
          hrequesting.2 hbacked' (ensureManualFlag_ok hensured)
      case neg =>
        rw [if_neg hrequesting] at h
        exact .of_recorded hbacked₁ hcandidate h

theorem CaptureRecord.IsIn.extend {capture : CaptureRecord} {s s' : StorageEvidenceStore}
    (h : capture.IsIn s) (hextends : Extends s s') : capture.IsIn s' where
  candidate := fun candidate hmem => (h.candidate candidate hmem).extend hextends
  flag      := by
    intro hkind hstatus
    obtain ⟨flag, hflag, hrow⟩ := h.flag hkind hstatus
    exact ⟨flag, hextends.manualFlags _ flag hflag, hextends.session ▸ hrow.retained hextends.storage⟩
  attempt   := by
    intro hasked
    obtain ⟨attempt, hattempt, hjoined, hflag⟩ := h.attempt hasked
    refine ⟨attempt, hextends.storage.hasAttempt hattempt, fun candidate hmem => ?_, fun hkind => ?_⟩
    · obtain ⟨metadata, hmetadata, hrow⟩ := hjoined candidate hmem
      obtain ⟨metadata', hmetadata', hid⟩ := hextends.candidates _ metadata hmetadata
      exact ⟨metadata', hmetadata', hid ▸ hrow.retained hextends.storage⟩
    · obtain ⟨flag, hflag, hrow⟩ := hflag hkind
      exact ⟨flag, hextends.manualFlags _ flag hflag, hrow.retained hextends.storage⟩

theorem finalizeCapture_writing (acknowledgement : Capture.SaveAcknowledgement String) :
    Within Writing (finalizeCapture env acknowledgement) := by
  refine Within.bind (Writing.execute fun _ _ => Retains.saveAttemptForRequest) fun attempt => ?_
  refine Within.bind ?_ fun artifact => Within.bind (Writing.checked _) fun endNs => ?_
  · refine Within.bind (Writing.io _ _) fun isPlain => Within.ite (fun _ => Within.throw) fun _ => ?_
    refine Within.bind (Writing.checked _) fun extension => Within.bind (Writing.io _ _) fun file => ?_
    exact Within.bind (Writing.reading _) fun now => Writing.execute fun _ _ => Retains.commitArtifact
  · refine Within.bind (Writing.checked _) fun startNs => Within.bind (Writing.reading _) fun now => ?_
    refine Within.bind (Writing.execute fun _ _ => Retains.finalizeCapturedClip) fun clip => ?_
    refine Within.bind ?_ fun _ => Within.bind (Writing.io _ _) fun _ => Within.pure
    refine Within.bind Writing.store fun s => Within.bind (Writing.checked _) fun origin => ?_
    exact Writing.execute fun _ _ => Retains.completeClipModelMetadata

end Captures

end Live
