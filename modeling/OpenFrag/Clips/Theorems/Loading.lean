import OpenFrag.Clips.Repository
import OpenFrag.Clips.Theorems.Rehydration
import OpenFrag.Storage.Theorems.Live

open Except Storage Table

namespace Storage

-- Rows that are numbered by their positions are in the order of these.
theorem insertionSort_positions {α ρ : Type} {row : α × Nat → ρ} (position : ρ → Int)
    (h : ∀ entry, position (row entry) = entry.2) (l : List α) :
    (l.zipIdx.map row).insertionSort (position · ≤ position ·) = l.zipIdx.map row := by
  suffices hpairwise : ∀ n, ((l.zipIdx n).map row).Pairwise (position · ≤ position ·) from
    (hpairwise 0).insertionSort_eq
  induction l
  case nil => simp
  case cons a l ih =>
    intro n
    simp only [List.zipIdx_cons, List.map_cons, List.pairwise_cons, List.mem_map,
      forall_exists_index, and_imp, forall_apply_eq_imp_iff₂, h]
    refine ⟨fun entry hentry => ?_, ih (n + 1)⟩
    have := List.le_snd_of_mem_zipIdx hentry
    omega

variable {clip : ClipId} {kind other : OriginReceiptKind} {receipts : List String}

theorem originGroup_kind {row : ClipOriginRow} (h : row ∈ originGroup clip kind receipts) :
    row.kind = kind := by
  obtain ⟨_, _, rfl⟩ := List.mem_map.mp h
  rfl

@[simp]
theorem originGroup_filter : (originGroup clip kind receipts).filter (·.kind = kind) =
    originGroup clip kind receipts :=
  List.filter_eq_self.mpr fun _ hrow => decide_eq_true (originGroup_kind hrow)

theorem originGroup_filter_ne (h : kind ≠ other) :
    (originGroup clip kind receipts).filter (·.kind = other) = [] := by
  simp only [List.filter_eq_nil_iff, decide_eq_true_eq]
  intro row hrow
  simpa [originGroup_kind hrow] using h

theorem originGroup_receipts : ((originGroup clip kind receipts).insertionSort
    (·.position ≤ ·.position)).map (·.receiptId) = receipts := by
  simp only [originGroup]
  rw [insertionSort_positions ClipOriginRow.position fun _ => rfl]
  simp [Function.comp_def]

theorem originReceipts_eq {db : Database} (kind : OriginReceiptKind) {rows : List ClipOriginRow}
    (h : db.clipOriginReceipts.filter (·.clipId = clip) = rows) :
    originReceipts db clip kind = ((rows.filter (·.kind = kind)).insertionSort
      (·.position ≤ ·.position)).map (·.receiptId) := by
  subst h
  simp only [originReceipts, List.filter_filter, Bool.and_comm]

def DurableClipOriginInput.record : DurableClipOriginInput → DurableClipOriginRecord
  | .auto triggers evidence         => .auto triggers evidence
  | .manual flag time overlapping => .manual flag time overlapping

theorem validateGroup_eq_ok_iff {required : Bool} {u : Unit} :
    validateGroup receipts required = .ok u ↔
    (required → receipts ≠ []) ∧ ¬receipts.any isBlank ∧ receipts.Nodup := by
  simp only [validateGroup, bind_eq_ok_iff, ensure_eq_ok_iff, exists_const]

-- A validated origin that has been stored is read back.
theorem durableOrigin_stored {db : Database} {row : ClipRow} {origin : DurableClipOriginInput}
    (hvalid : validateOrigin origin = .ok ())
    (htime : row.manualFlagTimeMs = origin.flagTimeMs.map Int.ofNat)
    (hrows : db.clipOriginReceipts.filter (·.clipId = row.id) = originRows row.id origin) :
    durableOrigin db row origin.kind = .ok origin.record := by
  cases origin
  case auto triggers evidence =>
    simp only [validateOrigin, bind_eq_ok_iff, validateGroup_eq_ok_iff, exists_const,
      forall_const] at hvalid
    obtain ⟨⟨htriggers, _⟩, hevidence, _⟩ := hvalid
    have hread : originReceipts db row.id .trigger = triggers ∧
        originReceipts db row.id .evidence = evidence := by
      simp [originReceipts_eq _ hrows, originRows, originGroup_filter_ne, originGroup_receipts]
    simp only [durableOrigin, DurableClipOriginInput.kind, DurableClipOriginInput.record, hread,
      bind_eq_ok_iff, ensure_eq_ok_iff, pure_eq_ok_iff, exists_const, and_true]
    exact ⟨htriggers, hevidence⟩
  case manual flag time overlapping =>
    have hread : originReceipts db row.id .manualFlag = [flag] ∧
        originReceipts db row.id .overlappingAuto = overlapping := by
      simp [originReceipts_eq _ hrows, originRows, originGroup_filter_ne, originGroup_receipts]
    simp only [DurableClipOriginInput.flagTimeMs, Option.map_some] at htime
    simp only [durableOrigin, DurableClipOriginInput.kind, DurableClipOriginInput.record, hread,
      htime, bind_eq_ok_iff, ensure_eq_ok_iff, pure_eq_ok_iff, exists_const]
    simp

end Storage

namespace Clips

theorem blank_empty : isBlank "" := by
  simp [isBlank]

theorem notMem_of_not_blank {receipts : List String} (h : ¬receipts.any isBlank) :
    "" ∉ receipts :=
  fun hmem => h (List.any_eq_true.mpr ⟨"", hmem, blank_empty⟩)

-- A validated origin is one that the constructors accept.
theorem originFromRecord_stored {origin : DurableClipOriginInput}
    (hvalid : validateOrigin origin = .ok ()) :
    ∃ built, originFromRecord origin.record = .ok built ∧ built.evidenceValid := by
  cases origin
  case auto triggers evidence =>
    simp only [validateOrigin, bind_eq_ok_iff, validateGroup_eq_ok_iff, exists_const,
      forall_const] at hvalid
    obtain ⟨⟨htriggers, hclean, _⟩, hevidence, hclean', _⟩ := hvalid
    have hempty := notMem_of_not_blank hclean
    have hempty' := notMem_of_not_blank hclean'
    have hbuilt : originFromRecord (DurableClipOriginInput.auto triggers evidence).record =
        .ok (.autoHighlight triggers.toFinset evidence.toFinset) := by
      simp [originFromRecord, DurableClipOriginInput.record, ClipOrigin.newAutoHighlight,
        htriggers, hevidence]
    refine ⟨_, hbuilt, ?_⟩
    rw [(ClipOrigin.Built.auto hbuilt).evidenceValid_iff]
    simp [ClipOrigin.receipts, hempty, hempty']
  case manual flag time overlapping =>
    simp only [validateOrigin, bind_eq_ok_iff, ensure_eq_ok_iff, exists_const,
      validateGroup_eq_ok_iff] at hvalid
    obtain ⟨hflag, _, hclean, _⟩ := hvalid
    have hne : flag ≠ "" := fun heq => hflag (heq ▸ blank_empty)
    have hempty := notMem_of_not_blank hclean
    have hbuilt : originFromRecord (DurableClipOriginInput.manual flag time overlapping).record =
        .ok (.manualFlag flag time overlapping.toFinset) := by
      simp [originFromRecord, DurableClipOriginInput.record, ClipOrigin.newManualFlag, hne]
    refine ⟨_, hbuilt, ?_⟩
    rw [(ClipOrigin.Built.manual hbuilt).evidenceValid_iff]
    simp [ClipOrigin.receipts, hempty, hne.symm]

end Clips
