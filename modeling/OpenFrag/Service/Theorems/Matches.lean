import OpenFrag.Analysis.Theorems.Trend
import OpenFrag.Pipeline.Theorems.Ready
import OpenFrag.Pipeline.Theorems.RunLeased
import OpenFrag.Service.Matches

open Storage Pipeline Domain

namespace Service

variable {π : Type} {env : Environment} {hook : Option (Hook π)} {source : Source}
variable {request : ImportRequest} {parser : ParserRun} {w w' : World π}
variable {outcome : ReconciledImportOutcome} {job : ImportJobId} {sha256 : Digest} {ratingBp : Nat}
variable {localId : Import.SteamId} {db : Database} {m : RatingMetrics}

theorem rating_available {formulaId : String} {receipt : ReceiptId} :
    rating (.available formulaId ratingBp receipt) =
      (.rated, some (Decimal.hundredths ratingBp)) := by
  have hdiv : (ratingBp : Int).tdiv 100 = (ratingBp / 100 : Nat) := by
    rw [Int.tdiv_eq_ediv_of_nonneg (by omega)]
    rfl
  simp only [rating, ratingState, hdiv, Int.natAbs_natCast, Decimal.hundredths]
  rfl

-- The API shows the stored basis points as if they were hundredths.
theorem matchDetail_ready (h : Ready sha256 localId ratingBp db) :
    ∃ row ∈ db.matchTable, row.demoSha256 = sha256 ∧ ∃ detail, matchDetail db row.id = .ok detail ∧
      detail.rating = some (Decimal.hundredths ratingBp) := by
  have ⟨row, hrow, hsha, hstatus, run, hrun, hlocal, vector, hfind, hbp⟩ := h.row
  have hfound : db.matchTable.find? (fun r => r.id = row.id && r.status ≠ .deleted) = some row := by
    cases hf : db.matchTable.find? (fun r => r.id = row.id && r.status ≠ .deleted)
    case none =>
      have := List.find?_eq_none.mp hf row hrow
      simp [hstatus] at this
    case some found =>
      have hid := List.find?_some hf
      simp only [Bool.and_eq_true, decide_eq_true_eq] at hid
      rw [nodup_unique h.valid.matchKeys (List.mem_of_find?_eq_some hf) hrow hid.1]
  have hrating : ratingAvailability db row.canonicalRunId row.localSteamId =
      .available vector.formulaId ratingBp vector.receiptId := by
    simp only [ratingAvailability, hrun, hlocal, hfind, hbp]
  refine ⟨row, hrow, hsha, ?_⟩
  simp only [matchDetail, Storage.matchDetail, hfound, hrating, Except.mapError, bind, Except.bind,
    rating_available, pure, Except.pure]
  exact ⟨_, rfl, rfl⟩

-- What the API is meant to show of a match with the given counts.
structure ShowsRating (detail : MatchDetail) (m : RatingMetrics) : Prop where
  text  : ∃ bp : RatingBasisPoints, (bp.get : Int) = ⌊10000 * Formula.rating m + 1 / 2⌋ ∧
    detail.rating = some (Decimal.hundredths bp.displayCenti)
  close : ∀ text ∈ detail.rating, ∃ q, Decimal.Written text.toList q ∧
    |q - Formula.rating m| ≤ 51 / 10000 ∧ 0 ≤ q ∧ q ≤ 2

def MatchShows (db : Database) (sha256 : Digest) (m : RatingMetrics) : Prop :=
  ∃ row ∈ db.matchTable, row.demoSha256 = sha256 ∧
    ∃ detail, matchDetail db row.id = .ok detail ∧ ShowsRating detail m

-- Two roundings to the nearest lose little.
theorem displayCenti_close {bp : RatingBasisPoints} {r : ℚ}
    (h : (bp.get : Int) = ⌊10000 * r + 1 / 2⌋) : |bp.displayCenti / 100 - r| ≤ 51 / 10000 := by
  have ⟨hlow, hhigh⟩ := Int.floor_eq_iff.mp h.symm
  have hcenti : 100 * bp.displayCenti ≤ bp.get + 50 := Nat.mul_div_le _ _
  have hcenti' : bp.get + 50 < 100 * bp.displayCenti + 100 := by
    unfold RatingBasisPoints.displayCenti
    omega
  have h₁ : (100 * bp.displayCenti : ℚ) ≤ bp.get + 50 := by exact_mod_cast hcenti
  have h₂ : (bp.get + 50 : ℚ) < 100 * bp.displayCenti + 100 := by exact_mod_cast hcenti'
  push_cast at hlow hhigh
  rw [abs_le]
  constructor <;> linarith

theorem showsRating_hundredths {detail : MatchDetail} {bp : RatingBasisPoints}
    (h : (bp.get : Int) = ⌊10000 * Formula.rating m + 1 / 2⌋)
    (hd : detail.rating = some (Decimal.hundredths bp.displayCenti)) : ShowsRating detail m := by
  refine ⟨⟨bp, h, hd⟩, fun text htext => ?_⟩
  cases hd.symm.trans htext
  refine ⟨_, Decimal.written_hundredths _, displayCenti_close h, by positivity, ?_⟩
  have hle : bp.displayCenti ≤ 200 := by
    have := bp.le_max
    unfold RatingBasisPoints.displayCenti
    omega
  have : (bp.displayCenti : ℚ) ≤ 200 := by exact_mod_cast hle
  linarith

theorem matchShows_iff {bp : RatingBasisPoints} (h : Ready sha256 localId bp.get db)
    (hbp : (bp.get : Int) = ⌊10000 * Formula.rating m + 1 / 2⌋) :
    MatchShows db sha256 m ↔ bp.get = 0 := by
  have ⟨row, hrow, hsha, detail, hdetail, htext⟩ := matchDetail_ready h
  constructor
  case mp =>
    intro ⟨row', hrow', hsha', detail', hdetail', hshows⟩
    cases List.inj_on_of_nodup_map h.valid.demos hrow' hrow (hsha'.trans hsha.symm)
    cases hdetail.symm.trans hdetail'
    have ⟨bp', hbp', htext'⟩ := hshows.text
    have heq : bp.get = bp'.displayCenti :=
      Decimal.hundredths_injective (Option.some.inj (htext.symm.trans htext'))
    have : bp'.get = bp.get := by exact_mod_cast hbp'.trans hbp.symm
    unfold RatingBasisPoints.displayCenti at heq
    omega
  case mpr =>
    intro hzero
    refine ⟨row, hrow, hsha, detail, hdetail, showsRating_hundredths hbp ?_⟩
    simp [htext, RatingBasisPoints.displayCenti, hzero]

theorem importInner_ready (hv : w.db.Valid)
    (h : importInner env hook source request parser w = .ok outcome w')
    (hready : outcome.result = .ready job sha256 ratingBp) :
    ∃ parsed analysis, ∃ bp : RatingBasisPoints, parser.result = .ok parsed ∧
      Analysis.analyze parsed request.localSteamId = .ok analysis ∧ bp.get = ratingBp ∧
      (bp.get : Int) = ⌊10000 * Formula.rating analysis.ratingInput.metrics + 1 / 2⌋ ∧
      Ready source.sha256 request.localSteamId bp.get w'.db := by
  have ⟨parsed, hparsed, hpublishes⟩ := importInner_returns w outcome w' hv h
  have ⟨hstored, analysis, bp, hanalysis, hbp, hget⟩ := hpublishes job sha256 ratingBp hready
  have ⟨_, hanalyzed⟩ := Analysis.analyze_eq_ok hanalysis
  have hsome : analysis.ratingReceipt.ratingBp ≠ none := by simp [hbp]
  have ⟨hpublished, _⟩ := published_of_available hanalyzed.rating
    (calculateRating_available_of_ratingBp hanalyzed.rating hsome)
  have ⟨bp', hbp', hfloor, _⟩ := hpublished.ratingBp
  cases hbp.symm.trans hbp'
  exact ⟨parsed, analysis, bp, hparsed, hanalysis, hget, hfloor, hget ▸ hstored⟩

theorem basisPoints_eq_zero_iff {bp : Nat} {r : ℚ} (h : (bp : Int) = ⌊10000 * r + 1 / 2⌋) :
    bp = 0 ↔ r < 1 / 20000 := by
  have ⟨hlow, hhigh⟩ := Int.floor_eq_iff.mp h.symm
  push_cast at hlow hhigh
  constructor
  case mp =>
    intro hzero
    simp only [hzero, Nat.cast_zero] at hhigh
    linarith
  case mpr =>
    intro hlt
    have : (bp : ℚ) < 1 := by linarith
    have : bp < 1 := by exact_mod_cast this
    omega

theorem matchDetail_shows_iff (hv : w.db.Valid)
    (h : importInner env hook source request parser w = .ok outcome w')
    (hready : outcome.result = .ready job sha256 ratingBp) :
    ∃ parsed analysis, parser.result = .ok parsed ∧
      Analysis.analyze parsed request.localSteamId = .ok analysis ∧
      (MatchShows w'.db source.sha256 analysis.ratingInput.metrics ↔
        Formula.rating analysis.ratingInput.metrics < 1 / 20000) := by
  have ⟨parsed, analysis, bp, hparsed, hanalysis, _, hbp, hstored⟩ :=
    importInner_ready hv h hready
  exact ⟨parsed, analysis, hparsed, hanalysis,
    (matchShows_iff hstored hbp).trans (basisPoints_eq_zero_iff hbp)⟩

-- The import of a Demo in which the local player neither kills nor dies.
def absentImport : EStateM.Result (Program.Stop Step Failure) (World Unit) ReconciledImportOutcome :=
  importInner steady none soloSource soloRequest ⟨[], .ok Analysis.absentDemo⟩ ⟨.empty, ()⟩

theorem absentImport_ready :
    ∃ outcome w, absentImport = .ok outcome w ∧ outcome.result = .ready 0 7 5000 := by
  have h : (match absentImport with
      | .ok outcome _ => some outcome.result
      | .error ..     => none) = some (.ready 0 7 5000) := by
    decide +kernel
  split at h
  case h_1 outcome w heq => exact ⟨outcome, w, heq, Option.some.inj h⟩
  case h_2 => cases h

theorem matchDetail_shows_fails_absent :
    ¬∀ (w w' : World Unit) (parser : ParserRun) (outcome : ReconciledImportOutcome)
      (job : ImportJobId) (sha256 : Digest) (ratingBp : Nat), w.db.Valid →
      importInner steady none soloSource soloRequest parser w = .ok outcome w' →
      outcome.result = .ready job sha256 ratingBp →
      ∃ parsed analysis, parser.result = .ok parsed ∧
        Analysis.analyze parsed soloRequest.localSteamId = .ok analysis ∧
        MatchShows w'.db soloSource.sha256 analysis.ratingInput.metrics := by
  intro hall
  have ⟨outcome, w', h, hready⟩ := absentImport_ready
  have ⟨parsed, analysis, bp, hparsed, hanalysis, hget, hbp, hstored⟩ :=
    importInner_ready .empty h hready
  have ⟨parsed', analysis', hparsed', hanalysis', hshows⟩ :=
    hall ⟨.empty, ()⟩ w' _ outcome 0 7 5000 .empty h hready
  cases hparsed.symm.trans hparsed'
  cases hanalysis.symm.trans hanalysis'
  have hzero := (matchShows_iff hstored hbp).mp hshows
  rw [hget] at hzero
  cases hzero

theorem matchDetail_shows_iff_absent :
    ∃ w' parsed analysis, ParserRun.result ⟨[], .ok Analysis.absentDemo⟩ = .ok parsed ∧
      Analysis.analyze parsed soloRequest.localSteamId = .ok analysis ∧
      (MatchShows w' soloSource.sha256 analysis.ratingInput.metrics ↔
        Formula.rating analysis.ratingInput.metrics < 1 / 20000) := by
  have ⟨_, w', h, hready⟩ := absentImport_ready
  exact ⟨w'.db, matchDetail_shows_iff .empty h hready⟩

end Service
