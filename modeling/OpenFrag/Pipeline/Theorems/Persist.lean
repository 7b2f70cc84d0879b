import OpenFrag.Pipeline.Theorems.Import
import OpenFrag.Library.Splits
import OpenFrag.Analysis.Theorems.Ledger
import OpenFrag.Domain.Theorems.Rating

open Import Storage Program Table

namespace Pipeline

variable {π α β : Type} {env : Environment} {step : Step} {op : Statement α}

-- How a program ends, when all that matters of the world is the database.
abbrev Ends (env : Environment) (good : Prop) (P : Database → Prop)
    (x : Program Step (World π) Failure α) (Q : α → Database → Prop)
    (R : Step → Moment → Database → Prop) : Prop :=
  Settles env.plan World.db good P x Q R

namespace Ends

variable {good : Prop} {P : Database → Prop} {Q : α → Database → Prop}
variable {R : Step → Moment → Database → Prop}

theorem store (hgood : ∀ db, P db → good → ∃ a db', op db = .ok (a, db') ∧ Q a db')
    (hbad : ∀ db r, P db → op db = .ok r → good) (before : ∀ db, P db → R step .before db)
    (after : ∀ a db, Q a db → R step .after db) :
    Ends (π := π) env good P (Pipeline.store env step op) Q R := by
  refine .call (fun w hw => ?_) (fun w a w' hw h => ?_) before after
  · constructor
    · intro hg
      obtain ⟨a, db', hop, _⟩ := hgood w.db hw hg
      exact ⟨(a, { w with db := db' }), by simp only [onDatabase, hop]⟩
    · intro ⟨r, hr⟩
      unfold onDatabase at hr
      rcases hop : op w.db with e | r <;> simp only [hop] at hr
      · cases hr
      · exact hbad w.db r hw hop
  · unfold onDatabase at h
    rcases hop : op w.db with e | r <;> simp only [hop] at h <;> cases h
    obtain ⟨a, db', hop', hQ⟩ := hgood w.db hw (hbad w.db r hw hop)
    cases hop.symm.trans hop'
    exact hQ

-- A statement that cannot fail.
theorem storeOk (hop : ∀ db, P db → ∃ a db', op db = .ok (a, db') ∧ Q a db')
    (before : ∀ db, P db → R step .before db) (after : ∀ a db, Q a db → R step .after db) :
    Ends (π := π) env True P (Pipeline.store env step op) Q R :=
  store (fun db hP _ => hop db hP) (fun _ _ _ _ => trivial) before after

theorem trySize {n : Nat} :
    Ends (π := π) env (n < 2 ^ 63) P (Pipeline.trySize n) (fun v db => v = n ∧ P db) R := by
  unfold Pipeline.trySize
  split
  case isTrue h => exact (Settles.pure fun _ hw => ⟨rfl, hw⟩).congr (iff_of_true trivial h)
  case isFalse h => exact Settles.fail fun _ _ => h

end Ends

-- The tables that the rows of a run do not go to.
structure Frame (db₁ db : Database) : Prop where
  matchTable   : db.matchTable = db₁.matchTable
  matchPlayers : db.matchPlayers = db₁.matchPlayers
  players      : db.players = db₁.players
  analysisRuns : db.analysisRuns = db₁.analysisRuns
  importJobs   : db.importJobs = db₁.importJobs

namespace Frame

variable {db₁ db : Database}

theorem refl : Frame db db := ⟨rfl, rfl, rfl, rfl, rfl⟩

theorem hasRun (h : Frame db₁ db) (run : AnalysisRunId) : hasRun db run = hasRun db₁ run := by
  simp only [Storage.hasRun, h.analysisRuns]

theorem hasPlayer (h : Frame db₁ db) (steamId : SteamId) :
    hasPlayer db steamId = hasPlayer db₁ steamId := by
  simp only [Storage.hasPlayer, h.players]

end Frame

-- The numbers of the rounds that a run has.
def roundNumbers (run : AnalysisRunId) (db : Database) : List Int :=
  (db.rounds.filter (·.analysisRunId = run)).map (·.roundNumber)

-- A run with the given rounds that is not rated yet.
structure Unrated (db₁ : Database) (run : AnalysisRunId) (numbers : List Int) (db : Database) :
    Prop where
  frame       : Frame db₁ db
  numbers     : ∀ number, number ∈ roundNumbers run db ↔ number ∈ numbers
  vectors     : ∀ row ∈ db.ratingVectors, row.analysisRunId ≠ run
  unavailable : ∀ row ∈ db.unavailableRatings, row.analysisRunId ≠ run
  metrics     : References (·.roundId) db.roundPlayerMetrics (db.rounds.map (·.id))
  components  : References (·.ratingVectorId) db.ratingComponents (db.ratingVectors.map (·.id))

-- The rating of the local player is stored, and no other.
structure Rated (db₁ : Database) (run : AnalysisRunId) (localId : SteamId) (db : Database) :
    Prop where
  frame       : Frame db₁ db
  rating      : ∀ row : MatchRow, row.localSteamId = localId → hasLocalRating db run row
  vectors     : ∀ row ∈ db.ratingVectors, row.analysisRunId = run → row.steamId = localId
  unavailable : ∀ row ∈ db.unavailableRatings, row.analysisRunId = run → row.steamId = localId

theorem hasReceipt_of_receiptRun {db : Database} {run : AnalysisRunId} {receipt : ReceiptId}
    (h : receiptRun db receipt = some run) : hasReceipt db receipt := by
  obtain ⟨found, hfound, _⟩ := Option.map_eq_some_iff.mp h
  have hid := List.find?_some hfound
  exact List.any_eq_true.mpr ⟨found, List.mem_of_find?_eq_some hfound, hid⟩

theorem receiptRun_insert {db : Database} {run : AnalysisRunId} {receipt : ReceiptId}
    {row : ReceiptRow} (hrow : row.id = fresh (db.receipts.map (·.id)))
    (h : receiptRun db receipt = some run) :
    receiptRun { db with receipts := row :: db.receipts } receipt = some run := by
  have hmem : receipt ∈ db.receipts.map (·.id) := by
    simpa [hasReceipt] using hasReceipt_of_receiptRun h
  have hne : row.id ≠ receipt := fun heq => fresh_notMem _ (hrow ▸ heq ▸ hmem)
  simpa [receiptRun, List.find?_cons, hne] using h

theorem hasLocalRating_iff {db : Database} {run : AnalysisRunId} {row : MatchRow} :
    hasLocalRating db run row ↔
      (∃ v ∈ db.ratingVectors, v.analysisRunId = run ∧ v.steamId = row.localSteamId ∧
        receiptRun db v.receiptId = some run) ∨
      (∃ u ∈ db.unavailableRatings, u.analysisRunId = run ∧ u.steamId = row.localSteamId ∧
        receiptRun db u.receiptId = some run) := by
  simp only [hasLocalRating, Bool.or_eq_true, List.any_eq_true, Bool.and_eq_true,
    decide_eq_true_eq, and_assoc]

-- A rating stays when another receipt is stored.
theorem hasLocalRating_insert {db : Database} {run : AnalysisRunId} {row : MatchRow}
    {receipt : ReceiptRow} (hrow : receipt.id = fresh (db.receipts.map (·.id)))
    (h : hasLocalRating db run row) :
    hasLocalRating { db with receipts := receipt :: db.receipts } run row := by
  rcases hasLocalRating_iff.mp h with ⟨v, hv, hrun, hlocal, hreceipt⟩ | ⟨u, hu, hrun, hlocal, hreceipt⟩
  · exact hasLocalRating_iff.mpr
      (.inl ⟨v, hv, hrun, hlocal, receiptRun_insert hrow hreceipt⟩)
  · exact hasLocalRating_iff.mpr
      (.inr ⟨u, hu, hrun, hlocal, receiptRun_insert hrow hreceipt⟩)

theorem Rated.hasLocalRating_iff {db₁ db : Database} {run : AnalysisRunId} {localId : SteamId}
    {row : MatchRow} (h : Rated db₁ run localId db) :
    hasLocalRating db run row ↔ row.localSteamId = localId := by
  refine ⟨fun hrating => ?_, h.rating row⟩
  rcases Pipeline.hasLocalRating_iff.mp hrating with ⟨v, hv, hrun, hid, _⟩ | ⟨u, hu, hrun, hid, _⟩
  · exact hid.symm.trans (h.vectors v hv hrun)
  · exact hid.symm.trans (h.unavailable u hu hrun)

-- The calls between the start of an analysis and its completion.
def Step.analyzes : Step → Bool
  | .addRound _ | .addRoundReceipt _ | .writeRoundMetric _ | .addRatingReceipt | .persistRating
  | .addComponentReceipt _ | .persistComponent _ => true
  | _ => false

theorem any_round_iff {run : AnalysisRunId} {number : Int} {db : Database} :
    (db.rounds.any fun row => row.analysisRunId = run && row.roundNumber = number) ↔
      number ∈ roundNumbers run db := by
  simp only [roundNumbers, List.any_eq_true, Bool.and_eq_true, decide_eq_true_eq, List.mem_map,
    List.mem_filter, and_assoc]

section

variable {db₁ : Database} {run : AnalysisRunId} {localId : SteamId} {known : Prop}
variable {R : Step → Moment → Database → Prop}

variable (hrun : hasRun db₁ run) (hknown : hasPlayer db₁ localId ↔ known)
variable (hR : ∀ step : Step, step.analyzes → ∀ moment db, Frame db₁ db → R step moment db)

include hrun hR

theorem addRound_ends {i : Nat} {numbers : List Int} {number endTick : Int}
    {winner : Option Winner} :
    Ends (π := π) env (number ∉ numbers) (Unrated db₁ run numbers)
      (store env (.addRound i) (addRound run number endTick winner))
      (fun id db => Unrated db₁ run (numbers ++ [number]) db ∧ roundRun db id = some run ∧
        db.rounds.any (·.id = id) ∧ ∀ row ∈ db.roundPlayerMetrics, row.roundId ≠ id) R := by
  refine .store (fun db h hnew => ?_) (fun db r h hr => ?_) (fun db h => hR _ rfl _ _ h.frame)
    (fun _ db h => hR _ rfl _ _ h.1.frame)
  · refine ⟨_, _, addRound_eq_ok_iff.mpr ⟨?_, h.frame.hasRun run ▸ hrun, rfl⟩, ?_, ?_, ?_, ?_⟩
    · rwa [any_round_iff, h.numbers]
    · exact { h with
        frame := { h.frame with }
        numbers := fun n => by
          have := h.numbers n
          simp only [roundNumbers] at this
          simp [roundNumbers, this, or_comm]
        metrics := h.metrics.grow _ }
    · simp [roundRun]
    · simp
    · exact fun row hrow => h.metrics.ne_fresh hrow
  · obtain ⟨hnew, _⟩ := addRound_eq_ok_iff.mp hr
    rwa [any_round_iff, h.numbers] at hnew

theorem addReceipt_ends {P : Database → Prop} {step : Step} (hstep : step.analyzes)
    {round : Option RoundId} {metricKey : String} {tick ordinal : Option Int}
    {participants : List SteamId} {payload : RawPayload} {parameters : Parameters}
    (htick : tick.isSome = ordinal.isSome) (hframe : ∀ db, P db → Frame db₁ db)
    (hround : ∀ db, P db → ∀ r ∈ round, db.rounds.any (·.id = r))
    (hinsert : ∀ db receipt, P db → receipt.id = fresh (db.receipts.map (·.id)) →
      P { db with receipts := receipt :: db.receipts }) :
    Ends (π := π) env True P
      (store env step
        (addReceipt run round metricKey tick ordinal participants payload parameters))
      (fun receipt db => P db ∧ receiptRun db receipt = some run) R := by
  refine .storeOk (fun db h => ?_) (fun db h => hR _ hstep _ _ (hframe db h))
    (fun _ db h => hR _ hstep _ _ (hframe db h.1))
  refine ⟨_, _, addReceipt_eq_ok_iff.mpr
    ⟨htick, (hframe db h).hasRun run ▸ hrun, hround db h, rfl⟩, hinsert db _ h rfl, ?_⟩
  simp [receiptRun]

theorem storeParsedRound_ends {numbers : List Int} {i : Nat} {round : ParsedRound} :
    Ends (π := π) env (round.number < 2 ^ 63 ∧ (round.number : Int) ∉ numbers)
      (Unrated db₁ run numbers) (storeParsedRound env run i round)
      (fun _ => Unrated db₁ run (numbers ++ [(round.number : Int)])) R := by
  refine Settles.bind Ends.trySize fun number => Settles.assume ?_
  rintro rfl
  exact (addRound_ends hrun hR).map fun _ _ h => h.1

theorem persistRounds_ends {parsed : ParsedOutput} :
    Ends (π := π) env
      ((∀ round ∈ parsed.rounds, round.number < 2 ^ 63) ∧ (parsed.rounds.map (·.number)).Nodup)
      (Unrated db₁ run []) (forEach (storeParsedRound env run) 0 parsed.rounds)
      (fun _ => Unrated db₁ run (parsed.rounds.map fun round => (round.number : Int))) R := by
  refine (Settles.forEach
    (fun (done : List ParsedRound) _ =>
      Unrated db₁ run (done.map fun round => (round.number : Int)))
    (fun done round => round.number < 2 ^ 63 ∧ round.number ∉ done.map (·.number))
    fun done round rest _ => ?_).congr ?_
  · refine (storeParsedRound_ends hrun hR).mono ?_ (fun _ h => h) fun _ _ h => ?_
    · simp
    · simpa using h
  · simp only [List.forall_mem_iff_split, List.nodup_map_iff_split, ← forall_and]

-- A receipt goes to no round or to one of the run, so the rounds stay as they are.
theorem addRatingReceipt_ends {step : Step} (hstep : step.analyzes) {numbers : List Int}
    {metricKey : String} {participants : List SteamId} {payload : RawPayload}
    {parameters : Parameters} :
    Ends (π := π) env True (Unrated db₁ run numbers)
      (store env step
        (addReceipt run none metricKey none none participants payload parameters))
      (fun receipt db => Unrated db₁ run numbers db ∧ receiptRun db receipt = some run) R :=
  addReceipt_ends hrun hR hstep rfl (fun _ h => h.frame) (fun _ _ => nofun)
    fun _ _ h _ => { h with frame := { h.frame with } }

include hknown

theorem persistUnavailable_ends {parsed : ParsedOutput} {reason : Analysis.AnalysisUnavailable} :
    Ends (π := π) env
      (((∀ round ∈ parsed.rounds, round.number < 2 ^ 63) ∧
        (parsed.rounds.map (·.number)).Nodup) ∧ known)
      (Unrated db₁ run []) (persistUnavailable env run parsed localId reason)
      (fun _ => Rated db₁ run localId) R := by
  refine (persistRounds_ends hrun hR).bind fun _ =>
    (addRatingReceipt_ends hrun hR rfl).seq fun receipt => ?_
  refine Ends.store (fun db ⟨h, hreceipt⟩ hk => ?_) (fun db r ⟨h, _⟩ hr => ?_)
    (fun db h => hR _ rfl _ _ h.1.frame) (fun _ db h => hR _ rfl _ _ h.frame)
  · refine ⟨_, _, persistUnavailableRating_eq_ok_iff.mpr
      ⟨?_, ?_, h.frame.hasRun run ▸ hrun, ?_, ?_, rfl⟩, { h.frame with }, fun row hrow => ?_,
      fun row hrow heq => absurd heq (h.vectors row hrow),
      List.forall_mem_cons.mpr ⟨fun _ => rfl, fun row hrow heq =>
        absurd heq (h.unavailable row hrow)⟩⟩
    · simp [sameRun, hreceipt]
    · simpa using fun row hrow hr => absurd hr (h.unavailable row hrow)
    · rwa [h.frame.hasPlayer, hknown]
    · exact hasReceipt_of_receiptRun hreceipt
    · exact hasLocalRating_iff.mpr
        (.inr ⟨_, List.mem_cons_self, rfl, hrow.symm, hreceipt⟩)
  · obtain ⟨_, _, _, hplayer, _⟩ := persistUnavailableRating_eq_ok_iff.mp hr
    rwa [h.frame.hasPlayer, hknown] at hplayer

theorem storeRound_ends {numbers : List Int} {i : Nat} {round : Analysis.RoundLedger}
    (hnew : (round.number : Int) ∉ numbers) :
    Ends (π := π) env (round.number < 2 ^ 63 ∧ known) (Unrated db₁ run numbers)
      (storeRound env run localId i round)
      (fun _ => Unrated db₁ run (numbers ++ [(round.number : Int)])) R := by
  refine Settles.bind Ends.trySize fun number => Settles.assume ?_
  rintro rfl
  refine Settles.seq ((addRound_ends hrun hR).congr (iff_of_true hnew trivial)) fun id => ?_
  refine Settles.seq (addReceipt_ends hrun hR rfl rfl (fun _ h => h.1.frame)
    (fun _ h _ hr => Option.mem_some.mp hr ▸ h.2.2.1)
    fun _ _ h _ => ⟨{ h.1 with frame := { h.1.frame with } }, h.2⟩) fun receipt => ?_
  refine Ends.store (fun db ⟨⟨h, hround, hid, hmetrics⟩, hreceipt⟩ hk => ?_)
    (fun db r ⟨⟨h, _⟩, _⟩ hr => ?_) (fun db h => hR _ rfl _ _ h.1.1.frame)
    (fun _ db h => hR _ rfl _ _ h.frame)
  · refine ⟨_, _, writeRoundMetric_eq_ok_iff.mpr ⟨?_, ?_, by decide, ?_,
      h.frame.hasRun run ▸ hrun, hid, ?_, ?_, rfl⟩, { h with
        frame := { h.frame with }
        metrics := h.metrics.insert (by simpa using hid) }⟩
    · simp [sameRun, hround]
    · simp [sameRun, hreceipt]
    · simpa using fun row hrow _ hr => absurd hr (hmetrics row hrow)
    · rwa [h.frame.hasPlayer, hknown]
    · simpa using hasReceipt_of_receiptRun hreceipt
  · obtain ⟨_, _, _, _, _, _, hplayer, _⟩ := writeRoundMetric_eq_ok_iff.mp hr
    rwa [h.frame.hasPlayer, hknown] at hplayer

theorem storeRounds_ends {rounds : List Analysis.RoundLedger}
    (hnodup : (rounds.map (·.number)).Nodup) :
    Ends (π := π) env (∀ round ∈ rounds, round.number < 2 ^ 63 ∧ known) (Unrated db₁ run [])
      (forEach (storeRound env run localId) 0 rounds)
      (fun _ => Unrated db₁ run (rounds.map fun round => (round.number : Int))) R := by
  refine (Settles.forEach
    (fun (done : List Analysis.RoundLedger) _ =>
      Unrated db₁ run (done.map fun round => (round.number : Int)))
    (fun _ round => round.number < 2 ^ 63 ∧ known) fun done round rest heq => ?_).congr
    List.forall_mem_iff_split.symm
  have hnew := List.nodup_map_iff_split.mp hnodup done round rest heq
  refine (storeRound_ends hrun hknown hR (by simpa using hnew)).mono Iff.rfl (fun _ h => h)
    fun _ _ h => ?_
  simpa using h

-- The components that a rating vector has.
structure Weighing (db₁ : Database) (run : AnalysisRunId) (localId : SteamId)
    (vector : RatingVectorId) (kinds : List Domain.ComponentKind) (db : Database) : Prop where
  rated  : Rated db₁ run localId db
  run    : vectorRun db vector = some run
  exists_ : db.ratingVectors.any (·.id = vector)
  kinds  : ∀ row ∈ db.ratingComponents, row.ratingVectorId = vector → row.componentKey ∈ kinds

omit hknown in
theorem storeComponent_ends {vector : RatingVectorId} {kinds : List Domain.ComponentKind} {i : Nat}
    {component : Domain.ComponentReceipt} (hnew : component.kind ∉ kinds)
    (hpos : 0 < component.exactDenominator) (hweight : 0 ≤ component.weight.numerator) :
    Ends (π := π) env True (Weighing db₁ run localId vector kinds)
      (storeComponent env run localId vector i component)
      (fun _ => Weighing db₁ run localId vector (kinds ++ [component.kind])) R := by
  refine Settles.seq (addReceipt_ends hrun hR rfl rfl (fun _ h => h.rated.frame)
    (fun _ _ => nofun) fun _ _ h hreceipt => { h with
      rated := { h.rated with
        frame := { h.rated.frame with }
        rating := fun row hrow =>
          hasLocalRating_insert hreceipt (h.rated.rating row hrow) } }) fun receipt => ?_
  refine Ends.storeOk (fun db ⟨h, hreceipt⟩ => ?_) (fun db h => hR _ rfl _ _ h.1.rated.frame)
    (fun _ db h => hR _ rfl _ _ h.rated.frame)
  refine ⟨_, _, persistRatingComponent_eq_ok_iff.mpr ⟨?_, hpos.le, ?_, ?_, h.exists_,
    hasReceipt_of_receiptRun hreceipt, rfl⟩, { h with
      rated := { h.rated with frame := { h.rated.frame with } }
      kinds := fun row hrow hvector => ?_ }⟩
  · simp [sameRun, hreceipt, h.run]
  · have hscaled : 0 ≤ saturatingMul component.weight.numerator 10000 := by
      simp only [saturatingMul]
      omega
    exact Int.tdiv_nonneg hscaled component.weight.denominatorPos.le
  · simp only [List.any_eq_true, Bool.and_eq_true, decide_eq_true_eq, not_exists, not_and]
    intro row hrow hvector heq
    exact hnew (heq ▸ h.kinds row hrow hvector)
  · rcases List.mem_cons.mp hrow with rfl | hrow
    · exact List.mem_append_right _ List.mem_cons_self
    · exact List.mem_append_left _ (h.kinds row hrow hvector)

omit hknown in
theorem storeComponents_ends {vector : RatingVectorId}
    {components : List Domain.ComponentReceipt} (hnodup : (components.map (·.kind)).Nodup)
    (hwell : ∀ c ∈ components, 0 < c.exactDenominator ∧ 0 ≤ c.weight.numerator) :
    Ends (π := π) env True (Weighing db₁ run localId vector [])
      (forEach (storeComponent env run localId vector) 0 components)
      (fun _ => Rated db₁ run localId) R := by
  refine (Settles.forEach
    (fun (done : List Domain.ComponentReceipt) _ =>
      Weighing db₁ run localId vector (done.map (·.kind)))
    (fun _ _ => True) fun done component rest heq => ?_).mono (by simp) (fun _ h => h)
    fun _ _ h => h.rated
  have hnew := List.nodup_map_iff_split.mp hnodup done component rest heq
  have ⟨hpos, hweight⟩ := hwell component (by simp [← heq])
  refine (storeComponent_ends hrun hR hnew hpos hweight).mono Iff.rfl (fun _ h => h)
    fun _ _ h => ?_
  simpa using h

theorem persistVector_ends {numbers : List Int} {ratingBp : Int} {receipt : ReceiptId} :
    Ends (π := π) env known
      (fun db => Unrated db₁ run numbers db ∧ receiptRun db receipt = some run)
      (store env .persistRating (persistAvailableRating run localId ofr ratingBp receipt))
      (fun vector => Weighing db₁ run localId vector []) R := by
  refine Ends.store (fun db ⟨h, hreceipt⟩ hk => ?_) (fun db r ⟨h, _⟩ hr => ?_)
    (fun db h => hR _ rfl _ _ h.1.frame) (fun _ db h => hR _ rfl _ _ h.rated.frame)
  · refine ⟨_, _, persistAvailableRating_eq_ok_iff.mpr ⟨?_, ?_, h.frame.hasRun run ▸ hrun, ?_,
      hasReceipt_of_receiptRun hreceipt, rfl⟩, ⟨{ h.frame with }, fun row hrow => ?_,
      List.forall_mem_cons.mpr ⟨fun _ => rfl, fun row hrow heq => absurd heq (h.vectors row hrow)⟩,
      fun row hrow heq => absurd heq (h.unavailable row hrow)⟩, ?_, ?_, ?_⟩
    · simp [sameRun, hreceipt]
    · simpa using fun row hrow hr => absurd hr (h.vectors row hrow)
    · rwa [h.frame.hasPlayer, hknown]
    · exact hasLocalRating_iff.mpr
        (.inl ⟨_, List.mem_cons_self, rfl, hrow.symm, hreceipt⟩)
    · simp [vectorRun]
    · simp
    · exact fun row hrow heq => absurd heq (h.components.ne_fresh hrow)
  · obtain ⟨_, _, _, hplayer, _⟩ := persistAvailableRating_eq_ok_iff.mp hr
    rwa [h.frame.hasPlayer, hknown] at hplayer

end

-- What an import reports of the analysis.
def Reports (parsed : ParsedOutput) (localId : SteamId) (job : ImportJobId) (sha256 : Digest) :
    ImportOutcome → Prop
  | .deduplicated _ _ => False
  | .ready job' sha256' ratingBp => job' = job ∧ sha256' = sha256 ∧ ∃ analysis bp,
      Analysis.analyze parsed localId = .ok analysis ∧
      analysis.ratingReceipt.ratingBp = some bp ∧ bp.get = ratingBp
  | .ratingUnavailable job' sha256' reason => job' = job ∧ sha256' = sha256 ∧
      Analysis.analyze parsed localId = .error (.unavailable reason)

-- The results of an analysis that the schema accepts, where `known` says that the local player is
-- a stored one.
def Recordable (parsed : ParsedOutput) (localId : SteamId) (known : Prop) : Prop :=
  known ∧ match Analysis.analyze parsed localId with
    | .ok analysis =>
      (∀ round ∈ analysis.rounds, round.number < 2 ^ 63) ∧ analysis.ratingReceipt.ratingBp.isSome
    | .error (.unavailable _) =>
      (∀ round ∈ parsed.rounds, round.number < 2 ^ 63) ∧ (parsed.rounds.map (·.number)).Nodup
    | .error .panic => False

section

variable {db₁ : Database} {run : AnalysisRunId} {localId : SteamId} {known : Prop}
variable {R : Step → Moment → Database → Prop} {job : ImportJobId} {sha256 : Digest}
variable {parsed : ParsedOutput}

theorem persistAvailable_ends {analysis : Analysis.AnalysisReceipt}
    (hrun : hasRun db₁ run) (hknown : hasPlayer db₁ localId ↔ known)
    (hR : ∀ step : Step, step.analyzes → ∀ moment db, Frame db₁ db → R step moment db)
    (ha : Analysis.analyze parsed localId = .ok analysis) :
    Ends (π := π) env (known ∧ (∀ round ∈ analysis.rounds, round.number < 2 ^ 63) ∧
        analysis.ratingReceipt.ratingBp.isSome)
      (Unrated db₁ run []) (persistAvailable env job run sha256 localId analysis)
      (fun outcome db => Reports parsed localId job sha256 outcome ∧
        Rated db₁ run localId db) R := by
  have ⟨_, hanalyzed⟩ := Analysis.analyze_eq_ok ha
  have hnumbers := (Analysis.buildRounds_eq_ok hanalyzed.order hanalyzed.rounds).1
  have hnodup : (analysis.rounds.map (·.number)).Nodup := hnumbers ▸ List.nodup_range'
  have hrounds : Ends (π := π) env _ _
      (forEach (storeRound env run localId) 0 analysis.rounds) _ R :=
    storeRounds_ends hrun hknown hR hnodup
  unfold persistAvailable
  cases hbp : analysis.ratingReceipt.ratingBp
  case none =>
    have hfail : ∀ error P, Ends (π := π) env False P (fail error) (fun (outcome : ImportOutcome)
        db => Reports parsed localId job sha256 outcome ∧ Rated db₁ run localId db) R :=
      fun _ _ => Settles.fail fun _ _ => id
    exact (hrounds.bind fun _ => hfail _ _).congr (by simp)
  case some bp =>
    have hwell : ∀ vector, Ends (π := π) env True (Weighing db₁ run localId vector [])
        (forEach (storeComponent env run localId vector) 0
          (analysis.ratingReceipt.componentReceipts.getD []))
        (fun _ => Rated db₁ run localId) R := by
      intro vector
      cases hc : analysis.ratingReceipt.componentReceipts
      case none => exact storeComponents_ends hrun hR List.nodup_nil (by simp)
      case some receipts =>
        have ⟨hkinds, hreceipts⟩ :=
          Domain.calculateRating_componentReceipts hanalyzed.rating hc
        exact storeComponents_ends hrun hR hkinds hreceipts
    refine (hrounds.bind fun _ => (addRatingReceipt_ends hrun hR rfl).seq fun receipt =>
      (persistVector_ends hrun hknown hR).bind fun vector => (hwell vector).map fun _ _ h =>
        ⟨⟨rfl, rfl, analysis, bp, ha, hbp, rfl⟩, h⟩).congr ?_
    constructor
    · exact fun ⟨h, hk, _⟩ => ⟨hk, fun round hround => (h round hround).1, rfl⟩
    · exact fun ⟨hk, h, _⟩ => ⟨fun round hround => ⟨h round hround, hk⟩, hk, trivial⟩

theorem persistAnalysis_ends (hrun : hasRun db₁ run) (hknown : hasPlayer db₁ localId ↔ known)
    (hR : ∀ step : Step, step.analyzes → ∀ moment db, Frame db₁ db → R step moment db) :
    Ends (π := π) env (Recordable parsed localId known) (Unrated db₁ run [])
      (persistAnalysis env job run sha256 localId parsed)
      (fun outcome db => Reports parsed localId job sha256 outcome ∧
        Rated db₁ run localId db) R := by
  unfold persistAnalysis Recordable
  rcases ha : Analysis.analyze parsed localId with (reason | _) | analysis
  case error.unavailable =>
    refine ((persistUnavailable_ends hrun hknown hR).map fun _ _ h => ?_).congr and_comm
    exact ⟨⟨rfl, rfl, ha⟩, h⟩
  case error.panic => exact Settles.fail fun _ _ h => h.2
  case ok => exact persistAvailable_ends hrun hknown hR ha

end

end Pipeline
