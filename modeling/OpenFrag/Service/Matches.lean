import OpenFrag.Storage.Matches
import OpenFrag.Library.Written

-- The matches that the local API tells of.
namespace Service

inductive ApiError
  | notFound
  | unavailable (error : Storage.Error)
  deriving DecidableEq, Repr

inductive RatingState
  | unavailable
  | preview
  | rated
  deriving DecidableEq, Repr

structure MatchDetail where
  id          : Storage.MatchId
  map         : Option String
  ratingState : RatingState
  rating      : Option String
  receipts    : List Storage.ReceiptId
  deriving DecidableEq, Repr

def storageError : Storage.Error → ApiError
  | .notFound _ => .notFound
  | other       => .unavailable other

def ratingState : Storage.StoredRatingAvailability → RatingState
  | .available ..   => .rated
  | .pending        => .preview
  | .unavailable .. => .unavailable

def rating (value : Storage.StoredRatingAvailability) : RatingState × Option String :=
  let state := ratingState value
  let rating :=
    match value with
    | .available _ ratingBp _ => some
      (toString (ratingBp.tdiv 100) ++ "." ++ .ofList (Decimal.padded 2 (ratingBp.natAbs % 100)))
    | _ => none
  (state, rating)

def matchDetail (db : Storage.Database) (id : Storage.MatchId) : Except ApiError MatchDetail := do
  let detail ← (Storage.matchDetail db id).mapError storageError
  let (state, rating) := rating detail.summary.rating
  return {
    id          := detail.summary.id
    map         := detail.summary.mapName
    ratingState := state
    rating
    receipts    := detail.receiptIds
  }

end Service
