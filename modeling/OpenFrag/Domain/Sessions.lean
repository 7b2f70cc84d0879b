import OpenFrag.Domain.Baseline

namespace Domain

structure Session where
  matchIds   : List String
  startUtcMs : UInt64
  endUtcMs   : UInt64
  deriving DecidableEq, Repr

structure SessionGrouping where
  sessions   : List Session
  exclusions : List CohortExclusion
  deriving DecidableEq, Repr

-- A match with its interval.
abbrev TimedMatch := HistoryMatch × MatchInterval

def TimedMatch.key (m : TimedMatch) : ℕ ×ₗ ℕ ×ₗ String :=
  startKey m.1 m.2

def timed (item : HistoryMatch) : Except CohortExclusionReason TimedMatch :=
  match item.interval with
  | none => .error .missingChronology
  | some interval =>
    if interval.startUtcMs > interval.endUtcMs then
      .error .reversedChronology
    else
      .ok (item, interval)

def validMatches (history : List HistoryMatch) : List TimedMatch :=
  history.filterMap fun item => (timed item).toOption

def invalidMatches (history : List HistoryMatch) : List CohortExclusion :=
  history.filterMap fun item =>
    match timed item with
    | .error reason => some ⟨item.matchId, reason⟩
    | .ok _         => none

def Session.open (m : TimedMatch) : Session where
  matchIds   := [m.1.matchId]
  startUtcMs := m.2.startUtcMs
  endUtcMs   := m.2.endUtcMs

def Session.extend (s : Session) (m : TimedMatch) : Session where
  matchIds   := s.matchIds ++ [m.1.matchId]
  startUtcMs := s.startUtcMs
  endUtcMs   := m.2.endUtcMs

-- One round of the loop over the sorted matches; the last session is the current one.
def SessionGrouping.place (g : SessionGrouping) (m : TimedMatch) : SessionGrouping :=
  match g.sessions.getLast? with
  | none => { g with sessions := g.sessions ++ [.open m] }
  | some current =>
    if m.2.startUtcMs ≤ current.endUtcMs then
      { g with exclusions := g.exclusions ++ [⟨m.1.matchId, .overlappingChronology⟩] }
    else if (m.2.startUtcMs - current.endUtcMs).toNat ≤ sessionGapMs then
      { g with sessions := g.sessions.dropLast ++ [current.extend m] }
    else
      { g with sessions := g.sessions ++ [.open m] }

def groupSessions (history : List HistoryMatch) : SessionGrouping :=
  ((validMatches history).ranked TimedMatch.key).foldl SessionGrouping.place
    { sessions := [], exclusions := invalidMatches history }

end Domain
