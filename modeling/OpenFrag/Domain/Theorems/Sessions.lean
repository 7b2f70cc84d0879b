import Mathlib.Data.List.Chain
import Mathlib.Data.List.Forall2
import OpenFrag.Domain.Sessions
import OpenFrag.Domain.Theorems.Baseline

open List

namespace Domain

-- The session of a group of matches: its first start and its last end.
structure Session.Spans (s : Session) (group : List TimedMatch) : Prop where
  matchIds : s.matchIds = group.map (·.1.matchId)
  start    : ∃ first, group.head? = some first ∧ s.startUtcMs = first.2.startUtcMs
  stop     : ∃ last, group.getLast? = some last ∧ s.endUtcMs = last.2.endUtcMs

-- The next match of a session starts after the one before it, by at most the gap.
def Follows (m m' : TimedMatch) : Prop :=
  m.2.endUtcMs < m'.2.startUtcMs ∧
  m'.2.startUtcMs.toNat - m.2.endUtcMs.toNat ≤ sessionGapMs

def Apart (s s' : Session) : Prop :=
  s.endUtcMs.toNat + sessionGapMs < s'.startUtcMs.toNat

def overlap (m : TimedMatch) : CohortExclusion :=
  ⟨m.1.matchId, .overlappingChronology⟩

-- What holds of the sessions after each round of the loop over the matches so far.
structure Groups (placed : List TimedMatch) (g : SessionGrouping) (invalid : List CohortExclusion)
    (groups : List (List TimedMatch)) (overlaps : List TimedMatch) : Prop where
  spans     : Forall₂ Session.Spans g.sessions groups
  partition : (groups.flatten ++ overlaps).Perm placed
  excluded  : g.exclusions = invalid ++ overlaps.map overlap
  follows   : ∀ group ∈ groups, group.IsChain Follows
  apart     : g.sessions.IsChain Apart

section

variable {placed : List TimedMatch} {g : SessionGrouping} {invalid : List CohortExclusion}
  {groups : List (List TimedMatch)} {overlaps : List TimedMatch} {m : TimedMatch} {s : Session}

theorem Session.open_spans (m : TimedMatch) : (Session.open m).Spans [m] :=
  ⟨rfl, ⟨m, rfl, rfl⟩, ⟨m, rfl, rfl⟩⟩

theorem Session.Spans.extend {group : List TimedMatch} (h : s.Spans group) (m : TimedMatch) :
    (s.extend m).Spans (group ++ [m]) := by
  have ⟨first, hfirst, hstart⟩ := h.start
  refine ⟨by simp [Session.extend, h.matchIds], ⟨first, ?_, hstart⟩, ⟨m, by simp, rfl⟩⟩
  simp [head?_append, hfirst]

theorem forall₂_concat_left {α β : Type _} {R : α → β → Prop} {as : List α} {a : α} {bs : List β}
    (h : Forall₂ R (as ++ [a]) bs) : ∃ bs' b, Forall₂ R as bs' ∧ R a b ∧ bs = bs' ++ [b] := by
  induction as generalizing bs
  case nil =>
    cases h
    case cons b bs hab hnil =>
      cases hnil
      exact ⟨[], b, .nil, hab, rfl⟩
  case cons a' as ih =>
    cases h
    case cons b bs hab has =>
      have ⟨bs', b', h₁, h₂, heq⟩ := ih has
      exact ⟨b :: bs', b', .cons hab h₁, h₂, by rw [heq, cons_append]⟩

theorem Groups.start (invalid : List CohortExclusion) :
    Groups [] ⟨[], invalid⟩ invalid [] [] :=
  ⟨.nil, .nil, by simp, by simp, .nil⟩

-- A match that opens a session of its own.
theorem Groups.opened (h : Groups placed g invalid groups overlaps)
    (hlast : ∀ current ∈ g.sessions.getLast?, Apart current (.open m)) :
    Groups (placed ++ [m]) { g with sessions := g.sessions ++ [.open m] } invalid
      (groups ++ [[m]]) overlaps := by
  constructor
  case spans => exact rel_append h.spans (.cons (Session.open_spans m) .nil)
  case partition =>
    rw [flatten_append, flatten_singleton, append_assoc]
    exact (perm_append_comm.append_left _).trans (by
      rw [← append_assoc]
      exact h.partition.append_right [m])
  case excluded => exact h.excluded
  case follows =>
    intro group hgroup
    cases mem_append.mp hgroup
    case inl hmem => exact h.follows group hmem
    case inr hmem =>
      rw [mem_singleton.mp hmem]
      exact .singleton m
  case apart =>
    rw [isChain_append]
    exact ⟨h.apart, .singleton _, fun s hs s' hs' => by
      cases hs'
      exact hlast s hs⟩

theorem Groups.extended {current : Session} (h : Groups placed g invalid groups overlaps)
    (hlast : g.sessions.getLast? = some current) (hlt : current.endUtcMs < m.2.startUtcMs)
    (hgap : m.2.startUtcMs.toNat - current.endUtcMs.toNat ≤ sessionGapMs) :
    ∃ groups', Groups (placed ++ [m]) { g with sessions := g.sessions.dropLast ++ [current.extend m] }
      invalid groups' overlaps := by
  have ⟨before, hbefore⟩ := getLast?_eq_some_iff.mp hlast
  have hspans := h.spans
  have hapart := h.apart
  rw [hbefore] at hspans hapart
  obtain ⟨groups₁, group, h₁, hgroup, rfl⟩ := forall₂_concat_left hspans
  have ⟨last, hlast', hend⟩ := hgroup.stop
  refine ⟨groups₁ ++ [group ++ [m]], ?_⟩
  simp only [hbefore, dropLast_concat]
  constructor
  case spans => exact rel_append h₁ (.cons (hgroup.extend m) .nil)
  case partition =>
    have hpart := h.partition
    simp only [flatten_append, flatten_singleton, append_assoc] at hpart ⊢
    refine Perm.trans ?_ (hpart.append_right [m])
    simp only [append_assoc]
    exact (perm_append_comm.append_left _).append_left _
  case excluded => exact h.excluded
  case follows =>
    intro group' hmem
    cases mem_append.mp hmem
    case inl hmem => exact h.follows group' (mem_append_left _ hmem)
    case inr hmem =>
      rw [mem_singleton.mp hmem, isChain_append]
      refine ⟨h.follows group (by simp), .singleton m, fun a ha b hb => ?_⟩
      cases hb
      rw [hlast'] at ha
      cases ha
      exact ⟨hend ▸ hlt, hend ▸ hgap⟩
  case apart =>
    rw [isChain_append] at hapart ⊢
    exact ⟨hapart.1, .singleton _, fun s hs s' hs' => by
      cases hs'
      exact hapart.2.2 s hs current (by simp)⟩

theorem Groups.overlapped (h : Groups placed g invalid groups overlaps) (m : TimedMatch) :
    Groups (placed ++ [m]) { g with exclusions := g.exclusions ++ [overlap m] } invalid groups
      (overlaps ++ [m]) where
  spans := h.spans
  partition := by
    rw [← append_assoc]
    exact h.partition.append_right [m]
  excluded := by simp [h.excluded]
  follows := h.follows
  apart := h.apart

theorem Groups.place (h : Groups placed g invalid groups overlaps) (m : TimedMatch) :
    ∃ groups' overlaps', Groups (placed ++ [m]) (g.place m) invalid groups' overlaps' := by
  unfold SessionGrouping.place
  split
  case h_1 hnone => exact ⟨_, _, h.opened (by simp [hnone])⟩
  case h_2 current hlast =>
    split
    case isTrue => exact ⟨_, _, h.overlapped m⟩
    case isFalse hlt =>
      have hlt := UInt64.not_le.mp hlt
      have hsub : (m.2.startUtcMs - current.endUtcMs).toNat =
          m.2.startUtcMs.toNat - current.endUtcMs.toNat :=
        UInt64.toNat_sub_of_le _ _ (UInt64.le_of_lt hlt)
      rw [hsub]
      split
      case isTrue hgap =>
        have ⟨groups', h'⟩ := h.extended hlast hlt hgap
        exact ⟨groups', _, h'⟩
      case isFalse hgap =>
        refine ⟨_, _, h.opened fun s hs => ?_⟩
        rw [hlast] at hs
        cases hs
        simp only [Apart, Session.open]
        omega

theorem Groups.foldl (h : Groups placed g invalid groups overlaps) (matches_ : List TimedMatch) :
    ∃ groups' overlaps', Groups (placed ++ matches_) (matches_.foldl SessionGrouping.place g) invalid
      groups' overlaps' := by
  induction matches_ generalizing placed g groups overlaps
  case nil => exact ⟨groups, overlaps, by simpa using h⟩
  case cons m matches_ ih =>
    have ⟨groups₁, overlaps₁, h₁⟩ := h.place m
    have ⟨groups₂, overlaps₂, h₂⟩ := ih h₁
    exact ⟨groups₂, overlaps₂, by simpa using h₂⟩

-- The exclusions of the loop come after the ones before it, and no session depends on them.
theorem SessionGrouping.place_exclusions (sessions : List Session)
    (exclusions exclusions' : List CohortExclusion) (m : TimedMatch) :
    (SessionGrouping.mk sessions (exclusions ++ exclusions')).place m =
      ⟨((SessionGrouping.mk sessions exclusions').place m).sessions,
        exclusions ++ ((SessionGrouping.mk sessions exclusions').place m).exclusions⟩ := by
  unfold SessionGrouping.place
  dsimp only
  split
  case h_1 => rfl
  case h_2 =>
    split
    case isTrue => simp
    case isFalse => split <;> rfl

theorem foldl_exclusions (sessions : List Session) (exclusions exclusions' : List CohortExclusion)
    (placing : List TimedMatch) :
    placing.foldl SessionGrouping.place ⟨sessions, exclusions ++ exclusions'⟩ =
      ⟨(placing.foldl SessionGrouping.place ⟨sessions, exclusions'⟩).sessions,
        exclusions ++ (placing.foldl SessionGrouping.place ⟨sessions, exclusions'⟩).exclusions⟩ := by
  induction placing generalizing sessions exclusions'
  case nil => rfl
  case cons m placing ih =>
    rw [foldl_cons, foldl_cons, SessionGrouping.place_exclusions]
    exact ih _ _

def Ends (limit : Nat) (s : Session) : Bool :=
  s.endUtcMs.toNat + sessionGapMs < limit

theorem ends_eq_false {limit : Nat} (h : limit ≤ s.endUtcMs.toNat + sessionGapMs) :
    Ends limit s = false := by
  simpa [Ends] using h

-- A later match does not touch the sessions that ended before the gap to it.
theorem place_filter {limit : Nat} (g : SessionGrouping) (hlimit : limit ≤ m.2.startUtcMs.toNat)
    (hvalid : m.2.startUtcMs ≤ m.2.endUtcMs) :
    (g.place m).sessions.filter (Ends limit) = g.sessions.filter (Ends limit) := by
  have hle : m.2.startUtcMs.toNat ≤ m.2.endUtcMs.toNat := UInt64.le_iff_toNat_le.mp hvalid
  have hopen : Ends limit (.open m) = false :=
    ends_eq_false ((hlimit.trans hle).trans (by simp [Session.open]))
  unfold SessionGrouping.place
  split
  case h_1 => simp [hopen]
  case h_2 current hlast =>
    split
    case isTrue => rfl
    case isFalse hlt =>
      have hlt := UInt64.not_le.mp hlt
      have hsub : (m.2.startUtcMs - current.endUtcMs).toNat =
          m.2.startUtcMs.toNat - current.endUtcMs.toNat :=
        UInt64.toNat_sub_of_le _ _ (UInt64.le_of_lt hlt)
      rw [hsub]
      split
      case isTrue hgap =>
        have ⟨before, hbefore⟩ := getLast?_eq_some_iff.mp hlast
        have hcurrent : Ends limit current = false := ends_eq_false (by omega)
        have hextended : Ends limit (current.extend m) = false :=
          ends_eq_false ((hlimit.trans hle).trans (by simp [Session.extend]))
        simp [hbefore, hcurrent, hextended]
      case isFalse => simp [hopen]

theorem foldl_filter {limit : Nat} {placing : List TimedMatch} (g : SessionGrouping)
    (h : ∀ m ∈ placing, limit ≤ m.2.startUtcMs.toNat ∧ m.2.startUtcMs ≤ m.2.endUtcMs) :
    (placing.foldl SessionGrouping.place g).sessions.filter (Ends limit) =
      g.sessions.filter (Ends limit) := by
  induction placing generalizing g
  case nil => rfl
  case cons m placing ih =>
    have ⟨hlimit, hvalid⟩ := h m mem_cons_self
    rw [foldl_cons, ih _ fun m' hm' => h m' (mem_cons_of_mem m hm'), place_filter g hlimit hvalid]

end

section

variable {history history' pre post : List HistoryMatch} {item : HistoryMatch} {m : TimedMatch}

theorem timed_eq_ok_iff : timed item = .ok m ↔
    m.1 = item ∧ item.interval = some m.2 ∧ m.2.startUtcMs ≤ m.2.endUtcMs := by
  unfold timed
  have ⟨item', interval'⟩ := m
  cases item.interval with
  | none => simp
  | some interval =>
    by_cases h : interval.startUtcMs > interval.endUtcMs
    case pos =>
      simp only [h, if_true]
      constructor
      · intro h
        cases h
      · intro ⟨_, heq, hle⟩
        cases heq
        exact absurd hle (UInt64.not_le.mpr h)
    case neg =>
      simp only [h, if_false, Except.ok.injEq, Prod.mk.injEq, Option.some.injEq]
      constructor
      · intro ⟨hitem, hinterval⟩
        subst hitem hinterval
        exact ⟨rfl, rfl, UInt64.not_lt.mp h⟩
      · exact fun ⟨hitem, hinterval, _⟩ => ⟨hitem.symm, hinterval⟩

theorem mem_validMatches : m ∈ validMatches history ↔
    m.1 ∈ history ∧ m.1.interval = some m.2 ∧ m.2.startUtcMs ≤ m.2.endUtcMs := by
  simp only [validMatches, mem_filterMap]
  constructor
  case mp =>
    rintro ⟨item, hitem, hm⟩
    cases ht : timed item with
    | error reason => simp [ht, Except.toOption] at hm
    | ok m' =>
      simp only [ht, Except.toOption, Option.some.injEq] at hm
      subst hm
      obtain ⟨heq, h⟩ := timed_eq_ok_iff.mp ht
      exact ⟨heq ▸ hitem, heq ▸ h⟩
  case mpr =>
    rintro ⟨hmem, h⟩
    exact ⟨m.1, hmem, by simp [timed_eq_ok_iff.mpr ⟨rfl, h⟩, Except.toOption]⟩

theorem validMatches_perm (history : List HistoryMatch) : ∃ others,
    ((validMatches history).map (·.1) ++ others).Perm history ∧
    (invalidMatches history).map (·.matchId) = others.map (·.matchId) := by
  induction history
  case nil => exact ⟨[], by simp [validMatches, invalidMatches]⟩
  case cons item history ih =>
    have ⟨others, hperm, hids⟩ := ih
    cases ht : timed item with
    | ok m =>
      have ⟨hitem, _⟩ := timed_eq_ok_iff.mp ht
      refine ⟨others, ?_, ?_⟩
      · simpa [validMatches, ht, Except.toOption, hitem] using hperm
      · simpa [invalidMatches, ht] using hids
    | error reason =>
      refine ⟨item :: others, ?_, ?_⟩
      · simpa [validMatches, ht, Except.toOption] using perm_middle.trans (hperm.cons item)
      · simpa [invalidMatches, ht] using hids

-- The matches of the history in sessions: each is in one of them or among the exclusions.
structure Grouped (history : List HistoryMatch) (g : SessionGrouping)
    (groups : List (List TimedMatch)) (others : List HistoryMatch) : Prop where
  spans     : Forall₂ Session.Spans g.sessions groups
  partition : (groups.flatten.map (·.1) ++ others).Perm history
  excluded  : g.exclusions.map (·.matchId) = others.map (·.matchId)
  intervals : ∀ group ∈ groups, ∀ m ∈ group,
    m.1.interval = some m.2 ∧ m.2.startUtcMs ≤ m.2.endUtcMs
  ordered   : ∀ group ∈ groups, group.Pairwise fun m m' => m.2.endUtcMs < m'.2.startUtcMs
  follows   : ∀ group ∈ groups, group.IsChain Follows
  apart     : g.sessions.IsChain Apart

theorem ordered_of_follows {group : List TimedMatch} (h : group.IsChain Follows)
    (hvalid : ∀ m ∈ group, m.2.startUtcMs ≤ m.2.endUtcMs) :
    group.Pairwise fun m m' => m.2.endUtcMs < m'.2.startUtcMs := by
  induction group
  case nil => exact .nil
  case cons m group ih =>
    have htail := ih h.tail fun m' hm' => hvalid m' (mem_cons_of_mem m hm')
    refine pairwise_cons.mpr ⟨?_, htail⟩
    cases group
    case nil => simp
    case cons m₁ group =>
      have hfirst := (isChain_cons_cons.mp h).1.1
      have hvalid₁ := hvalid m₁ (mem_cons_of_mem m mem_cons_self)
      intro m' hm'
      cases hm'
      case head => exact hfirst
      case tail hm' =>
        have hlast := (pairwise_cons.mp htail).1 m' hm'
        simp only [UInt64.lt_iff_toNat_lt, UInt64.le_iff_toNat_le] at hfirst hvalid₁ hlast ⊢
        omega

theorem groupSessions_grouped (history : List HistoryMatch) :
    ∃ groups others, Grouped history (groupSessions history) groups others := by
  have ⟨groups, overlaps, h⟩ := (Groups.start (invalidMatches history)).foldl
    ((validMatches history).ranked TimedMatch.key)
  have ⟨invalid, hperm, hids⟩ := validMatches_perm history
  have hvalid := (nil_append _ ▸ h.partition).trans (ranked_perm TimedMatch.key (validMatches history))
  have hmem {group : List TimedMatch} (hgroup : group ∈ groups) {m : TimedMatch} (hm : m ∈ group) :=
    mem_validMatches.mp (hvalid.mem_iff.mp
      (mem_append_left overlaps (mem_flatten.mpr ⟨group, hgroup, hm⟩)))
  refine ⟨groups, invalid ++ overlaps.map (·.1), h.spans, ?_, ?_, ?_, ?_, h.follows, h.apart⟩
  · refine (perm_append_comm.append_left _).trans ?_
    rw [← append_assoc, ← map_append]
    exact ((hvalid.map _).append_right invalid).trans hperm
  · have hex := h.excluded
    change (groupSessions history).exclusions = _ at hex
    simp [hex, hids, overlap, Function.comp_def]
  · exact fun group hgroup m hm => (hmem hgroup hm).2
  · exact fun group hgroup =>
      ordered_of_follows (h.follows group hgroup) fun m hm => (hmem hgroup hm).2.2

-- No two matches with an interval have the same start, end and demo.
def KeysDistinct (history : List HistoryMatch) : Prop :=
  (history.filterMap fun item => item.interval.map (startKey item)).Nodup

instance (history : List HistoryMatch) : Decidable (KeysDistinct history) :=
  inferInstanceAs (Decidable (Nodup _))

theorem KeysDistinct.valid (h : KeysDistinct history) :
    ((validMatches history).map TimedMatch.key).Nodup := by
  refine Nodup.sublist ?_ h
  induction history
  case nil => exact .slnil
  case cons item history ih =>
    have ih := ih (h.sublist ((sublist_cons_self item history).filterMap _))
    cases hi : item.interval with
    | none => simpa [validMatches, timed, hi, Except.toOption] using ih
    | some interval =>
      by_cases hlt : interval.startUtcMs > interval.endUtcMs
      case pos => simpa [validMatches, timed, hi, hlt, Except.toOption] using ih.cons (startKey item interval)
      case neg =>
        simpa [validMatches, timed, hi, hlt, Except.toOption, TimedMatch.key] using ih

theorem groupSessions_eq (history : List HistoryMatch) : groupSessions history =
    ⟨(((validMatches history).ranked TimedMatch.key).foldl SessionGrouping.place ⟨[], []⟩).sessions,
      invalidMatches history ++ (((validMatches history).ranked TimedMatch.key).foldl
        SessionGrouping.place ⟨[], []⟩).exclusions⟩ := by
  rw [← foldl_exclusions, append_nil]
  rfl

theorem groupSessions_perm (hkeys : KeysDistinct history) (h : history.Perm history') :
    (groupSessions history').sessions = (groupSessions history).sessions ∧
    (groupSessions history').exclusions.Perm (groupSessions history).exclusions := by
  have hsorted := ranked_eq_of_perm (h.filterMap fun item => (timed item).toOption) hkeys.valid
  change (validMatches history).ranked _ = (validMatches history').ranked _ at hsorted
  rw [groupSessions_eq history, groupSessions_eq history', hsorted]
  exact ⟨rfl, (h.symm.filterMap _).append_right _⟩

theorem groupSessions_insert {interval : MatchInterval} (h : item.interval = some interval) :
    (groupSessions (pre ++ item :: post)).sessions.filter (Ends interval.startUtcMs.toNat) =
      (groupSessions (pre ++ post)).sessions.filter (Ends interval.startUtcMs.toNat) := by
  rw [groupSessions_eq, groupSessions_eq]
  cases ht : timed item with
  | error reason => simp [validMatches, ht, Except.toOption]
  | ok m =>
    obtain ⟨hitem, hinterval, hvalid⟩ := timed_eq_ok_iff.mp ht
    have hstart : interval = m.2 := by
      rw [h] at hinterval
      exact Option.some.inj hinterval
    have hwith : validMatches (pre ++ item :: post) =
        validMatches pre ++ m :: validMatches post := by
      simp [validMatches, ht, Except.toOption]
    have hwithout : validMatches (pre ++ post) = validMatches pre ++ validMatches post := by
      simp [validMatches]
    obtain ⟨s, t, hs, hst, _⟩ := ranked_insert TimedMatch.key (validMatches pre) m (validMatches post)
    have hsorted := ranked_pairwise TimedMatch.key (validMatches pre ++ m :: validMatches post)
    rw [hst, pairwise_append, pairwise_cons] at hsorted
    have hlater : ∀ m' ∈ m :: t, m.2.startUtcMs.toNat ≤ m'.2.startUtcMs.toNat ∧
        m'.2.startUtcMs ≤ m'.2.endUtcMs := by
      intro m' hm'
      have hmem : m' ∈ validMatches (pre ++ item :: post) := by
        rw [hwith, ← mem_ranked TimedMatch.key, hst]
        exact mem_append_right s hm'
      refine ⟨?_, (mem_validMatches.mp hmem).2.2⟩
      cases hm'
      case head => exact le_rfl
      case tail hm' => exact (Prod.Lex.le_iff.mp (hsorted.2.1.1 m' hm')).elim le_of_lt (·.1.le)
    rw [hwith, hwithout, hs, hst, hstart, foldl_append, foldl_append,
      foldl_filter _ hlater, foldl_filter _ fun m' hm' => hlater m' (mem_cons_of_mem m hm')]

end

-- The grouping of every history, for every order of it, and with one more match.
theorem groupSessions_laws (history : List HistoryMatch) :
    (∃ groups others, Grouped history (groupSessions history) groups others) ∧
    (KeysDistinct history → ∀ history', history.Perm history' →
      (groupSessions history').sessions = (groupSessions history).sessions ∧
      (groupSessions history').exclusions.Perm (groupSessions history).exclusions) ∧
    ∀ pre item post interval, history = pre ++ post → item.interval = some interval →
      (groupSessions (pre ++ item :: post)).sessions.filter (Ends interval.startUtcMs.toNat) =
        (groupSessions history).sessions.filter (Ends interval.startUtcMs.toNat) := by
  refine ⟨groupSessions_grouped history, fun hkeys history' => groupSessions_perm hkeys, ?_⟩
  intro pre item post interval hsplit hinterval
  rw [hsplit]
  exact groupSessions_insert hinterval

def reversedMatch (matchId : String) : HistoryMatch :=
  { ratedMatch matchId matchId 0 demoRating with interval := some ⟨200, 100⟩ }

-- The exclusions are in the order of the history.
theorem groupSessions_swapped :
    KeysDistinct [reversedMatch "a", reversedMatch "b"] ∧
    [reversedMatch "a", reversedMatch "b"].Perm [reversedMatch "b", reversedMatch "a"] ∧
    groupSessions [reversedMatch "b", reversedMatch "a"] ≠
      groupSessions [reversedMatch "a", reversedMatch "b"] := by
  refine ⟨by decide, .swap _ _ _, fun h => ?_⟩
  exact absurd (congrArg SessionGrouping.exclusions h) (by decide)

end Domain
