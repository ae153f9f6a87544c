import BloodStakes.Proofs.Nesting
import BloodStakes.Proofs.Settling

/-!
The books and the history of what was granted. The history alone says how many hands were started
and how each of them ended; the books say the same.
-/
namespace BloodStakes

namespace Grant

/-- Whether a hand that was open, or was started by the request, is closed after it. -/
def closesHand (grant : Grant) : Bool :=
  (grant.request = .startHand || grant.before.handOpen) && !grant.report.table.handOpen

/-- How the hand ended that the grant closed. -/
def result? (grant : Grant) : Option HandStatus :=
  if grant.closesHand then grant.report.table.hand?.map Hand.status else none

/-- The results that were announced. -/
def announced (grant : Grant) : List HandStatus := grant.report.events.filterMap Event.result?

/-- A hand that is closed is announced once, with its status, and has gone the way of its round if
that is over; nothing is announced if no hand is closed. -/
structure Settled (grant : Grant) : Prop where
  closed : grant.closesHand = true → ∃ hand, grant.report.table.hand? = some hand ∧
    hand.status ≠ .inProgress ∧ grant.announced = [hand.status] ∧
    ∀ round, grant.report.table.round? = some round → round.status ≠ .inProgress →
      hand.status = if round.status = .won then .won else .lost
  kept : grant.closesHand = false → grant.announced = []

end Grant

/-- How the hands ended, the latest first. -/
def resultsOf (grants : List Grant) : List HandStatus := grants.filterMap Grant.result?

def handsStarted (grants : List Grant) : Nat :=
  grants.countP fun grant => grant.request = .startHand

/-- What has been granted since the current round was started. -/
def currentRound (history : List Grant) : List Grant :=
  history.takeWhile fun grant => grant.request ≠ .startRound

/-- A grant enters the result of the hand it closes in the books, and every hand it starts is
closed or left open. -/
structure Grant.Entered (grant : Grant) : Prop where
  books : grant.report.table.books? =
    grant.before.books?.map fun game => grant.result?.elim game game.record
  hands : handsStarted [grant] + grant.before.handOpen.toNat =
    grant.result?.toList.length + grant.report.table.handOpen.toNat

variable {grant : Grant}

theorem Grant.closes_of_hand {hand : Hand}
    (hopen : grant.request = .startHand ∨ grant.before.handOpen = true)
    (hhand : grant.report.table.hand? = some hand) (hstatus : hand.status ≠ .inProgress) :
    grant.report.table.handOpen = false ∧ grant.closesHand = true ∧
      grant.result? = some hand.status := by
  have hclosed : grant.report.table.handOpen = false := by
    simp [Table.handOpen, hhand, Hand.isInProgress, hstatus]
  have hcloses : grant.closesHand = true := by
    obtain hopen | hopen := hopen <;> simp [Grant.closesHand, hopen, hclosed]
  refine ⟨hclosed, hcloses, ?_⟩
  simp [Grant.result?, hcloses, hhand]

theorem Grant.keeps_of_handOpen (hopen : grant.report.table.handOpen =
    (decide (grant.request = .startHand) || grant.before.handOpen)) :
    grant.closesHand = false ∧ grant.result? = none := by
  have hkept : grant.closesHand = false := by
    unfold Grant.closesHand
    rw [hopen]
    exact Bool.and_not_self _
  exact ⟨hkept, by simp [Grant.result?, hkept]⟩

theorem Grant.settled_of_kept (hkept : grant.closesHand = false)
    (hannounced : grant.announced = []) : grant.Settled where
  closed hcloses := by
    rw [hkept] at hcloses
    cases hcloses
  kept _ := hannounced

section
variable {rng : Rng} {s' : Session}
  (h : Session.Settles { table := grant.before, rng } grant.request s')
  (htable : grant.report.table = s'.table)
include h htable

theorem Session.Settles.settled (hevents : grant.report.events = s'.events) : grant.Settled := by
  have hannounced : grant.announced = s'.results := congrArg (List.filterMap Event.result?) hevents
  cases h with
  | @closes hand hopen hhand hstatus hbooks hresults hverdict =>
    have hhand' : grant.report.table.hand? = some hand := htable ▸ hhand
    obtain ⟨-, hcloses, -⟩ := Grant.closes_of_hand hopen hhand' hstatus
    refine ⟨fun _ => ⟨hand, hhand', hstatus, hannounced.trans hresults, ?_⟩, fun hkept => ?_⟩
    · intro round hround hover
      rw [htable] at hround
      have hover' : s'.roundTerminal = true := by
        simpa [Session.roundTerminal, hround, Round.isTerminal, Round.isInProgress] using hover
      simpa [Session.verdict, hround] using hverdict hover'
    · rw [hcloses] at hkept
      cases hkept
  | keeps hopen hbooks hresults =>
    have hopen' : grant.report.table.handOpen =
        (decide (grant.request = .startHand) || grant.before.handOpen) := htable ▸ hopen
    obtain ⟨hkept, -⟩ := Grant.keeps_of_handOpen hopen'
    exact Grant.settled_of_kept hkept (hannounced.trans hresults)

theorem Session.Settles.entered
    (hidle : grant.request = .startHand → grant.before.handOpen = false) : grant.Entered := by
  cases h with
  | @closes hand hopen hhand hstatus hbooks hresults hverdict =>
    obtain ⟨hclosed, -, hresult⟩ := Grant.closes_of_hand hopen (htable ▸ hhand) hstatus
    refine ⟨?_, ?_⟩
    · rw [hresult, htable]
      exact hbooks
    · by_cases hstart : grant.request = .startHand
      · simp [handsStarted, hstart, hidle hstart, hresult, hclosed]
      · have hopen' : grant.before.handOpen = true := hopen.resolve_left hstart
        simp [handsStarted, hstart, hopen', hresult, hclosed]
  | keeps hopen hbooks hresults =>
    have hopen' : grant.report.table.handOpen =
        (decide (grant.request = .startHand) || grant.before.handOpen) := htable ▸ hopen
    obtain ⟨-, hresult⟩ := Grant.keeps_of_handOpen hopen'
    refine ⟨?_, ?_⟩
    · rw [hresult, htable]
      simpa using hbooks
    · by_cases hstart : grant.request = .startHand
      · simp [handsStarted, hstart, hidle hstart, hresult, hopen']
      · simp [handsStarted, hstart, hresult, hopen']

end

theorem currentRound_startRound (h : grant.request = .startRound) (history : List Grant) :
    currentRound (grant :: history) = [] := by
  simp [currentRound, h]

theorem currentRound_cons (h : grant.request ≠ .startRound) (history : List Grant) :
    currentRound (grant :: history) = grant :: currentRound history := by
  simp [currentRound, h]

theorem resultsOf_cons (grant : Grant) (grants : List Grant) :
    resultsOf (grant :: grants) = grant.result?.toList ++ resultsOf grants := by
  unfold resultsOf
  cases hresult : grant.result? <;> simp [hresult]

theorem handsStarted_cons (grant : Grant) (grants : List Grant) :
    handsStarted (grant :: grants) = handsStarted grants + handsStarted [grant] := by
  simp [handsStarted, List.countP_cons]

/-- The books and the count of the round are those of the history, and so is every result that
was announced. -/
structure Ledger (history : List Grant) (t : Table) : Prop where
  nested : t.standing.Nested
  staked : t.handOpen = true → t.Staked
  solvent : t.Solvent
  books : ∀ game, t.books? = some game → game = .ofResults (resultsOf (currentGame history))
  hands : t.books?.isSome → handsStarted (currentGame history) =
    (resultsOf (currentGame history)).length + t.handOpen.toNat
  round : ∀ count, t.handsPlayed? = some count → count = handsStarted (currentRound history)
  settled : ∀ grant ∈ history, grant.Settled

private theorem ledger_new (player : Player) : Ledger [] { player } where
  nested := ⟨nofun, nofun, nofun⟩
  staked := nofun
  solvent := nofun
  books := nofun
  hands := nofun
  round := nofun
  settled := List.forall_mem_nil _

variable {house : House} {history : List Grant}

theorem Ledger.closed_of_startGame {s s' : Session} (h : Ledger history s.table)
    (hstart : Transition house s .startGame s') : s.table.handOpen = false := by
  rw [Bool.eq_false_iff]
  intro hopen
  have hround : s.table.standing.round? = some .inProgress := by
    have hround : s.roundInProgress = true := (h.staked hopen).round
    rw [s.roundInProgress_eq_standing] at hround
    exact of_decide_eq_true hround
  obtain ⟨game, hgame, hstatus⟩ := Option.map_eq_some_iff.mp (h.nested.round hround)
  have hidle := hstart.game_idle
  simp [hgame, Game.isInProgress, hstatus] at hidle

theorem Grant.countHands_eq {count : Nat} {before : Option Nat}
    (hround : grant.request ≠ .startRound)
    (h : grant.request.countHands before = some count) :
    ∃ played, before = some played ∧ count = played + handsStarted [grant] := by
  cases hrequest : grant.request with
  | startGame =>
    rw [hrequest] at h
    cases h
  | startRound => exact absurd hrequest hround
  | startHand =>
    rw [hrequest] at h
    obtain ⟨played, hplayed, rfl⟩ := Option.map_eq_some_iff.mp h
    exact ⟨played, hplayed, by simp [handsStarted, hrequest]⟩
  | _ =>
    rw [hrequest] at h
    exact ⟨count, h, by simp [handsStarted, hrequest]⟩

theorem Grant.Holds.handsPlayed (hgrant : grant.Holds house)
    (h : ∀ count, grant.before.handsPlayed? = some count →
      count = handsStarted (currentRound history)) {count : Nat}
    (hcount : grant.report.table.handsPlayed? = some count) :
    count = handsStarted (currentRound (grant :: history)) := by
  obtain ⟨rng, s', htransition, htable⟩ := hgrant.transition
  rw [htable, htransition.handsPlayed?] at hcount
  by_cases hstart : grant.request = .startRound
  · rw [hstart] at hcount
    cases hcount
    rw [currentRound_startRound hstart]
    rfl
  · obtain ⟨played, hplayed, rfl⟩ := Grant.countHands_eq hstart hcount
    rw [currentRound_cons hstart, handsStarted_cons grant (currentRound history), h played hplayed]

theorem Grant.Holds.ledger (hgrant : grant.Holds house) (h : Ledger history grant.before) :
    Ledger (grant :: history) grant.report.table := by
  have hsolvent := hgrant.solvent h.solvent
  have hround (count : Nat) (hcount : grant.report.table.handsPlayed? = some count) :
      count = handsStarted (currentRound (grant :: history)) :=
    hgrant.handsPlayed h.round hcount
  obtain ⟨rng, s', hrun, htable, hevents, -⟩ := hgrant
  have htransition := Play.request_transition hrun
  have hnested := htransition.nested h.nested
  have hstaked := htransition.staked h.staked
  by_cases hgame : grant.request = .startGame
  · have hopened := (hgame ▸ htransition).startGame_eq
    have hclosed : grant.before.handOpen = false := h.closed_of_startGame (hgame ▸ htransition)
    have hsettled : grant.Settled := by
      apply Grant.settled_of_kept
      · simp [Grant.closesHand, hgame, hclosed]
      · unfold Grant.announced
        rw [hevents, hopened]
        rfl
    refine ⟨htable ▸ hnested, htable ▸ hstaked, hsolvent, ?_, ?_, hround, ?_⟩
    · rw [currentGame_startGame hgame, htable, hopened]
      rintro _ ⟨⟩
      rfl
    · rw [currentGame_startGame hgame, htable, hopened]
      exact fun _ => rfl
    · exact List.forall_mem_cons.mpr ⟨hsettled, h.settled⟩
  · have hidle (hstart : grant.request = .startHand) : grant.before.handOpen = false :=
      (hstart ▸ htransition).idle
    have hsettles := htransition.settles hgame h.staked (htable ▸ hsolvent)
    have hsettled := hsettles.settled htable hevents
    obtain ⟨hbooks, hhands⟩ := hsettles.entered htable hidle
    refine ⟨htable ▸ hnested, htable ▸ hstaked, hsolvent, ?_, ?_, hround, ?_⟩
    · intro game hgame'
      rw [hbooks] at hgame'
      obtain ⟨before, hbefore, rfl⟩ := Option.map_eq_some_iff.mp hgame'
      rw [currentGame_cons hgame, resultsOf_cons, h.books before hbefore]
      cases grant.result? <;> rfl
    · intro hgame'
      rw [hbooks, Option.isSome_map] at hgame'
      have hbefore := h.hands hgame'
      rw [currentGame_cons hgame, resultsOf_cons, handsStarted_cons, List.length_append]
      omega
    · exact List.forall_mem_cons.mpr ⟨hsettled, h.settled⟩

/-- In every run the books of the current game are those of its history: every hand that was
started has been closed once or is open, the hands won and the streaks are those of the results,
and the count of the round is that of the hands started in it. Every hand that was ever closed was
announced once, and went the way of its round if that was over. -/
theorem Service.Run.books_match {service : Service} {log : List Grant}
    (h : service.Run house log) {player : PlayerId} {table : Table}
    (hload : service.store.load player = .ok table) :
    (∀ game, table.game? = some game →
      handsStarted (currentGame (historyOf player log)) =
          game.handsWon + game.handsLost + (if table.handOpen then 1 else 0) ∧
        game.Reflects (resultsOf (currentGame (historyOf player log)))) ∧
    (∀ round, table.round? = some round →
      round.handsPlayed = handsStarted (currentRound (historyOf player log))) ∧
    ∀ grant ∈ historyOf player log, grant.Settled := by
  have hledger : Ledger (historyOf player log) table :=
    Run.holds (fun player _ => ledger_new player) (fun _ _ hbefore hgrant => hgrant.ledger hbefore)
      h hload
  refine ⟨fun game hgame => ?_, fun round hround => ?_, hledger.settled⟩
  · have hbooks : table.books? = some game.books := by simp [Table.books?, hgame]
    have hreflects := Game.reflects_of_books (hledger.books game.books hbooks)
    refine ⟨?_, hreflects⟩
    rw [hledger.hands (by simp [hbooks]), hreflects.played]
    cases table.handOpen <;> rfl
  · exact hledger.round _ (by simp [Table.handsPlayed?, hround])

/-- Of three hands in two rounds one was won, one was given up and one is open. -/
theorem Service.Run.books_match_shortRun :
    ∃ table game, shortRun.1.store.load 1 = .ok table ∧ table.game? = some game ∧
      game.handsWon = 1 ∧ game.handsLost = 1 ∧ table.handOpen = true ∧
      handsStarted (currentGame (historyOf 1 shortRun.2)) = 3 ∧
      game.Reflects (resultsOf (currentGame (historyOf 1 shortRun.2))) := by
  have hstored : (shortRun.1.store.load 1).toOption.any (fun table =>
      table.handOpen && table.game?.any fun game =>
        game.handsWon = 1 && game.handsLost = 1) = true := by
    decide +kernel
  obtain ⟨table, hload, htable⟩ := exists_of_any_toOption hstored
  obtain ⟨hopen, hgame⟩ := Bool.and_eq_true_iff.mp htable
  obtain ⟨game, hgame, hcounts⟩ := Option.any_eq_true _ _ |>.mp hgame
  simp only [Bool.and_eq_true, decide_eq_true_eq] at hcounts
  obtain ⟨hwon, hlost⟩ := hcounts
  obtain ⟨hbooks, -, -⟩ := books_match shortRun_run hload
  obtain ⟨hhands, hreflects⟩ := hbooks game hgame
  rw [hwon, hlost, hopen] at hhands
  exact ⟨table, game, hload, hgame, hwon, hlost, hopen, hhands, hreflects⟩

end BloodStakes
