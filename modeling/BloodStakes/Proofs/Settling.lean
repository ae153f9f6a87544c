import BloodStakes.Proofs.Alive
import BloodStakes.Proofs.Books
import BloodStakes.Proofs.Playing
import BloodStakes.Proofs.Pots

/-!
Every hand is settled once. A request closes the hand it finds open or opens, announces how it
ended and enters that in the books; or it leaves it open, and the books as they are.
-/
namespace BloodStakes

/-- How a hand ended, if the event announces that. -/
def Event.result? : Event → Option HandStatus
  | .handResolved status .. => some status
  | _ => none

/-- The results that have been announced, the earliest first. -/
def Session.results (s : Session) : List HandStatus := s.events.filterMap Event.result?

def Table.books? (t : Table) : Option Game := t.game?.map Game.books

def Table.handsPlayed? (t : Table) : Option Nat := t.round?.map Round.handsPlayed

/-- Whether a hand is open. -/
def Table.handOpen (t : Table) : Bool := t.hand?.any Hand.isInProgress

/-- An open hand has been staked on: it lies in a round in progress with blood on both sides. -/
structure Table.Staked (t : Table) : Prop where
  round : t.round?.any Round.isInProgress = true
  alive : t.Alive

namespace Session

variable {s s' : Session}

theorem emit_results (s : Session) {event : Event} (h : event.result? = none) :
    (s.emit event).results = s.results := by
  simp [results, emit, h]

@[simp] theorem settleRound_results (s : Session) : s.settleRound.results = s.results :=
  settleRound_filterMap (fun _ _ => rfl) (fun _ => rfl) s

theorem BloodStep.results (h : BloodStep s s') : s'.results = s.results := by
  obtain ⟨log, rfl⟩ | ⟨delta, rfl⟩ | ⟨t, rfl, hmoves⟩ := h.moves
  · exact emit_results s rfl
  · unfold changePot
    split <;> rfl
  · rw [settleRound_results]
    exact congrArg (List.filterMap Event.result?) hmoves.events

theorem Bleeds.results (h : s.Bleeds s') : s'.results = s.results := by
  induction h with
  | refl => rfl
  | tail _ step ih => exact step.results.trans ih

theorem Draws.results {cards : List CardId} (h : s.Draws cards s') : s'.results = s.results :=
  h.filterMap fun _ => rfl

theorem HandStep.results (h : s.HandStep s') : s'.results = s.results := by
  cases h with
  | flow h => exact h.bleeds.results
  | dealt => exact emit_results s rfl
  | drawn => exact emit_results s rfl
  | deal hround hhand hcount h =>
    cases h with
    | intro hhand hdraws hcount hshort => exact hdraws.results

theorem PlaysOn.results (h : s.PlaysOn s') : s'.results = s.results := by
  induction h with
  | refl => rfl
  | tail _ step ih => exact step.results.trans ih

theorem roundTerminal_of_inProgress (h : s.roundInProgress = true) : s.roundTerminal = false := by
  obtain ⟨round, hround, hopen⟩ := s.roundInProgress_iff.mp h
  simp [roundTerminal, Round.isTerminal, hround, hopen]

theorem settleRound_going {round : Round} (hround : s.table.round? = some round)
    (hopen : round.isInProgress = true) (hplayer : 0 < s.table.player.bloodPool)
    (hdaimon : 0 < round.daimonPool) : s.settleRound.roundInProgress = true := by
  have hsame : s.settleRound = s := by
    unfold settleRound
    rw [hround]
    simp [Int.not_le.mpr hplayer, Int.not_le.mpr hdaimon]
  rw [hsame]
  exact s.roundInProgress_iff.mpr ⟨round, hround, hopen⟩

theorem changePlayerPool_going {delta : Int} (hdelta : 0 ≤ delta)
    (hopen : s.roundInProgress = true) (hs : s.table.Alive) :
    (s.changePlayerPool delta).roundInProgress = true := by
  obtain ⟨round, hround, hopen'⟩ := s.roundInProgress_iff.mp hopen
  obtain ⟨hplayer, hceiling⟩ := hs.player round hround hopen'
  have hpool : 0 < clampedSum s.table.player.bloodPool delta s.ceiling := by
    rw [s.ceiling_of_round hround]
    unfold clampedSum
    omega
  apply settleRound_going
  · exact hround
  · exact hopen'
  · exact hpool
  · exact (hs.daimon round hround hopen').1

theorem changeDaimonPool_going {delta : Int} (hdelta : 0 ≤ delta)
    (hopen : s.roundInProgress = true) (hs : s.table.Alive) :
    (s.changeDaimonPool delta).roundInProgress = true := by
  obtain ⟨round, hround, hopen'⟩ := s.roundInProgress_iff.mp hopen
  obtain ⟨hdaimon, hmaximum⟩ := hs.daimon round hround hopen'
  have hpool : 0 < clampedSum round.daimonPool delta round.daimonMaximum := by
    unfold clampedSum
    omega
  simp only [changeDaimonPool, hround]
  exact settleRound_going rfl hopen' (hs.player round hround hopen').1 hpool

theorem refund_going {refund rest : Int} (hrefund : 0 ≤ refund) (hrest : 0 ≤ rest)
    (hopen : s.roundInProgress = true) (hs : s.table.Alive) :
    ((s.changePlayerPool refund).changeDaimonPool rest).roundInProgress = true :=
  changeDaimonPool_going hrest (changePlayerPool_going hrefund hopen hs)
    ((BloodStep.playerPool s refund).alive hs)

private theorem payPot_going {pot : Int} (outcome : Outcome) (hpot : 0 ≤ pot)
    (hopen : s.roundInProgress = true) (hs : s.table.Alive) :
    (s.payPot outcome pot).roundInProgress = true := by
  cases outcome with
  | won => exact changePlayerPool_going hpot hopen hs
  | lost => exact changeDaimonPool_going hpot hopen hs
  | pushed =>
    have hhalf : 0 ≤ pot.tdiv 2 := Int.tdiv_nonneg hpot (by decide)
    exact refund_going hhalf hhalf hopen hs

theorem changePlayerPool_hand? (s : Session) (delta : Int) :
    (s.changePlayerPool delta).table.hand? = s.table.hand? :=
  settleRound_hand? _

theorem changeDaimonPool_hand? (s : Session) (delta : Int) :
    (s.changeDaimonPool delta).table.hand? = s.table.hand? := by
  unfold changeDaimonPool
  split
  · rfl
  · exact settleRound_hand? _

theorem Ends.hand? {status : HandStatus} (h : s.Ends status s') :
    s'.table.hand? = s.table.hand? := by
  cases h with
  | byRound => rfl
  | payout outcome hhand hgoing =>
    cases outcome with
    | won => exact changePlayerPool_hand? _ _
    | lost => exact changeDaimonPool_hand? _ _
    | pushed => exact (changeDaimonPool_hand? _ _).trans (changePlayerPool_hand? _ _)
  | refund hhand hgoing =>
    exact (changeDaimonPool_hand? _ _).trans (changePlayerPool_hand? _ _)

/-- A hand that ends with a round that is over ends as the round did, unless its pot is in debt. -/
theorem Ends.status_eq {status : HandStatus} (h : s.Ends status s') (hround : s.table.round?.isSome)
    (halive : s.table.Alive) (hsolvent : s'.table.Solvent) (hover : s'.roundTerminal = true) :
    status = s'.verdict := by
  have hpot (hand : Hand) (hhand : s.table.hand? = some hand) : 0 ≤ hand.pot :=
    hsolvent hand (h.hand?.trans hhand)
  have hgoing (hopen : s'.roundInProgress = true) : status = s'.verdict := by
    rw [roundTerminal_of_inProgress hopen] at hover
    cases hover
  cases h with
  | byRound => rfl
  | @payout hand outcome hhand hopen =>
    exact hgoing (payPot_going outcome (hpot hand hhand)
      (roundInProgress_of_going hround hopen) halive)
  | @refund hand hhand hopen =>
    have hpot := hpot hand hhand
    have hquarter : hand.pot.tdiv 4 = hand.pot / 4 := Int.tdiv_eq_ediv_of_nonneg hpot
    refine hgoing (refund_going ?_ ?_ (roundInProgress_of_going hround hopen) halive)
    · omega
    · omega

end Session

theorem Session.PlaysOn.staked {s s' : Session} (h : s.PlaysOn s')
    (hround : s.roundInProgress = true) (halive : s.table.Alive)
    (hgoing : s'.roundTerminal = false) : s'.table.Staked where
  round := roundInProgress_of_going
    (isSome_round_of_steady h.steady ▸ isSome_round_of_inProgress hround) hgoing
  alive := h.alive halive

variable {house : House} {s s' t u : Session} {request : Request}

theorem Enters.alive_of_begins (h : Enters house s request t)
    (hbegin : t.Begins house.rules request u)
    (hs : s.table.handOpen = true → s.table.Staked) : u.table.Alive := by
  cases hbegin with
  | forfeit hopen =>
    have hover := Play.forfeit_roundTerminal hopen
    apply Table.Alive.of_idle
    rw [Bool.eq_false_iff]
    intro hgoing
    rw [Session.roundTerminal_of_inProgress hgoing] at hover
    cases hover
  | stakes hopen hround hstake => exact t.payStakes_alive _
  | move hmove =>
    cases h with
    | startHand => exact absurd rfl hmove
    | move _ hround hhand => exact (hs hhand).alive
    | equipToken hplayer hround hhand =>
      obtain ⟨loadout, rfl⟩ := Player.equipToken_eq_ok hplayer
      exact (hs hhand).alive.of_vitals rfl

theorem Transition.staked (h : Transition house s request s')
    (hs : s.table.handOpen = true → s.table.Staked)
    (hhand : s'.handInProgress = true) : s'.table.Staked := by
  cases h with
  | startGame hidle => cases hhand
  | startRound hidle hgame hopen hdaimon ht hround hshoe hfire =>
    rw [Session.handInProgress_of_steady hfire.bleeds.steady, ht] at hhand
    cases hhand
  | closed henter hbegin h =>
    obtain ⟨t, status, hplay, hstatus, hclose⟩ := h.closes
    rw [hclose.handInProgress hstatus] at hhand
    cases hhand
  | @opened t u _ henter hbegin hgoing hdeal =>
    obtain ⟨hround, hhand⟩ := henter.open_of_begins hbegin hgoing
    refine (hdeal.playsOn hround hhand).staked hround (henter.alive_of_begins hbegin hs) ?_
    cases hdeal with
    | intro hheld hplayer hdaimon hdealt hfire hgoing hranks hnatural => exact hgoing
  | drawn henter hdeal hhand' hranks hbust hfire hgoing =>
    obtain ⟨hround, halive⟩ := hs henter.handInProgress
    exact (henter.playsOn_drawn hdeal hfire).staked hround halive hgoing
  | equipped hplayer hfire hidle hgoing =>
    have hhand' := (Session.handInProgress_of_steady hfire.bleeds.steady).symm.trans hhand
    obtain ⟨hround, halive⟩ := hs hhand'
    obtain ⟨loadout, rfl⟩ := Player.equipToken_eq_ok hplayer
    refine hfire.playsOn.staked hround ?_ (hgoing hhand hround)
    exact halive.of_vitals rfl
  | deckAssigned hranks hplayer =>
    obtain ⟨hround, halive⟩ := hs hhand
    obtain ⟨-, rfl⟩ := Player.assignDeck_eq_ok hplayer
    exact ⟨hround, halive.of_vitals rfl⟩
  | rewardClaimed hround hwon hclaim h =>
    -- a round that was won has no open hand
    obtain ⟨tokens, progression, htable⟩ := Session.claimed_table h
    have hhand' : s.handInProgress = true := by
      unfold Session.handInProgress at hhand ⊢
      rwa [htable] at hhand
    obtain ⟨_, hround', hopen⟩ := s.roundInProgress_iff.mp (hs hhand').round
    cases hround.symm.trans hround'
    simp [Round.isInProgress, hwon] at hopen

/-- What a request does to the books. It closes the hand that it opens or finds open, announces
the result and records it, and a round that is over by then decides it; or the hand stays as
open as it is, and nothing is recorded or announced. -/
inductive Session.Settles (s : Session) (request : Request) (s' : Session) : Prop
  | closes {hand : Hand} (hopen : request = .startHand ∨ s.handInProgress = true)
      (hhand : s'.table.hand? = some hand) (hstatus : hand.status ≠ .inProgress)
      (hbooks : s'.table.books? = s.table.books?.map (·.record hand.status))
      (hresults : s'.results = s.results ++ [hand.status])
      (hverdict : s'.roundTerminal = true → hand.status = s'.verdict)
  | keeps (hopen : s'.handInProgress = (decide (request = .startHand) || s.handInProgress))
      (hbooks : s'.table.books? = s.table.books?) (hresults : s'.results = s.results)

theorem Session.books?_of_steady (h : s'.table.steady = s.table.steady) :
    s'.table.books? = s.table.books? := by
  have hbooks := congrArg Table.books? h
  simp only [Table.books?, Table.steady, Option.map_map] at hbooks
  exact hbooks

theorem Session.handsPlayed?_of_steady (h : s'.table.steady = s.table.steady) :
    s'.table.handsPlayed? = s.table.handsPlayed? := by
  have hcount := congrArg Table.handsPlayed? h
  simp only [Table.handsPlayed?, Table.steady, Option.map_map] at hcount
  exact hcount

theorem Enters.books? (h : Enters house s request t) : t.table.books? = s.table.books? := by
  cases h with
  | startHand hround hopen hidle hstake => rfl
  | move hmove hround hhand => rfl
  | equipToken hplayer hround hhand => rfl

theorem Enters.results (h : Enters house s request t) : t.results = s.results := by
  cases h with
  | startHand hround hopen hidle hstake => rfl
  | move hmove hround hhand => rfl
  | equipToken hplayer hround hhand => rfl

theorem Enters.opens (h : Enters house s request t) :
    request = .startHand ∨ s.handInProgress = true := by
  cases h with
  | startHand hround hopen hidle hstake => exact .inl rfl
  | move hmove hround hhand => exact .inr hhand
  | equipToken hplayer hround hhand => exact .inr hhand

theorem Session.ending_of_standing (h : s'.table.standing = s.table.standing) :
    s'.roundTerminal = s.roundTerminal ∧ s'.verdict = s.verdict := by
  have hover (t : Session) : t.roundTerminal = t.table.standing.round?.any (· ≠ .inProgress) := by
    unfold Session.roundTerminal Table.standing
    cases t.table.round? <;> simp [Round.isTerminal, Round.isInProgress]
  have hverdict (t : Session) :
      t.verdict = if t.table.standing.round? = some .won then .won else .lost := rfl
  rw [hover, hover, hverdict, hverdict, h]
  exact ⟨rfl, rfl⟩

theorem Session.Closes.solvent_of_closed {status : HandStatus} (h : s.Closes status s')
    (hs : s'.table.Solvent) : s.table.Solvent := by
  cases h with
  | @intro hand _ _ hhand hplayer hdaimon =>
    intro before hbefore
    cases hhand.symm.trans hbefore
    exact hs { hand with status } rfl

theorem Session.Concludes.settles (h : u.Concludes s') (hround : u.table.round?.isSome)
    (halive : u.table.Alive) (hsolvent : s'.table.Solvent)
    (hbooks : u.table.books? = s.table.books?) (hresults : u.results = s.results)
    (hopen : request = .startHand ∨ s.handInProgress = true) : s.Settles request s' := by
  obtain ⟨t, v, status, hplay, hend, hclose⟩ := h
  have hends := hend.flows.bleeds
  have hverdict : v.roundTerminal = true → status = v.verdict :=
    hend.status_eq ((isSome_round_of_steady hplay.steady).trans hround) (hplay.alive halive)
      (hclose.solvent_of_closed hsolvent)
  have hbooks' := (books?_of_steady hends.steady).trans (books?_of_steady hplay.steady)
  have hresults' := hends.results.trans hplay.results
  have hstatus := hend.status_ne
  have hsame := ending_of_standing hclose.standing
  cases hclose with
  | @intro hand playerRanks daimonRanks hhand hplayer hdaimon =>
    refine @Settles.closes s request _ { hand with status } hopen rfl hstatus ?_ ?_ ?_
    · rw [← hbooks, ← hbooks']
      simp only [Table.books?, closeHand, emit_table, Option.map_map, Function.comp_def,
        Game.books_record]
    · rw [← hresults, ← hresults']
      simp [results, closeHand, emit, Event.result?]
    · exact fun hover => (hverdict (hsame.1 ▸ hover)).trans hsame.2.symm

theorem Transition.settles (h : Transition house s request s') (hgame : request ≠ .startGame)
    (hs : s.table.handOpen = true → s.table.Staked) (hsolvent : s'.table.Solvent) :
    s.Settles request s' := by
  cases h with
  | startGame hidle => exact absurd rfl hgame
  | @startRound game game' daimon rng rng' round shoe t _ hidle hcurrent hopen hdaimon ht hround
      hshoe hfire =>
    have hclosed : s.handInProgress = false := by
      rw [Bool.eq_false_iff]
      intro hhand
      cases hidle.symm.trans (hs hhand).round
    have hbooks : game'.books = game.books := by
      obtain rfl | ⟨-, -, rfl⟩ := Catalog.nextDaimon_game hdaimon
      · rfl
      · simp only [Game.books]
    subst ht
    have hfire := hfire.bleeds
    refine .keeps ?_ ?_ ?_
    · rw [hclosed, Session.handInProgress_of_steady hfire.steady]
      rfl
    · rw [Session.books?_of_steady hfire.steady]
      unfold Table.books?
      rw [hcurrent]
      exact congrArg some hbooks
    · rw [hfire.results]
      exact (Session.emit_results _ rfl).trans (Session.emit_results _ rfl)
  | @closed _ t u _ henter hbegin h =>
    have hbegun := hbegin.bleeds
    refine h.settles ?_ (henter.alive_of_begins hbegin hs) hsolvent ?_ ?_ henter.opens
    · rw [Session.isSome_round_of_steady hbegun.steady]
      exact Session.isSome_round_of_inProgress henter.roundInProgress
    · exact (Session.books?_of_steady hbegun.steady).trans henter.books?
    · exact hbegun.results.trans henter.results
  | opened henter hbegin hgoing hdeal =>
    have hbegun := hbegin.bleeds
    have hplay := henter.playsOn_opened hbegin hgoing hdeal
    have hsteady := hplay.steady.trans hbegun.steady
    have hhand := (Session.handInProgress_of_steady hsteady).trans henter.handInProgress
    exact .keeps hhand ((Session.books?_of_steady hsteady).trans henter.books?)
      (hplay.results.trans (hbegun.results.trans henter.results))
  | drawn henter hdeal hhand hranks hbust hfire hgoing =>
    have hplay := henter.playsOn_drawn hdeal hfire
    exact .keeps (Session.handInProgress_of_steady hplay.steady)
      (Session.books?_of_steady hplay.steady) hplay.results
  | @equipped _ _ player _ hplayer hfire hidle hgoing =>
    have hfire := hfire.bleeds
    have hhand := Session.handInProgress_of_steady (s := s.putPlayer player) hfire.steady
    have hbooks := Session.books?_of_steady (s := s.putPlayer player) hfire.steady
    exact .keeps hhand hbooks hfire.results
  | deckAssigned hranks hplayer => exact .keeps rfl rfl rfl
  | rewardClaimed hround hwon hclaim h =>
    obtain ⟨tokens, progression, htable⟩ := Session.claimed_table h
    refine .keeps ?_ ?_ ?_
    · unfold Session.handInProgress
      rw [htable]
      rfl
    · rw [htable]
      rfl
    · obtain rfl | ⟨token, -, rfl⟩ := h
      · rfl
      · unfold Session.grantStoryToken
        exact Session.emit_results _ rfl

private theorem Enters.idle (h : Enters house s .startHand t) : s.handInProgress = false := by
  cases h with
  | startHand hround hopen hidle hstake => exact hidle
  | move hmove hround hhand => simp at hmove

theorem Transition.idle (h : Transition house s .startHand s') : s.handInProgress = false := by
  cases h with
  | closed henter hbegin h => exact henter.idle
  | opened henter hbegin hgoing hdeal => exact henter.idle

/-- How a request counts the hands of the round. -/
def Request.countHands (request : Request) (handsPlayed? : Option Nat) : Option Nat :=
  match request with
  | .startGame => none
  | .startRound => some 0
  | .startHand => handsPlayed?.map (· + 1)
  | _ => handsPlayed?

theorem Enters.handsPlayed? (h : Enters house s request t) :
    t.table.handsPlayed? = request.countHands s.table.handsPlayed? := by
  cases h with
  | startHand hround hopen hidle hstake =>
    simp [Table.handsPlayed?, Session.openHand, Request.countHands, hround]
  | move hmove hround hhand => obtain rfl | rfl | rfl := hmove <;> rfl
  | equipToken hplayer hround hhand => rfl

theorem Session.Concludes.handsPlayed? (h : s.Concludes s') :
    s'.table.handsPlayed? = s.table.handsPlayed? := by
  obtain ⟨t, status, hplay, -, hclose⟩ := h.closes
  refine Eq.trans ?_ (handsPlayed?_of_steady hplay.steady)
  cases hclose with
  | intro hhand hplayer hdaimon =>
    simp [Table.handsPlayed?, closeHand, Function.comp_def]

theorem Transition.handsPlayed? (h : Transition house s request s') :
    s'.table.handsPlayed? = request.countHands s.table.handsPlayed? := by
  cases h with
  | startGame hidle => rfl
  | startRound hidle hgame hopen hdaimon ht hround hshoe hfire =>
    rw [Session.handsPlayed?_of_steady hfire.bleeds.steady]
    subst ht
    cases hround
    rfl
  | closed henter hbegin h =>
    have hbegun := Session.handsPlayed?_of_steady hbegin.bleeds.steady
    exact h.handsPlayed?.trans (hbegun.trans henter.handsPlayed?)
  | opened henter hbegin hgoing hdeal =>
    have hplay := henter.playsOn_opened hbegin hgoing hdeal
    have hsteady := hplay.steady.trans hbegin.bleeds.steady
    exact (Session.handsPlayed?_of_steady hsteady).trans henter.handsPlayed?
  | drawn henter hdeal hhand hranks hbust hfire hgoing =>
    exact Session.handsPlayed?_of_steady (henter.playsOn_drawn hdeal hfire).steady
  | @equipped _ _ player _ hplayer hfire hidle hgoing =>
    exact Session.handsPlayed?_of_steady (s := s.putPlayer player) hfire.bleeds.steady
  | deckAssigned hranks hplayer => rfl
  | rewardClaimed hround hwon hclaim h =>
    obtain ⟨tokens, progression, htable⟩ := Session.claimed_table h
    rw [htable]
    simp [Table.handsPlayed?, Request.countHands, hround]

end BloodStakes
