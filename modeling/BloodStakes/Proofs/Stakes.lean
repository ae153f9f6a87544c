import BloodStakes.Proofs.Endings
import BloodStakes.Proofs.Firing
import BloodStakes.Proofs.Settling

/-!
What is at stake in a hand. When no effect fires and the round goes on, the blood a hand takes
from one pool goes to the other: the stakes go into the pot, and the pot is paid out.
-/
namespace BloodStakes

/-- The pools with their bounds, and the hand with its pot. -/
structure Stakes where
  player : Int
  ceiling : Int
  daimon : Int
  maximum : Int
  pot : Int
  hand : HandStatus

namespace Stakes

/-- Both sides have staked. -/
def opened (pool : Int) (round : Round) (stake : Int) : Stakes where
  player := Session.clampedSum pool (Amount.wrap (-stake)) round.ceiling
  ceiling := round.ceiling
  daimon := Session.clampedSum round.daimonPool (Amount.wrap (-stake)) round.daimonMaximum
  maximum := round.daimonMaximum
  pot := Amount.wrap (stake * 2)
  hand := .inProgress

/-- The pot has been paid out. -/
def paid (b : Stakes) (outcome : Outcome) : Stakes :=
  match outcome with
  | .won => { b with player := Session.clampedSum b.player b.pot b.ceiling, hand := .won }
  | .lost => { b with daimon := Session.clampedSum b.daimon b.pot b.maximum, hand := .lost }
  | .pushed => { b with
      player := Session.clampedSum b.player (b.pot.tdiv 2) b.ceiling
      daimon := Session.clampedSum b.daimon (b.pot.tdiv 2) b.maximum
      hand := .pushed }

/-- The hand has been given up for a quarter of the pot. -/
def refunded (b : Stakes) : Stakes :=
  { b with
    player := Session.clampedSum b.player (b.pot.tdiv 4) b.ceiling
    daimon := Session.clampedSum b.daimon (b.pot - b.pot.tdiv 4) b.maximum
    hand := .lost }

theorem paid_hand (b : Stakes) (outcome : Outcome) :
    (b.paid outcome).hand = .ofOutcome outcome := by
  cases outcome <;> rfl

end Stakes

def Table.stakes? (t : Table) : Option Stakes :=
  match t.round?, t.hand? with
  | some round, some hand => some {
      player := t.player.bloodPool
      ceiling := round.ceiling
      daimon := round.daimonPool
      maximum := round.daimonMaximum
      pot := hand.pot
      hand := hand.status }
  | _, _ => none

theorem Table.stakes?_eq_some {t : Table} {b : Stakes} : t.stakes? = some b ↔
    ∃ round hand, t.round? = some round ∧ t.hand? = some hand ∧
      b = ⟨t.player.bloodPool, round.ceiling, round.daimonPool, round.daimonMaximum, hand.pot,
        hand.status⟩ := by
  unfold stakes?
  cases t.round? <;> cases t.hand? <;> simp [eq_comm]

theorem Table.hand_of_stakes {t : Table} {b : Stakes} {hand : Hand} (hb : t.stakes? = some b)
    (hhand : t.hand? = some hand) : hand.pot = b.pot ∧ hand.status = b.hand := by
  obtain ⟨_, _, -, hhand', rfl⟩ := stakes?_eq_some.mp hb
  cases hhand.symm.trans hhand'
  exact ⟨rfl, rfl⟩

/-- The hand with these stakes is still open, or it has been settled. -/
def Stakes.Settled (b : Stakes) (t : Table) : Prop :=
  t.stakes? = some b ∨ ∃ outcome, t.stakes? = some (b.paid outcome)

namespace Session

variable {house : House} {s t u s' : Session}

theorem Deeds.effectLogs_length_le (h : s.Deeds house s') :
    s.effectLogs.length ≤ s'.effectLogs.length := by
  obtain ⟨more, hmore, -⟩ := h.tells.events
  simp [effectLogs, hmore]

/-- Nothing has happened, or an effect has fired. -/
def Stirs (s s' : Session) : Prop := s' = s ∨ s.effectLogs.length < s'.effectLogs.length

theorem Fires.stirs {firings : List Firing} {fired : Session × List EffectLog}
    (h : s.Fires firings fired) : s.Stirs fired.1 := by
  cases firings with
  | nil => exact .inl (congrArg Prod.fst (h.quiet rfl))
  | cons firing firings =>
    have hlength := congrArg List.length h.records
    rw [List.length_map, List.length_cons] at hlength
    apply Or.inr
    rw [h.announced, List.length_append]
    omega

theorem fireTable_stirs (s : Session) (catalog : Catalog) (phase : Phase) :
    s.Stirs (s.fireTable catalog phase).1 :=
  (s.fireAt_fires catalog (.table phase)).stirs

/-- No effect has fired since, and the round is in progress. -/
structure Calm (s s' : Session) : Prop where
  logs : s'.effectLogs = s.effectLogs
  going : s'.roundInProgress = true

theorem Calm.going_before (h : s.Calm s') (hdeeds : s.Deeds house s') : s.roundInProgress = true :=
  hdeeds.tells.advances.roundInProgress h.going

theorem Calm.split (h : s.Calm u) (hfirst : s.Deeds house t) (hrest : t.Deeds house u) :
    s.Calm t ∧ t.Calm u := by
  obtain ⟨more, hmore, -⟩ := hfirst.tells.events
  have hlogs : t.effectLogs = s.effectLogs := by
    have hfewer := hrest.effectLogs_length_le
    rw [h.logs] at hfewer
    have hlonger : t.effectLogs = s.effectLogs ++ more.filterMap Event.effectLog? := by
      simp [effectLogs, hmore]
    rw [hlonger, List.length_append] at hfewer
    have hnone : more.filterMap Event.effectLog? = [] := List.length_eq_zero_iff.mp (by omega)
    rw [hlonger, hnone, List.append_nil]
  exact ⟨⟨hlogs, hrest.tells.advances.roundInProgress h.going⟩, h.logs.trans hlogs.symm, h.going⟩

theorem Calm.eq_of_fired (h : s.Calm s') (hfire : s.Flows t) (hrest : t.Deeds house s')
    (hstirs : s.Stirs t) : t = s := by
  obtain hsame | hmore := hstirs
  · exact hsame
  · rw [(h.split hfire.deeds hrest).1.logs] at hmore
    exact absurd hmore (Nat.lt_irrefl _)

variable {b : Stakes}

theorem changePlayerPool_stakes {delta : Int} (hb : s.table.stakes? = some b)
    (hgoing : (s.changePlayerPool delta).roundInProgress = true) :
    (s.changePlayerPool delta).table.stakes? =
        some { b with player := clampedSum b.player delta b.ceiling } ∧
      0 < clampedSum b.player delta b.ceiling := by
  obtain ⟨round, hand, hround, hhand, rfl⟩ := Table.stakes?_eq_some.mp hb
  obtain ⟨round', hround', hopen⟩ := (roundInProgress_iff _).mp hgoing
  unfold changePlayerPool at hround' ⊢
  obtain ⟨hsame, hpool, -⟩ := settleRound_of_going hround' hopen
  rw [s.ceiling_of_round hround] at hsame hpool ⊢
  rw [hsame]
  exact ⟨by simp [Table.stakes?, hround, hhand], hpool⟩

theorem changeDaimonPool_stakes {delta : Int} (hb : s.table.stakes? = some b)
    (hgoing : (s.changeDaimonPool delta).roundInProgress = true) :
    (s.changeDaimonPool delta).table.stakes? =
        some { b with daimon := clampedSum b.daimon delta b.maximum } ∧
      0 < clampedSum b.daimon delta b.maximum := by
  obtain ⟨round, hand, hround, hhand, rfl⟩ := Table.stakes?_eq_some.mp hb
  obtain ⟨round', hround', hopen⟩ := (roundInProgress_iff _).mp hgoing
  simp only [changeDaimonPool, hround] at hround' ⊢
  obtain ⟨hsame, -, hpool⟩ := settleRound_of_going hround' hopen
  rw [hsame] at hround' ⊢
  cases hround'
  exact ⟨by simp [Table.stakes?, hhand], hpool⟩

private theorem payPot_stakes (outcome : Outcome) (hb : s.table.stakes? = some b)
    (hgoing : (s.payPot outcome b.pot).roundInProgress = true) :
    ∃ paid, (s.payPot outcome b.pot).table.stakes? = some paid ∧
      { paid with hand := .ofOutcome outcome } = b.paid outcome := by
  cases outcome with
  | won => exact ⟨_, (changePlayerPool_stakes hb hgoing).1, rfl⟩
  | lost => exact ⟨_, (changeDaimonPool_stakes hb hgoing).1, rfl⟩
  | pushed =>
    have hbefore := (changeDaimonPool_bleeds _ _).advances.roundInProgress hgoing
    exact ⟨_, (changeDaimonPool_stakes (changePlayerPool_stakes hb hbefore).1 hgoing).1, rfl⟩

theorem Deals.stakes {side : Side} {count : Nat} {cards : List CardId}
    (h : s.Deals side count cards s') (hround : s.roundInProgress = true) :
    s'.table.stakes? = s.table.stakes? := by
  cases h with
  | @intro t hand hhand hdraws hcount hshort =>
    obtain ⟨round, hround, -⟩ := s.roundInProgress_iff.mp hround
    obtain ⟨shoe, discard, htable⟩ := hdraws.exists_table hround
    rw [putHand_table, htable]
    cases side <;> simp [Table.stakes?, Hand.receive, hround, hhand]

theorem Closes.stakes {status : HandStatus} (h : s.Closes status s')
    (hb : s.table.stakes? = some b) : s'.table.stakes? = some { b with hand := status } := by
  obtain ⟨round, hand, hround, hhand, rfl⟩ := Table.stakes?_eq_some.mp hb
  cases h with
  | intro hhand' hplayer hdaimon =>
    cases hhand.symm.trans hhand'
    simp [Table.stakes?, closeHand, hround]

end Session

namespace Play

open Session

variable {house : House} {s s' u : Session} {b : Stakes}

theorem Leads.deeds {α : Type} {p : Play α} {a : α} (h : p.Leads (Deed house) s)
    (hrun : p.run s = .ok a s') : s.Deeds house s' := by
  have hsteps := h.steps
  rwa [after_eq_of_ok hrun] at hsteps

theorem unlessOver_calm {next : Play HandStatus} {status : HandStatus}
    (hnext : next.Leads (Deed house) s) (hcalm : s.Calm s')
    (h : (unlessOver next).run s = .ok status s') : next.run s = .ok status s' := by
  have hopen := hcalm.going_before ((unlessOver_leads hnext).deeds h)
  simp only [unlessOver, bind_eq_ok, get_eq_ok, and_assoc, exists_and_left, exists_eq_left,
    roundTerminal_of_inProgress hopen] at h
  exact h

theorem payOut_leads (house : House) (outcome : Outcome) : Leads (Deed house) (do
    let current ← hand
    modify fun s => s.payPot outcome current.pot
    finishHand (.ofOutcome outcome)) s :=
  .hand_bind fun current _ =>
    .modify_bind (s.payPot_bleeds outcome current.pot).deeds (finishHand_leads _)

theorem settle_stakes {outcome : Outcome} {status : HandStatus} (hb : s.table.stakes? = some b)
    (hcalm : s.Calm s') (h : (settle house.catalog outcome).run s = .ok status s') :
    s'.table.stakes? = some (b.paid outcome) := by
  simp only [settle, bind_eq_ok, get_eq_ok, refuseIf_eq_ok, modify_eq_ok, and_assoc,
    exists_and_left, exists_eq_left, exists_const] at h
  obtain ⟨-, h⟩ := h
  have hrest := (unlessOver_leads (payOut_leads house outcome)).deeds h
  rw [hcalm.eq_of_fired (s.fireTable_flows _ _) hrest (s.fireTable_stirs _ _)] at h
  replace h := unlessOver_calm (payOut_leads house outcome) hcalm h
  simp only [bind_eq_ok, hand_eq_ok, modify_eq_ok, and_assoc, exists_and_left,
    exists_eq_left, exists_const] at h
  obtain ⟨current, hcurrent, h⟩ := h
  rw [(Table.hand_of_stakes hb hcurrent).1] at h
  have hdone : Deeds house _ s' := (finishHand_leads _).deeds h
  have hgoing := (hcalm.split (s.payPot_bleeds outcome b.pot).deeds hdone).1.going
  obtain ⟨paid, hpaid, hhand⟩ := payPot_stakes outcome hb hgoing
  rw [(finishHand_closes h).2.stakes hpaid, hhand]

theorem resolve_stakes {status : HandStatus} (hb : s.table.stakes? = some b)
    (hcalm : s.Calm s') (h : (resolve house.catalog).run s = .ok status s') :
    ∃ outcome, s'.table.stakes? = some (b.paid outcome) := by
  simp only [resolve, bind_eq_ok, hand_eq_ok, ranks_eq_ok, and_assoc, exists_and_left,
    exists_eq_left] at h
  obtain ⟨current, -, player, -, daimon, -, h⟩ := h
  exact ⟨_, settle_stakes hb hcalm h⟩

theorem deal_stakes {side : Side} {count : Nat} {cards : List CardId}
    (hb : s.table.stakes? = some b) (hcalm : s.Calm u) (hrest : s'.Deeds house u)
    (h : (deal house.rules side count).run s = .ok cards s') :
    s'.table.stakes? = some b ∧ s'.Calm u := by
  have hdeal : s.Deeds house s' := (deal_leads _ _ _).deeds h
  have hgoing := hcalm.going_before (hdeal.trans hrest)
  exact ⟨((deal_deals h).stakes hgoing).trans hb, (hcalm.split hdeal hrest).2⟩

theorem dealt_leads (house : House) : Leads (Deed house) (do
    let playerRanks ← ranks (← hand).playerCards
    if Score.isNatural playerRanks then
      let _ ← deal house.rules .daimon 1
      resolve house.catalog
    else return .inProgress) s := by
  refine .hand_bind fun current _ => .ranks_bind fun playerRanks _ => ?_
  split
  · exact (deal_leads _ _ _).bind fun _ _ _ => resolve_leads
  · exact leads_pure _

theorem dealHand_stakes {status : HandStatus} (hb : s.table.stakes? = some b) (hcalm : s.Calm s')
    (h : (dealHand house).run s = .ok status s') : b.Settled s'.table := by
  simp only [dealHand, bind_eq_ok, hand_eq_ok, modify_eq_ok, and_assoc, exists_and_left,
    exists_eq_left, exists_const] at h
  obtain ⟨cards, t, hplayer, more, u, hdaimon, dealt, hdealt, h⟩ := h
  set announced := u.emit (.handDealt dealt.pot dealt.playerCards dealt.daimonCards)
  have hrest := (unlessOver_leads (dealt_leads house)).deeds h
  have hfire := announced.fireTable_flows house.catalog .handStart
  have hannounced : u.Deeds house announced := .single (.announce u _ rfl)
  have hdone := hannounced.trans (hfire.deeds.trans hrest)
  obtain ⟨hb, hcalm⟩ :=
    deal_stakes hb hcalm (((deal_leads _ _ _).deeds hdaimon).trans hdone) hplayer
  obtain ⟨hb, hcalm⟩ := deal_stakes hb hcalm hdone hdaimon
  replace hb : announced.table.stakes? = some b := hb
  replace hcalm := (hcalm.split hannounced (hfire.deeds.trans hrest)).2
  rw [hcalm.eq_of_fired hfire hrest (announced.fireTable_stirs _ _)] at h
  replace h := unlessOver_calm (dealt_leads house) hcalm h
  simp only [bind_eq_ok, hand_eq_ok, ranks_eq_ok, and_assoc, exists_and_left,
    exists_eq_left] at h
  obtain ⟨current, -, ranks, -, h⟩ := h
  split at h
  · obtain ⟨last, v, hlast, h⟩ := bind_eq_ok.mp h
    obtain ⟨hb, hcalm⟩ := deal_stakes hb hcalm (resolve_leads.deeds h) hlast
    exact .inr (resolve_stakes hb hcalm h)
  · obtain ⟨-, rfl⟩ := pure_eq_ok.mp h
    exact .inl hb

theorem startHand_stakes {round : Round} {stake : Int} {status : HandStatus}
    (hround : s.table.round? = some round)
    (hstake : house.rules.wagerFor round.handsPlayed s.table.player.bloodPool = stake)
    (hcalm : s.Calm s') (h : (startHand house).run s = .ok status s') :
    stake ≠ 0 ∧ 0 < clampedSum round.daimonPool (Amount.wrap (-stake)) round.daimonMaximum ∧
      (Stakes.opened s.table.player.bloodPool round stake).Settled s'.table := by
  simp only [startHand, bind_eq_ok, get_eq_ok, and_assoc, exists_and_left, exists_eq_left,
    hround] at h
  simp only [wager, bind_eq_ok, get_eq_ok, refuseIf_eq_ok, round_eq_ok, modify_eq_ok,
    pure_eq_ok, and_assoc, exists_and_left, exists_eq_left, exists_const] at h
  obtain ⟨hopen, hidle, _, _, ⟨_, hround', rfl, rfl⟩, h⟩ := h
  cases hround.symm.trans hround'
  rw [hstake] at h
  have hopen : round.isInProgress = true := by simpa [Round.isTerminal] using hopen
  have hopened : s.Deeds house (s.openHand round stake) :=
    .single (.openHand hround hopen hidle stake)
  split at h
  · -- a forfeit ends the round
    simp only [bind_eq_ok, modify_eq_ok, exists_eq_left, exists_const] at h
    have hover := forfeit_roundTerminal (s := s.openHand round stake) hopen
    have hgoing := hcalm.split (hopened.trans (changePlayerPool_bleeds _ _).deeds)
      (closeByRound_leads.deeds h)
    rw [roundTerminal_of_inProgress hgoing.1.going] at hover
    cases hover
  · next hne =>
    simp only [bind_eq_ok, modify_eq_ok, exists_eq_left, exists_const] at h
    have hstakes := (s.openHand round stake).payStakes_bleeds stake
    obtain ⟨hstaked, hcalm⟩ := hcalm.split (hopened.trans hstakes.deeds)
      ((unlessOver_leads dealHand_leads).deeds h)
    have hdaimon := (changePlayerPool_bleeds _ _).advances.roundInProgress hstaked.going
    obtain ⟨hb, hpos⟩ := changeDaimonPool_stakes rfl hdaimon
    obtain ⟨hb, -⟩ := changePlayerPool_stakes hb hstaked.going
    exact ⟨hne, hpos, dealHand_stakes hb hcalm (unlessOver_calm dealHand_leads hcalm h)⟩

theorem ensureAvailable_stakes {move : Move} {v : Unit} (hb : s.table.stakes? = some b)
    (h : (ensureAvailable move).run s = .ok v s') : s' = s ∧ b.hand = .inProgress := by
  obtain ⟨rfl, hopen, -⟩ := ensureAvailable_eq_ok h
  obtain ⟨hand, hhand, hopen⟩ := s'.handInProgress_iff.mp hopen
  rw [← (Table.hand_of_stakes hb hhand).2]
  exact ⟨rfl, by simpa [Hand.isInProgress] using hopen⟩

theorem drawToStand_stakes {fuel : Nat} {v : Unit} (hb : s.table.stakes? = some b)
    (hcalm : s.Calm u) (hrest : s'.Deeds house u)
    (h : (drawToStand house.rules fuel).run s = .ok v s') :
    s'.table.stakes? = some b ∧ s'.Calm u := by
  induction fuel generalizing s with
  | zero =>
    obtain ⟨-, rfl⟩ := pure_eq_ok.mp h
    exact ⟨hb, hcalm⟩
  | succ fuel ih =>
    simp only [drawToStand, bind_eq_ok, hand_eq_ok, ranks_eq_ok, and_assoc, exists_and_left,
      exists_eq_left] at h
    obtain ⟨current, -, ranks, -, h⟩ := h
    split at h
    · obtain ⟨-, rfl⟩ := pure_eq_ok.mp h
      exact ⟨hb, hcalm⟩
    · obtain ⟨cards, t, hdeal, h⟩ := bind_eq_ok.mp h
      split at h
      · obtain ⟨-, rfl⟩ := pure_eq_ok.mp h
        exact deal_stakes hb hcalm hrest hdeal
      · have hdraws : t.Deeds house s' := (drawToStand_leads _ fuel).deeds h
        obtain ⟨hb, hcalm⟩ := deal_stakes hb hcalm (hdraws.trans hrest) hdeal
        exact ih hb hcalm h

theorem stand_stakes {status : HandStatus} (hb : s.table.stakes? = some b) (hcalm : s.Calm s')
    (h : (stand house).run s = .ok status s') :
    b.hand = .inProgress ∧ ∃ outcome, s'.table.stakes? = some (b.paid outcome) := by
  obtain ⟨_, t, havailable, hstand⟩ := bind_eq_ok.mp h
  obtain ⟨rfl, hopen⟩ := ensureAvailable_stakes hb havailable
  obtain ⟨fuel, u, hbound, hstand⟩ := bind_eq_ok.mp hstand
  obtain ⟨_, v, hdraws, hresolve⟩ := bind_eq_ok.mp hstand
  cases drawBound_eq_ok hbound
  obtain ⟨hb, hcalm⟩ := drawToStand_stakes hb hcalm (resolve_leads.deeds hresolve) hdraws
  exact ⟨hopen, resolve_stakes hb hcalm hresolve⟩

theorem draw_stakes {card : CardId} (hb : s.table.stakes? = some b) (hcalm : s.Calm s')
    (h : (draw house).run s = .ok card s') : b.hand = .inProgress ∧ b.Settled s'.table := by
  obtain ⟨_, t, havailable, hdraw⟩ := bind_eq_ok.mp h
  obtain ⟨rfl, hopen⟩ := ensureAvailable_stakes hb havailable
  refine ⟨hopen, ?_⟩
  obtain ⟨cards, u, hdeal, hdraw⟩ := bind_eq_ok.mp hdraw
  split at hdraw
  · exact absurd hdraw throw_ne_ok
  · next first _ =>
    simp only [bind_eq_ok, hand_eq_ok, ranks_eq_ok, modify_eq_ok, get_eq_ok, and_assoc,
      exists_and_left, exists_eq_left, exists_const] at hdraw
    obtain ⟨hand, -, ranks, -, hdraw⟩ := hdraw
    set shown := u.emit (.cardDrawn first (Score.total ranks))
    have hshown : u.Deeds house shown := .single (.announce u _ rfl)
    have hfire := fireCards_flows .handStart [first] shown
    have hdone : (fireCards .handStart [first] shown).1.Deeds house s' ∧
        ((fireCards .handStart [first] shown).1.roundTerminal = true ∨
          (∃ status, (resolve house.catalog).run (fireCards .handStart [first] shown).1 =
            .ok status s') ∨ s' = (fireCards .handStart [first] shown).1) := by
      split at hdraw
      · next hover =>
        simp only [bind_eq_ok, pure_eq_ok] at hdraw
        obtain ⟨_, _, hclose, -, rfl⟩ := hdraw
        exact ⟨closeByRound_leads.deeds hclose, .inl hover⟩
      · split at hdraw
        · simp only [bind_eq_ok, pure_eq_ok] at hdraw
          obtain ⟨status, _, hresolve, -, rfl⟩ := hdraw
          exact ⟨resolve_leads.deeds hresolve, .inr (.inl ⟨status, hresolve⟩)⟩
        · obtain ⟨-, rfl⟩ := pure_eq_ok.mp hdraw
          exact ⟨.refl, .inr (.inr rfl)⟩
    obtain ⟨hrest, hdone⟩ := hdone
    obtain ⟨hb, hcalm⟩ := deal_stakes hb hcalm (hshown.trans (hfire.deeds.trans hrest)) hdeal
    replace hb : shown.table.stakes? = some b := hb
    replace hcalm := (hcalm.split hshown (hfire.deeds.trans hrest)).2
    rw [hcalm.eq_of_fired hfire hrest (fireCards_fires _ _ shown).stirs] at hdone hrest
    obtain hover | ⟨status, hresolve⟩ | rfl := hdone
    · rw [roundTerminal_of_inProgress (hcalm.going_before hrest)] at hover
      cases hover
    · exact .inr (resolve_stakes hb hcalm hresolve)
    · exact .inl hb

theorem refund_leads (house : House) : Leads (Deed house) (do
    let pot := (← hand).pot
    let refund := pot.tdiv 4
    modify fun s => (s.changePlayerPool refund).changeDaimonPool (pot - refund)
    finishHand .lost) s :=
  .hand_bind fun _ _ => .modify_bind (refund_bleeds _ _ _).deeds (finishHand_leads _)

theorem surrender_stakes {status : HandStatus} (hb : s.table.stakes? = some b)
    (hcalm : s.Calm s') (h : (surrender house).run s = .ok status s') :
    b.hand = .inProgress ∧ s'.table.stakes? = some b.refunded := by
  obtain ⟨_, t, havailable, hsurrender⟩ := bind_eq_ok.mp h
  obtain ⟨rfl, hopen⟩ := ensureAvailable_stakes hb havailable
  refine ⟨hopen, ?_⟩
  simp only [bind_eq_ok, modify_eq_ok, exists_eq_left, exists_const] at hsurrender
  have hrest := (unlessOver_leads (refund_leads house)).deeds hsurrender
  rw [hcalm.eq_of_fired (t.fireTable_flows _ _) hrest (t.fireTable_stirs _ _)] at hsurrender
  replace hsurrender := unlessOver_calm (refund_leads house) hcalm hsurrender
  simp only [bind_eq_ok, hand_eq_ok, modify_eq_ok, and_assoc, exists_and_left,
    exists_eq_left, exists_const] at hsurrender
  obtain ⟨current, hcurrent, hclose⟩ := hsurrender
  rw [(Table.hand_of_stakes hb hcurrent).1] at hclose
  have hdone : Deeds house _ s' := (finishHand_leads _).deeds hclose
  have hgoing := (hcalm.split (t.refund_bleeds _ _).deeds hdone).1.going
  have hbefore := (changeDaimonPool_bleeds _ _).advances.roundInProgress hgoing
  have hplayer := (changePlayerPool_stakes hb hbefore).1
  exact (finishHand_closes hclose).2.stakes (changeDaimonPool_stakes hplayer hgoing).1

end Play

end BloodStakes
