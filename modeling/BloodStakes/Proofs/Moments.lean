import BloodStakes.Proofs.Firing
import BloodStakes.Proofs.Progress
import BloodStakes.Proofs.Tutorial

/-!
When effects fire. A granted request passes through a few moments of the table, and at each of
them everything fires that has an entry for it: the order of the moments, of those who bear
effects, and of the actions of an effect is the order of the records.
-/
namespace BloodStakes

/-- How the hands compare as they lie. -/
def Table.outcome? (t : Table) : Option Outcome :=
  t.hand?.bind fun hand =>
    match ranksOf hand.playerCards, ranksOf hand.daimonCards with
    | .ok player, .ok daimon => some (.ofHands player daimon)
    | _, _ => none

/-- The moments that a granted request passes through, in order, by its reply and the table it
leaves behind. -/
inductive Request.Passes (t : Table) : Request → Reply → List Moment → Prop
  | startGame : Passes t .startGame .done []
  | startRound : Passes t .startRound .done [.roundStart]
  /-- The stakes have ended the round. -/
  | ruined {status : HandStatus} (h : status ≠ .inProgress) :
      Passes t .startHand (.hand status) []
  | dealt {status : HandStatus} : Passes t .startHand (.hand status) [.table .handStart]
  | natural {status : HandStatus} {outcome : Outcome} (h : t.outcome? = some outcome) :
      Passes t .startHand (.hand status) [.table .handStart, .table outcome.phase]
  | drawn {card : CardId} : Passes t .draw (.card card) [.drawn card]
  | bust {card : CardId} {outcome : Outcome} (h : t.outcome? = some outcome) :
      Passes t .draw (.card card) [.drawn card, .table outcome.phase]
  | stand {status : HandStatus} {outcome : Outcome} (h : t.outcome? = some outcome) :
      Passes t .stand (.hand status) [.table outcome.phase]
  | surrender {status : HandStatus} : Passes t .surrender (.hand status) [.table .onLoss]
  | equipped {slot : SlotId} {token : TokenId} {logs : List EffectLog} (slotType : SlotType) :
      Passes t (.equipToken slot token) (.effects logs) [.equipped token slotType]
  /-- A token that is put into a slot between rounds does not fire. -/
  | stowed {slot : SlotId} {token : TokenId} : Passes t (.equipToken slot token) (.effects []) []
  | assignDeck {cards : List CardId} : Passes t (.assignDeck cards) .done []
  | claimStoryToken {token? : Option TokenId} : Passes t .claimStoryToken (.token token?) []

namespace Session

variable {s s' t u : Session} {house : House} {firings more : List Firing} {moment : Moment}

/-- These have fired since, in this order, and nothing else. -/
def HasFired (s : Session) (firings : List Firing) (s' : Session) : Prop :=
  ∃ logs, s'.effectLogs = s.effectLogs ++ logs ∧ logs.map EffectLog.firing = firings

theorem HasFired.of_eq (h : s'.effectLogs = s.effectLogs) : s.HasFired [] s' :=
  ⟨[], by rw [h, List.append_nil], rfl⟩

theorem HasFired.trans (h : s.HasFired firings t) (h' : t.HasFired more u) :
    s.HasFired (firings ++ more) u := by
  obtain ⟨logs, hlogs, rfl⟩ := h
  obtain ⟨moreLogs, hmore, rfl⟩ := h'
  exact ⟨logs ++ moreLogs, by rw [hmore, hlogs, List.append_assoc], List.map_append⟩

theorem HasFired.congr (h : s.HasFired firings t) (hs : s.effectLogs = u.effectLogs)
    (ht : s'.effectLogs = t.effectLogs) : u.HasFired firings s' := by
  obtain ⟨logs, hlogs, hfirings⟩ := h
  exact ⟨logs, by rw [ht, hlogs, hs], hfirings⟩

theorem fireAt_hasFired (s : Session) (catalog : Catalog) (moment : Moment) :
    s.HasFired (s.table.bearers.firingsAt catalog moment) (s.fireAt catalog moment).1 :=
  have hfires := s.fireAt_fires catalog moment
  ⟨_, hfires.announced, hfires.records⟩

/-- The request has passed through its moments, and exactly what waits for them has fired. -/
def PassesThrough (house : House) (s : Session) (request : Request) (reply : Reply)
    (s' : Session) : Prop :=
  ∃ moments, request.Passes s'.table reply moments ∧
    s.HasFired (moments.flatMap (s'.table.bearers.firingsAt house.catalog)) s'

section
variable {request : Request} {reply : Reply} {bearers : Bearers}
  (hbearers : s'.table.bearers = bearers)
include hbearers

theorem PassesThrough.once (hpass : request.Passes s'.table reply [moment])
    (h : s.HasFired (bearers.firingsAt house.catalog moment) s') :
    s.PassesThrough house request reply s' :=
  ⟨_, hpass, by simpa [hbearers] using h⟩

theorem PassesThrough.twice {next : Moment} (hpass : request.Passes s'.table reply [moment, next])
    (h : s.HasFired (bearers.firingsAt house.catalog moment) t)
    (hnext : t.HasFired (bearers.firingsAt house.catalog next) s') :
    s.PassesThrough house request reply s' :=
  ⟨_, hpass, by simpa [hbearers] using h.trans hnext⟩

end

theorem PassesThrough.quiet {request : Request} {reply : Reply}
    (hpass : request.Passes s'.table reply []) (h : s'.effectLogs = s.effectLogs) :
    s.PassesThrough house request reply s' :=
  ⟨[], hpass, .of_eq h⟩

theorem Deals.effectLogs {side : Side} {count : Nat} {cards : List CardId}
    (h : s.Deals side count cards s') : s'.effectLogs = s.effectLogs := by
  cases h with
  | intro hhand hdraws hcount hshort => exact hdraws.filterMap fun _ => rfl

theorem Draws.bearers {cards : List CardId} (h : s.Draws cards s') :
    s'.table.bearers = s.table.bearers := by
  induction h with
  | done s => rfl
  | refill rng hround hempty hshoe _ ih =>
    rw [ih]
    simp [Table.bearers, hround]
  | take hround hshoe _ ih =>
    rw [ih]
    simp [Table.bearers, hround]

theorem Deals.bearers {count : Nat} {cards : List CardId} (h : s.Deals .daimon count cards s') :
    s'.table.bearers = s.table.bearers := by
  cases h with
  | intro hhand hdraws hcount hshort =>
    rw [← hdraws.bearers]
    simp [Table.bearers, hdraws.hand?, hhand, Hand.receive]

theorem payPot_effectLogs (s : Session) (outcome : Outcome) (pot : Int) :
    (s.payPot outcome pot).effectLogs = s.effectLogs := by
  cases outcome <;> simp [payPot]

theorem Finishes.effectLogs {status : HandStatus} (h : s.Finishes status s') :
    s'.effectLogs = s.effectLogs := by
  obtain ⟨u, hend, hclose⟩ := h
  have hlogs : u.effectLogs = s.effectLogs := by
    cases hend with
    | byRound hover => rfl
    | payout outcome hhand hgoing => exact s.payPot_effectLogs outcome _
    | refund hhand hgoing => simp
  cases hclose with
  | intro hhand hplayer hdaimon =>
    rw [emit_silent _ rfl, ← hlogs]
    rfl

theorem Finishes.bearers {status : HandStatus} (h : s.Finishes status s') :
    s'.table.bearers = s.table.bearers := by
  obtain ⟨u, hend, hclose⟩ := h
  rw [← hend.flows.bleeds.framed.bearers]
  cases hclose with
  | intro hhand hplayer hdaimon =>
    simp [Table.bearers, closeHand, hhand, Function.comp_def]

theorem Finishes.status_ne {status : HandStatus} (h : s.Finishes status s') :
    status ≠ .inProgress := by
  obtain ⟨u, hend, -⟩ := h
  exact hend.status_ne

end Session

namespace Play

open Session

variable {s s' : Session} {house : House} {status : HandStatus}

theorem resolve_hasFired (h : (resolve house.catalog).run s = .ok status s') :
    ∃ outcome, s'.table.outcome? = some outcome ∧ s'.table.bearers = s.table.bearers ∧
      s.HasFired (s.table.bearers.firingsAt house.catalog (.table outcome.phase)) s' := by
  obtain ⟨hand, player, daimon, hhand, hplayer, hdaimon, hfinish⟩ := resolve_finishes h
  have hbleeds := (s.fireTable_flows house.catalog (Outcome.ofHands player daimon).phase).bleeds
  obtain ⟨pot, hclosed⟩ := hfinish.exists_pot hbleeds hhand
  refine ⟨.ofHands player daimon, ?_, hfinish.bearers.trans hbleeds.framed.bearers, ?_⟩
  · simp [Table.outcome?, hclosed, hplayer, hdaimon]
  · exact (s.fireAt_hasFired house.catalog (.table _)).congr rfl hfinish.effectLogs

private theorem dealHand_passes (h : (dealHand house).run s = .ok status s') :
    s.PassesThrough house .startHand (.hand status) s' := by
  simp only [dealHand, bind_eq_ok, hand_eq_ok, modify_eq_ok, and_assoc, exists_and_left,
    exists_eq_left, exists_const] at h
  obtain ⟨cards, t, hplayer, more, u, hdaimon, dealt, hdealt, h⟩ := h
  have hlogs : u.effectLogs = s.effectLogs :=
    (deal_deals hdaimon).effectLogs.trans (deal_deals hplayer).effectLogs
  generalize hv : u.emit (.handDealt dealt.pot dealt.playerCards dealt.daimonCards) = v at h
  have hvlogs : v.effectLogs = s.effectLogs := by
    rw [← hv, emit_silent _ rfl, hlogs]
  have hbearers := (v.fireTable_flows house.catalog .handStart).bleeds.framed.bearers
  have hfired := (v.fireAt_hasFired house.catalog (.table .handStart)).congr hvlogs rfl
  obtain h | ⟨hgoing, h⟩ := unlessOver_cases h
  · exact .once (h.bearers.trans hbearers) .dealt (hfired.congr rfl h.effectLogs)
  · simp only [bind_eq_ok, hand_eq_ok, ranks_eq_ok, and_assoc, exists_and_left,
      exists_eq_left] at h
    obtain ⟨current, hcurrent, ranks, hranks, h⟩ := h
    split at h
    · obtain ⟨last, w, hlast, h⟩ := bind_eq_ok.mp h
      have hlast := deal_deals hlast
      obtain ⟨outcome, houtcome, hsame, hresolved⟩ := resolve_hasFired h
      rw [hlast.bearers, hbearers] at hresolved hsame
      exact .twice hsame (.natural houtcome) hfired (hresolved.congr hlast.effectLogs rfl)
    · obtain ⟨-, rfl⟩ := pure_eq_ok.mp h
      exact .once hbearers .dealt hfired

private theorem startHand_passes (h : (startHand house).run s = .ok status s') :
    s.PassesThrough house .startHand (.hand status) s' := by
  simp only [startHand, bind_eq_ok, get_eq_ok, and_assoc, exists_and_left, exists_eq_left] at h
  split at h
  · exact absurd h throw_ne_ok
  · next round hround =>
    simp only [wager, bind_eq_ok, get_eq_ok, refuseIf_eq_ok, round_eq_ok, modify_eq_ok,
      pure_eq_ok, and_assoc, exists_and_left, exists_eq_left, exists_const] at h
    obtain ⟨hopen, hidle, stake, _, ⟨_, hround', hstake, rfl⟩, h⟩ := h
    cases hround.symm.trans hround'
    split at h
    · simp only [bind_eq_ok, modify_eq_ok, exists_eq_left, exists_const] at h
      have hopen : round.isInProgress = true := by simpa [Round.isTerminal] using hopen
      have hover := forfeit_roundTerminal (s := s.openHand round stake) hopen
      have hfinish := closeByRound_finishes hover h
      refine .quiet (.ruined hfinish.status_ne) (hfinish.effectLogs.trans ?_)
      exact changePlayerPool_effectLogs _ _
    · simp only [bind_eq_ok, modify_eq_ok, exists_eq_left, exists_const] at h
      have hlogs : ((s.openHand round stake).payStakes stake).effectLogs = s.effectLogs := by
        simp only [payStakes, changePlayerPool_effectLogs, changeDaimonPool_effectLogs]
        rfl
      obtain h | ⟨-, h⟩ := unlessOver_cases h
      · exact .quiet (.ruined h.status_ne) (h.effectLogs.trans hlogs)
      · obtain ⟨moments, hpass, hfired⟩ := dealHand_passes h
        exact ⟨moments, hpass, hfired.congr hlogs rfl⟩

private theorem draw_passes {card : CardId} (h : (draw house).run s = .ok card s') :
    s.PassesThrough house .draw (.card card) s' := by
  obtain ⟨_, t, havailable, hdraw⟩ := bind_eq_ok.mp h
  obtain ⟨rfl, -, -⟩ := ensureAvailable_eq_ok havailable
  obtain ⟨cards, u, hdeal, hdraw⟩ := bind_eq_ok.mp hdraw
  have hlogs := (deal_deals hdeal).effectLogs
  split at hdraw
  · exact absurd hdraw throw_ne_ok
  · next first _ =>
    simp only [bind_eq_ok, hand_eq_ok, ranks_eq_ok, modify_eq_ok, get_eq_ok, and_assoc,
      exists_and_left, exists_eq_left, exists_const] at hdraw
    obtain ⟨hand, hcurrent, ranks, hranks, hdraw⟩ := hdraw
    generalize hv : u.emit (.cardDrawn first (Score.total ranks)) = v at hdraw
    have hvlogs : v.effectLogs = t.effectLogs := by
      rw [← hv, emit_silent _ rfl, hlogs]
    have hbearers := (fireCards_flows .handStart [first] v).bleeds.framed.bearers
    have hfired := (v.fireAt_hasFired house.catalog (.drawn first)).congr hvlogs rfl
    split at hdraw
    · next hover =>
      simp only [bind_eq_ok, pure_eq_ok] at hdraw
      obtain ⟨_, _, hclose, rfl, rfl⟩ := hdraw
      have hfinish := closeByRound_finishes hover hclose
      exact .once (hfinish.bearers.trans hbearers) .drawn (hfired.congr rfl hfinish.effectLogs)
    · split at hdraw
      · simp only [bind_eq_ok, pure_eq_ok] at hdraw
        obtain ⟨_, _, hresolve, rfl, rfl⟩ := hdraw
        obtain ⟨outcome, houtcome, hsame, hresolved⟩ := resolve_hasFired hresolve
        rw [hbearers] at hresolved hsame
        exact .twice hsame (.bust houtcome) hfired hresolved
      · obtain ⟨rfl, rfl⟩ := pure_eq_ok.mp hdraw
        exact .once hbearers .drawn hfired

private theorem drawToStand_effectLogs {rules : Rules} {fuel : Nat} {u : Unit}
    (h : (drawToStand rules fuel).run s = .ok u s') : s'.effectLogs = s.effectLogs := by
  induction fuel generalizing s with
  | zero =>
    obtain ⟨-, rfl⟩ := pure_eq_ok.mp h
    rfl
  | succ fuel ih =>
    simp only [drawToStand, bind_eq_ok, hand_eq_ok, ranks_eq_ok, and_assoc, exists_and_left,
      exists_eq_left] at h
    obtain ⟨current, -, ranks, -, h⟩ := h
    split at h
    · obtain ⟨-, rfl⟩ := pure_eq_ok.mp h
      rfl
    · obtain ⟨cards, t, hdeal, h⟩ := bind_eq_ok.mp h
      have hlogs := (deal_deals hdeal).effectLogs
      split at h
      · obtain ⟨-, rfl⟩ := pure_eq_ok.mp h
        exact hlogs
      · exact (ih h).trans hlogs

private theorem stand_passes (h : (stand house).run s = .ok status s') :
    s.PassesThrough house .stand (.hand status) s' := by
  obtain ⟨_, t, havailable, hstand⟩ := bind_eq_ok.mp h
  obtain ⟨rfl, -, -⟩ := ensureAvailable_eq_ok havailable
  obtain ⟨fuel, u, hbound, hstand⟩ := bind_eq_ok.mp hstand
  obtain ⟨_, v, hdraws, hresolve⟩ := bind_eq_ok.mp hstand
  rw [drawBound_eq_ok hbound] at hdraws
  obtain ⟨outcome, houtcome, hsame, hfired⟩ := resolve_hasFired hresolve
  exact .once hsame (.stand houtcome) (hfired.congr (drawToStand_effectLogs hdraws) rfl)

private theorem surrender_passes (h : (surrender house).run s = .ok status s') :
    s.PassesThrough house .surrender (.hand status) s' := by
  obtain ⟨-, -, hfinish⟩ := surrender_finishes h
  have hbearers := (s.fireTable_flows house.catalog .onLoss).bleeds.framed.bearers
  have hfired := s.fireAt_hasFired house.catalog (.table .onLoss)
  exact .once (hfinish.bearers.trans hbearers) .surrender (hfired.congr rfl hfinish.effectLogs)

private theorem announceRound_hasFired {tutorial : Bool} {u : Unit}
    (h : (announceRound house.catalog tutorial).run s = .ok u s') :
    s'.table.bearers = s.table.bearers ∧
      s.HasFired (s.table.bearers.firingsAt house.catalog .roundStart) s' := by
  simp only [announceRound, bind_eq_ok, round_eq_ok, modify_eq_ok, and_assoc, exists_and_left,
    exists_eq_left, exists_const] at h
  obtain ⟨round, -, rfl⟩ := h
  generalize hv : s.emit (.roundStarted round.number round.daimon round.daimonPool tutorial) = v
  have hvlogs : v.effectLogs = s.effectLogs := by rw [← hv, emit_silent _ rfl]
  have hflows : v.Flows (v.fireAt house.catalog .roundStart).1 :=
    (v.fireToken_flows house.catalog .roundStart).trans
      (fireDaimon_flows _ house.catalog .roundStart)
  have hbearers : v.table.bearers = s.table.bearers := by rw [← hv]; rfl
  rw [← hbearers]
  exact ⟨hflows.bleeds.framed.bearers,
    (v.fireAt_hasFired house.catalog .roundStart).congr hvlogs rfl⟩

private theorem startRound_passes {u : Unit} (h : (startRound house).run s = .ok u s') :
    s.PassesThrough house .startRound .done s' := by
  obtain ⟨e, -, -, hrefused⟩ | ⟨t, hnext, hrun⟩ := startRound_cases house s
  · rw [hrefused] at h
    cases h
  · rw [hrun] at h
    obtain ⟨_, _, _, rng, -, -, -, -, rfl⟩ := nextRound?_eq_some hnext
    obtain ⟨_, u, hshuffle, hannounce⟩ := bind_eq_ok.mp h
    obtain ⟨round, shoe, rng', -, -, rfl⟩ := shuffleDeck_fills hshuffle
    obtain ⟨hbearers, hfired⟩ := announceRound_hasFired hannounce
    exact .once hbearers .startRound (hfired.congr (emit_silent _ rfl) rfl)

private theorem equipToken_passes {slot : SlotId} {token : TokenId} {logs : List EffectLog}
    (h : (equipToken house slot token).run s = .ok logs s') :
    s.PassesThrough house (.equipToken slot token) (.effects logs) s' := by
  simp only [equipToken, bind_eq_ok, get_eq_ok, refuseIf_eq_ok, and_assoc, exists_and_left,
    exists_eq_left, exists_const] at h
  obtain ⟨-, h⟩ := h
  split at h
  · exact absurd h throw_ne_ok
  · next place hplace =>
    simp only [bind_eq_ok, get_eq_ok, ofExcept_eq_ok, modify_eq_ok, and_assoc, exists_and_left,
      exists_eq_left, exists_const] at h
    obtain ⟨player, hplayer, h⟩ := h
    split at h
    · simp only [bind_eq_ok, get_eq_ok, ofStep_eq_ok, and_assoc, exists_and_left,
        exists_eq_left] at h
      obtain ⟨fired, t, hfire, h⟩ := h
      have hflows := fireSlot_flows (s.putPlayer player) house.catalog token place.slotType
        .onEquip
      have hfired := (s.putPlayer player).fireAt_hasFired house.catalog
        (.equipped token place.slotType)
      simp only [fireAt, hfire] at hflows hfired
      have hbearers := hflows.bleeds.framed.bearers
      split at h
      · next hover =>
        simp only [bind_eq_ok, pure_eq_ok] at h
        obtain ⟨_, _, hclose, rfl, rfl⟩ := h
        have hfinish := closeByRound_finishes hover.1 hclose
        exact .once (hfinish.bearers.trans hbearers) (.equipped place.slotType)
          (hfired.congr rfl hfinish.effectLogs)
      · obtain ⟨rfl, rfl⟩ := pure_eq_ok.mp h
        exact .once hbearers (.equipped place.slotType) (hfired.congr rfl rfl)
    · obtain ⟨rfl, rfl⟩ := pure_eq_ok.mp h
      exact .quiet .stowed rfl

theorem request_passes {request : Request} {reply : Reply}
    (h : (request.play house).run s = .ok reply s') : s.PassesThrough house request reply s' := by
  cases request with
  | startGame =>
    obtain ⟨_, hplay, rfl⟩ := bind_pure_eq_ok.mp h
    have hgame : Transition house s .startGame s' := startGame_transition hplay
    rw [hgame.startGame_eq]
    exact .quiet .startGame (emit_silent _ rfl)
  | startRound =>
    obtain ⟨_, hplay, rfl⟩ := bind_pure_eq_ok.mp h
    exact startRound_passes hplay
  | startHand =>
    obtain ⟨_, hplay, rfl⟩ := bind_pure_eq_ok.mp h
    exact startHand_passes hplay
  | draw =>
    obtain ⟨_, hplay, rfl⟩ := bind_pure_eq_ok.mp h
    exact draw_passes hplay
  | stand =>
    obtain ⟨_, hplay, rfl⟩ := bind_pure_eq_ok.mp h
    exact stand_passes hplay
  | surrender =>
    obtain ⟨_, hplay, rfl⟩ := bind_pure_eq_ok.mp h
    exact surrender_passes hplay
  | doubleDown =>
    obtain ⟨_, hplay, -⟩ := bind_pure_eq_ok.mp h
    exact absurd hplay doubleDown_ne_ok
  | equipToken slot token =>
    obtain ⟨_, hplay, rfl⟩ := bind_pure_eq_ok.mp h
    exact equipToken_passes hplay
  | assignDeck cards =>
    obtain ⟨_, hplay, rfl⟩ := bind_pure_eq_ok.mp h
    simp only [assignDeck, bind_eq_ok, get_eq_ok, ranks_eq_ok, ofExcept_eq_ok, modify_eq_ok,
      and_assoc, exists_and_left, exists_eq_left] at hplay
    obtain ⟨_, -, player, -, rfl⟩ := hplay
    exact .quiet .assignDeck rfl
  | claimStoryToken =>
    obtain ⟨_, hplay, rfl⟩ := bind_pure_eq_ok.mp h
    obtain ⟨round, -, -, -, ⟨-, rfl⟩ | ⟨token, -, -, rfl⟩⟩ := claimStoryToken_cases hplay
    · exact .quiet .claimStoryToken rfl
    · exact .quiet .claimStoryToken (emit_silent _ rfl)

end Play

/-- An effect that hurts both sides when the player loses. -/
def Effect.spite : Effect where
  kindId := EffectKind.damageDaimonAndPlayer.id
  bundle := .ofList [(.playerHealth, ⟨-0.1, .onLoss⟩), (.daimonHealth, ⟨-0.1, .onLoss⟩)]

def House.spiteful : House where
  catalog := {
    daimons := [{
      id := 1
      name := "Mara"
      rune := "m"
      storySequence := 0
      effect := .spite
      intro := ""
      playerWin := ""
      playerLose := "" }] }

/-- An open hand of the tutorial with a charred card and a standard one. -/
def Session.charredHand : Session :=
  (Session.tutorialRound [270] []).putHand
    { pot := 1000, playerCards := [55, 261], daimonCards := [273] }

end BloodStakes
