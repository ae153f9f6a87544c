import BloodStakes.Proofs.Bleeding
import BloodStakes.Proofs.Dealing

/-!
What a play does to a session when it may be refused on the way. Whatever has happened by
then is a run of elementary updates, each with the guard it was made under.
-/
namespace BloodStakes

/-- Whether an event only tells what can be seen on the table. -/
def Event.announces : Event → Bool
  | .roundStarted .. | .handDealt .. | .cardDrawn .. => true
  | _ => false

/-- One update of a session that opens neither a game nor a round. -/
inductive Session.Deed (house : House) : Session → Session → Prop
  | blood {s s' : Session} (h : s.BloodStep s') : Deed house s s'
  | settle (s : Session) : Deed house s s.settleRound
  | maximum (s : Session) (multiplier : Float) (hround : s.table.round? = none) :
      Deed house s (s.scaleCeiling multiplier)
  | announce (s : Session) (event : Event) (h : event.announces = true) :
      Deed house s (s.emit event)
  | chance (s : Session) (rng : Rng) : Deed house s { s with rng }
  | fillShoe {s : Session} {round : Round} (hround : s.table.round? = some round)
      (shoe : List CardId) : Deed house s (s.fillShoe round shoe)
  | takeCard {s : Session} {round : Round} {card : CardId} {shoe : List CardId}
      (hround : s.table.round? = some round) (hshoe : round.shoe = card :: shoe) :
      Deed house s (s.putRound { round with shoe })
  | receive {s : Session} {hand : Hand} (hhand : s.table.hand? = some hand) (side : Side)
      (cards : List CardId) : Deed house s (s.putHand (hand.receive side cards))
  | openHand {s : Session} {round : Round} (hround : s.table.round? = some round)
      (hopen : round.isInProgress = true) (hidle : s.handInProgress = false) (stake : Int) :
      Deed house s (s.openHand round stake)
  | closeHand {s : Session} {hand : Hand} (hhand : s.table.hand? = some hand)
      (status : HandStatus) (playerTotal daimonTotal : Nat) :
      Deed house s ((s.closeHand hand status).emit
        (.handResolved status hand.pot playerTotal daimonTotal))
  | equipToken {s : Session} {slot : SlotId} {token : TokenId} {player : Player}
      (hplayer : s.table.player.equipToken slot token = .ok player) :
      Deed house s (s.putPlayer player)
  | assignDeck {s : Session} {cards : List CardId} {player : Player}
      (hplayer : s.table.player.assignDeck cards house.rules.deckSize = .ok player) :
      Deed house s (s.putPlayer player)
  | claimReward {s : Session} {round : Round} (hround : s.table.round? = some round)
      (hwon : round.status = .won) (hclaim : round.rewardClaimed = false) :
      Deed house s (s.putRound { round with rewardClaimed := true })
  | grantToken (s : Session) (token : TokenId) : Deed house s (s.grantStoryToken token)

/-- One update of a session. -/
inductive Session.Update (house : House) : Session → Session → Prop
  | deed {s s' : Session} (h : s.Deed house s') : Update house s s'
  | openGame {s : Session} (hidle : s.table.game?.any Game.isInProgress = false) :
      Update house s s.openGame
  | openRound {s : Session} {game game' : Game} {daimon : Daimon} {rng : Rng}
      (hidle : s.roundInProgress = false) (hgame : s.table.game? = some game)
      (hopen : game.isInProgress = true)
      (hdaimon : house.catalog.nextDaimon s.table.player.storyProgression game s.rng =
        some (daimon, game', rng)) :
      Update house s ({ s with rng }.openRound house.rules daimon game')

/-- Any number of updates that open neither a game nor a round. -/
abbrev Session.Deeds (house : House) : Session → Session → Prop :=
  Relation.ReflTransGen (Session.Deed house)

/-- Any number of updates. -/
abbrev Session.Updates (house : House) : Session → Session → Prop :=
  Relation.ReflTransGen (Session.Update house)

theorem Session.Bleeds.deeds {house : House} {s s' : Session} (h : s.Bleeds s') :
    s.Deeds house s' :=
  h.lift id fun _ _ => .blood

theorem Session.Flows.deeds {house : House} {s s' : Session} (h : s.Flows s') :
    s.Deeds house s' :=
  h.bleeds.deeds

theorem Session.Deeds.updates {house : House} {s s' : Session} (h : s.Deeds house s') :
    s.Updates house s' :=
  h.lift id fun _ _ => .deed

/-- The session with the next round opened, if a round may be opened. -/
def Session.nextRound? (house : House) (s : Session) : Option Session :=
  if s.roundInProgress then none
  else do
    let game ← s.table.game?.filter Game.isInProgress
    let (daimon, game, rng) ←
      house.catalog.nextDaimon s.table.player.storyProgression game s.rng
    return { s with rng }.openRound house.rules daimon game

theorem Session.nextRound?_eq_some {house : House} {s t : Session}
    (h : s.nextRound? house = some t) :
    ∃ game daimon game' rng, s.roundInProgress = false ∧ s.table.game? = some game ∧
      game.isInProgress = true ∧
      house.catalog.nextDaimon s.table.player.storyProgression game s.rng =
        some (daimon, game', rng) ∧
      t = { s with rng }.openRound house.rules daimon game' := by
  unfold nextRound? at h
  split at h
  · cases h
  · next hidle =>
    simp only [Option.bind_eq_bind, Option.bind_eq_some_iff, Option.filter_eq_some_iff] at h
    obtain ⟨game, ⟨hgame, hopen⟩, ⟨daimon, game', rng⟩, hdaimon, ⟨⟩⟩ := h
    exact ⟨game, daimon, game', rng, Bool.eq_false_iff.mpr hidle, hgame, hopen, hdaimon, rfl⟩

/-- Whether the store has refused something. -/
def PlayError.isStore : PlayError → Bool
  | .store _ => true
  | _ => false

namespace Play

open Session

/-- The session as a play leaves it, granted or refused. -/
def after {α : Type} (p : Play α) (s : Session) : Session :=
  match p.run s with
  | .ok _ s' => s'
  | .error _ s' => s'

/-- All that a play does to a session is steps of one kind, and no store is what refuses it. -/
structure Leads {α : Type} (Step : Session → Session → Prop) (p : Play α) (s : Session) :
    Prop where
  steps : Relation.ReflTransGen Step s (p.after s)
  refusal : ∀ e s', p.run s = .error e s' → e.isStore = false

section
variable {α β : Type} {Step : Session → Session → Prop} {p : Play α} {f : α → Play β}
  {s s' : Session}

theorem after_eq_of_ok {a : α} (h : p.run s = .ok a s') : p.after s = s' := by
  unfold after
  rw [h]

theorem after_eq_of_error {e : PlayError} (h : p.run s = .error e s') : p.after s = s' := by
  unfold after
  rw [h]

theorem after_congr {q : Play α} {t : Session}
    (h : p.run s = q.run t) : p.after s = q.after t := by
  unfold after
  rw [h]

theorem leads_of_ok {a : α} (h : p.run s = .ok a s') (hsteps : Relation.ReflTransGen Step s s') :
    Leads Step p s where
  steps := by rwa [after_eq_of_ok h]
  refusal e t he := by simp [h] at he

theorem leads_of_error {e : PlayError} (h : p.run s = .error e s)
    (he : e.isStore = false) : Leads Step p s where
  steps := by
    rw [after_eq_of_error h]
  refusal e' t he' := by
    rw [h] at he'
    cases he'
    exact he

theorem Leads.mono {Step' : Session → Session → Prop} (h : p.Leads Step s)
    (hstep : ∀ t u, Step t u → Step' t u) : p.Leads Step' s where
  steps := h.steps.lift id hstep
  refusal := h.refusal

theorem leads_pure (a : α) : Leads Step (pure a) s := leads_of_ok rfl .refl

theorem leads_throw (e : PlayError) (he : e.isStore = false) :
    Leads Step (throw e : Play α) s :=
  leads_of_error rfl he

private theorem leads_get : Leads Step get s := leads_of_ok rfl .refl

theorem leads_modify {g : Session → Session} (h : Relation.ReflTransGen Step s (g s)) :
    Leads Step (modify g) s := leads_of_ok rfl h

private theorem leads_ofStep {step : Session → Session × α}
    (h : Relation.ReflTransGen Step s (step s).1) :
    Leads Step (ofStep step) s := leads_of_ok rfl h

theorem leads_refuseIf (condition : Bool) {e : PlayError} (he : e.isStore = false) :
    Leads Step (refuseIf condition e) s := by
  cases condition with
  | false => exact leads_of_ok rfl .refl
  | true => exact leads_of_error rfl he

private theorem leads_ofExcept {ε : Type} {toError : ε → PlayError}
    (he : ∀ e, (toError e).isStore = false) (result : Except ε α) :
    Leads Step (ofExcept toError result) s := by
  cases result with
  | ok a => exact leads_of_ok rfl .refl
  | error e => exact leads_of_error rfl (he e)

private theorem leads_round : Leads Step round s := by
  have hrun := run_round s
  cases hround : s.table.round? with
  | some round =>
    rw [hround] at hrun
    exact leads_of_ok hrun .refl
  | none =>
    rw [hround] at hrun
    exact leads_of_error hrun rfl

private theorem leads_hand : Leads Step hand s := by
  have hrun := run_hand s
  cases hhand : s.table.hand? with
  | some hand =>
    rw [hhand] at hrun
    exact leads_of_ok hrun .refl
  | none =>
    rw [hhand] at hrun
    exact leads_of_error hrun rfl

theorem Leads.bind (hp : Leads Step p s)
    (hf : ∀ a s', p.run s = .ok a s' → Leads Step (f a) s') : Leads Step (p >>= f) s := by
  cases hrun : p.run s with
  | error e s' =>
    have hbind : (p >>= f).run s = .error e s' := by rw [run_bind, hrun]
    have hsteps := hp.steps
    rw [after_eq_of_error hrun, ← after_eq_of_error hbind] at hsteps
    refine ⟨hsteps, fun e' t he => ?_⟩
    rw [hbind] at he
    cases he
    exact hp.refusal e s' hrun
  | ok a s' =>
    have hbind : (p >>= f).run s = (f a).run s' := by rw [run_bind, hrun]
    have hrest := hf a s' hrun
    have hafter : (p >>= f).after s = (f a).after s' := by
      unfold after
      rw [hbind]
    have hsteps := hp.steps
    rw [after_eq_of_ok hrun] at hsteps
    refine ⟨hafter ▸ hsteps.trans hrest.steps, fun e t he => ?_⟩
    exact hrest.refusal e t (hbind ▸ he)

theorem Leads.get_bind {f : Session → Play β} (h : Leads Step (f s) s) :
    Leads Step (get >>= f) s := by
  refine leads_get.bind ?_
  rintro _ _ ⟨⟩
  exact h

theorem Leads.modify_bind {g : Session → Session} {f : PUnit → Play β}
    (h : Relation.ReflTransGen Step s (g s)) (hf : Leads Step (f ⟨⟩) (g s)) :
    Leads Step (modify g >>= f) s := by
  refine (leads_modify h).bind ?_
  rintro _ _ ⟨⟩
  exact hf

theorem Leads.refuseIf_bind {condition : Bool} {e : PlayError} {f : Unit → Play β}
    (he : e.isStore = false) (h : condition = false → Leads Step (f ()) s) :
    Leads Step (refuseIf condition e >>= f) s := by
  refine (leads_refuseIf condition he).bind fun _ s' hrun => ?_
  obtain ⟨hcondition, rfl⟩ := refuseIf_eq_ok.mp hrun
  exact h hcondition

theorem Leads.ofExcept_bind {ε : Type} {toError : ε → PlayError} {result : Except ε α}
    (he : ∀ e, (toError e).isStore = false) (h : ∀ a, result = .ok a → Leads Step (f a) s) :
    Leads Step (ofExcept toError result >>= f) s := by
  refine (leads_ofExcept he result).bind fun a s' hrun => ?_
  obtain ⟨hresult, rfl⟩ := ofExcept_eq_ok.mp hrun
  exact h a hresult

theorem Leads.round_bind {f : Round → Play β}
    (h : ∀ round, s.table.round? = some round → Leads Step (f round) s) :
    Leads Step (round >>= f) s := by
  refine leads_round.bind fun round s' hrun => ?_
  obtain ⟨hround, rfl⟩ := round_eq_ok.mp hrun
  exact h round hround

theorem Leads.hand_bind {f : Hand → Play β}
    (h : ∀ hand, s.table.hand? = some hand → Leads Step (f hand) s) :
    Leads Step (hand >>= f) s := by
  refine leads_hand.bind fun hand s' hrun => ?_
  obtain ⟨hhand, rfl⟩ := hand_eq_ok.mp hrun
  exact h hand hhand

theorem Leads.ranks_bind {cards : List CardId} {f : List Rank → Play β}
    (h : ∀ found, ranksOf cards = .ok found → Leads Step (f found) s) :
    Leads Step (ranks cards >>= f) s :=
  Leads.ofExcept_bind (fun _ => rfl) h

end

variable {house : House} {s : Session}

theorem weightedShuffle_leads (rules : Rules) (cards : List CardId) (number : Nat) :
    Leads (Deed house) (weightedShuffle rules cards number) s := by
  refine .ranks_bind fun faces _ => .get_bind (.ofExcept_bind (fun _ => rfl) fun order _ => ?_)
  exact .modify_bind (.single (.chance s order.2)) (leads_pure _)

theorem fillShoe_leads (shoe : List CardId) : Leads (Deed house) (fillShoe shoe) s :=
  .round_bind fun _ hround => leads_modify (.single (.fillShoe hround shoe))

theorem shuffleDeck_leads (rules : Rules) : Leads (Deed house) (shuffleDeck rules) s := by
  refine .round_bind fun round _ => .get_bind ?_
  dsimp only
  split
  · exact (weightedShuffle_leads rules _ _).bind fun _ _ _ => fillShoe_leads _
  · exact fillShoe_leads _

private theorem refill_leads (rules : Rules) (round : Round) : Leads (Deed house)
    (refill rules round) s := by
  refine .get_bind ?_
  split
  · exact weightedShuffle_leads rules _ _
  · exact leads_pure _

theorem reshuffleIfEmpty_leads (rules : Rules) : Leads (Deed house) (reshuffleIfEmpty rules) s := by
  refine .get_bind ?_
  split
  · exact leads_pure _
  · split
    · refine (refill_leads rules _).bind fun shoe _ _ => ?_
      split
      · exact leads_pure _
      · exact (fillShoe_leads shoe).bind fun _ _ _ => leads_pure _
    · exact leads_pure _

private theorem nextCard_leads (rules : Rules) : Leads (Deed house) (nextCard rules) s := by
  refine (reshuffleIfEmpty_leads rules).bind fun _ s' _ => .round_bind fun current hround => ?_
  split
  · exact leads_pure _
  · next card shoe hshoe =>
    exact .modify_bind (.single (.takeCard hround hshoe)) (leads_pure _)

private theorem takeCards_leads (rules : Rules) (count : Nat) : Leads (Deed house)
    (takeCards rules count) s := by
  induction count generalizing s with
  | zero => exact leads_pure _
  | succ count ih =>
    refine (nextCard_leads rules).bind fun card? s' _ => ?_
    cases card? with
    | none => exact leads_pure _
    | some card => exact ih.bind fun _ _ _ => leads_pure _

theorem deal_leads (rules : Rules) (side : Side) (count : Nat) :
    Leads (Deed house) (deal rules side count) s := by
  refine .hand_bind fun _ _ => (takeCards_leads rules count).bind fun cards s' _ => ?_
  refine .hand_bind fun current hhand => ?_
  cases side with
  | player => exact .modify_bind (.single (.receive hhand .player cards)) (leads_pure _)
  | daimon => exact .modify_bind (.single (.receive hhand .daimon cards)) (leads_pure _)

theorem finishHand_leads (status : HandStatus) : Leads (Deed house) (finishHand status) s := by
  refine .hand_bind fun current hhand => .ranks_bind fun player _ => .ranks_bind fun daimon _ => ?_
  exact .modify_bind (.single (.closeHand hhand status _ _)) (leads_pure _)

theorem closeByRound_leads : Leads (Deed house) closeByRound s :=
  .get_bind (finishHand_leads _)

theorem unlessOver_leads {next : Play HandStatus} (h : Leads (Deed house) next s) :
    Leads (Deed house) (unlessOver next) s := by
  refine .get_bind ?_
  split
  · exact closeByRound_leads
  · exact h

theorem settle_leads (outcome : Outcome) : Leads (Deed house) (settle house.catalog outcome) s := by
  refine .get_bind (.refuseIf_bind rfl fun _ => .modify_bind ?_ (unlessOver_leads ?_))
  · exact (s.fireTable_flows house.catalog outcome.phase).deeds
  · refine .hand_bind fun current _ => .modify_bind ?_ (finishHand_leads _)
    exact (payPot_bleeds _ outcome current.pot).deeds

theorem resolve_leads : Leads (Deed house) (resolve house.catalog) s :=
  .hand_bind fun _ _ => .ranks_bind fun _ _ => .ranks_bind fun _ _ => settle_leads _

theorem dealHand_leads : Leads (Deed house) (dealHand house) s := by
  refine (deal_leads _ _ _).bind fun _ t _ => (deal_leads _ _ _).bind fun _ u _ => ?_
  refine .hand_bind fun dealt _ => .modify_bind (.single (.announce u _ rfl)) ?_
  refine .modify_bind (fireTable_flows _ _ _).deeds (unlessOver_leads ?_)
  refine .hand_bind fun current _ => .ranks_bind fun playerRanks _ => ?_
  split
  · exact (deal_leads _ _ _).bind fun _ _ _ => resolve_leads
  · exact leads_pure _

private theorem startHand_leads : Leads (Deed house) (startHand house) s := by
  refine .get_bind ?_
  split
  · exact leads_throw _ rfl
  · next round hround =>
    refine .refuseIf_bind rfl fun hopen => .get_bind (.refuseIf_bind rfl fun hidle => ?_)
    have hopen : round.isInProgress = true := by simpa [Round.isTerminal] using hopen
    refine .bind (.round_bind fun _ _ => .get_bind (leads_pure _)) fun stake s' hwager => ?_
    have hsame : s' = s := by
      simp only [wager, bind_eq_ok, round_eq_ok, get_eq_ok, pure_eq_ok, and_assoc,
        exists_and_left, exists_eq_left] at hwager
      obtain ⟨_, _, _, rfl⟩ := hwager
      rfl
    rw [hsame]
    refine .modify_bind (.single (.openHand hround hopen hidle stake)) ?_
    split
    · exact .modify_bind (changePlayerPool_bleeds _ _).deeds closeByRound_leads
    · refine .modify_bind ?_ (unlessOver_leads dealHand_leads)
      exact (payStakes_bleeds _ stake).deeds

theorem ensureAvailable_leads (move : Move) : Leads (Deed house) (ensureAvailable move) s :=
  .get_bind (.refuseIf_bind rfl fun _ => leads_refuseIf _ rfl)

private theorem draw_leads : Leads (Deed house) (draw house) s := by
  refine (ensureAvailable_leads _).bind fun _ t _ => (deal_leads _ _ _).bind fun cards u _ => ?_
  split
  · exact leads_throw _ rfl
  · next card _ _ =>
    refine .hand_bind fun current _ => .ranks_bind fun playerRanks _ => ?_
    refine .modify_bind (.single (.announce u _ rfl)) ?_
    refine .modify_bind (fireCards_flows _ _ _).deeds (.get_bind ?_)
    split
    · exact closeByRound_leads.bind fun _ _ _ => leads_pure _
    · split
      · exact resolve_leads.bind fun _ _ _ => leads_pure _
      · exact leads_pure _

theorem drawToStand_leads (rules : Rules) (fuel : Nat) :
    Leads (Deed house) (drawToStand rules fuel) s := by
  induction fuel generalizing s with
  | zero => exact leads_pure _
  | succ fuel ih =>
    refine .hand_bind fun current _ => .ranks_bind fun daimonRanks _ => ?_
    split
    · exact leads_pure _
    · refine (deal_leads _ _ _).bind fun cards t _ => ?_
      cases cards with
      | nil => exact leads_pure _
      | cons card cards => exact ih

private theorem stand_leads : Leads (Deed house) (stand house) s := by
  refine (ensureAvailable_leads _).bind fun _ t _ => .bind ?_ fun fuel u _ => ?_
  · refine .get_bind ?_
    split <;> exact leads_pure _
  · exact (drawToStand_leads _ _).bind fun _ _ _ => resolve_leads

private theorem surrender_leads : Leads (Deed house) (surrender house) s := by
  refine (ensureAvailable_leads _).bind fun _ t _ => .modify_bind ?_ (unlessOver_leads ?_)
  · exact (fireTable_flows t _ _).deeds
  · refine .hand_bind fun current _ => .modify_bind ?_ (finishHand_leads _)
    exact (refund_bleeds _ _ _).deeds

private theorem doubleDown_leads : Leads (Deed house) doubleDown s :=
  .get_bind (.refuseIf_bind rfl fun _ => leads_throw _ rfl)

private theorem announceRound_leads (tutorial : Bool) :
    Leads (Deed house) (announceRound house.catalog tutorial) s := by
  refine .round_bind fun current _ => .modify_bind (.single (.announce s _ rfl)) ?_
  refine .modify_bind (fireToken_flows _ _ _).deeds (leads_modify ?_)
  exact (fireDaimon_flows _ _ _).deeds

private theorem equipToken_leads (slot : SlotId) (token : TokenId) :
    Leads (Deed house) (equipToken house slot token) s := by
  refine .refuseIf_bind rfl fun _ => .get_bind ?_
  dsimp only
  split
  · exact leads_throw _ rfl
  · next place _ =>
    refine .ofExcept_bind (fun _ => rfl) fun player hplayer => ?_
    refine .modify_bind (.single (.equipToken hplayer)) (.get_bind ?_)
    split
    · refine .bind (leads_ofStep (fireSlot_flows _ _ _ _ _).deeds) fun logs t _ => .get_bind ?_
      split
      · exact closeByRound_leads.bind fun _ _ _ => leads_pure _
      · exact leads_pure _
    · exact leads_pure _

private theorem assignDeck_leads (cards : List CardId) : Leads (Deed house)
    (assignDeck house.rules cards) s := by
  refine .ranks_bind fun _ _ => .get_bind (.ofExcept_bind (fun _ => rfl) fun player hplayer => ?_)
  exact leads_modify (.single (.assignDeck hplayer))

private theorem claimStoryToken_leads : Leads (Deed house) (claimStoryToken house.catalog) s := by
  refine .round_bind fun current hcurrent => .refuseIf_bind rfl fun hwon => ?_
  refine .refuseIf_bind rfl fun hclaim => ?_
  have hwon : current.status = .won := by simpa using hwon
  refine .modify_bind (.single (.claimReward hcurrent hwon hclaim)) (.get_bind ?_)
  split
  · exact leads_pure _
  · exact .modify_bind (.single (.grantToken _ _)) (leads_pure _)

theorem request_leads_deeds {request : Request} (hgame : request ≠ .startGame)
    (hround : request ≠ .startRound) : Leads (Deed house) (request.play house) s := by
  cases request with
  | startGame => exact absurd rfl hgame
  | startRound => exact absurd rfl hround
  | startHand => exact startHand_leads.bind fun _ _ _ => leads_pure _
  | draw => exact draw_leads.bind fun _ _ _ => leads_pure _
  | stand => exact stand_leads.bind fun _ _ _ => leads_pure _
  | surrender => exact surrender_leads.bind fun _ _ _ => leads_pure _
  | doubleDown => exact doubleDown_leads.bind fun _ _ _ => leads_pure _
  | equipToken slot token => exact (equipToken_leads slot token).bind fun _ _ _ => leads_pure _
  | assignDeck cards => exact (assignDeck_leads cards).bind fun _ _ _ => leads_pure _
  | claimStoryToken => exact claimStoryToken_leads.bind fun _ _ _ => leads_pure _

private theorem startGame_leads : Leads (Update house) startGame s :=
  .get_bind (.refuseIf_bind rfl fun hidle => leads_modify (.single (.openGame hidle)))

theorem startRound_cases (house : House) (s : Session) :
    (∃ e, e.isStore = false ∧ s.nextRound? house = none ∧
      (startRound house).run s = .error e s) ∨
    ∃ t, s.nextRound? house = some t ∧ (startRound house).run s = (do
      shuffleDeck house.rules
      announceRound house.catalog (!s.table.player.tutorialFinished)).run t := by
  unfold startRound nextRound?
  cases hopen : s.roundInProgress with
  | true => exact .inl ⟨.roundInProgress, rfl, rfl, by simp [hopen]⟩
  | false =>
    simp only [run_bind, run_get, run_refuseIf, hopen, Bool.false_eq_true, ↓reduceIte]
    cases hgame : s.table.game?.filter Game.isInProgress with
    | none => exact .inl ⟨.noGame, rfl, rfl, rfl⟩
    | some game =>
      simp only [Option.bind_eq_bind, Option.bind_some]
      cases hdaimon :
          house.catalog.nextDaimon s.table.player.storyProgression game s.rng with
      | none => exact .inl ⟨.noDaimon s.table.player.storyProgression, rfl, rfl, rfl⟩
      | some next =>
        obtain ⟨daimon, game', rng⟩ := next
        refine .inr ⟨_, rfl, ?_⟩
        simp only [run_bind]
        rfl

theorem openedRound_leads (tutorial : Bool) : Leads (Deed house) (do
    shuffleDeck house.rules
    announceRound house.catalog tutorial) s :=
  (shuffleDeck_leads _).bind fun _ _ _ => announceRound_leads _

/-- Even if the shoe cannot be filled, a round that has been opened stays on the table. -/
theorem startRound_after (house : House) (s : Session) :
    s.nextRound? house = none ∧ (startRound house).after s = s ∨
    ∃ t, s.nextRound? house = some t ∧ t.Deeds house ((startRound house).after s) := by
  obtain ⟨e, -, hnone, hrun⟩ | ⟨t, hopen, hrun⟩ := startRound_cases house s
  · exact .inl ⟨hnone, after_eq_of_error hrun⟩
  · rw [after_congr hrun]
    exact .inr ⟨t, hopen, (openedRound_leads _).steps⟩

private theorem startRound_leads : Leads (Update house) (startRound house) s := by
  obtain ⟨e, he, -, hrun⟩ | ⟨t, hopen, hrun⟩ := startRound_cases house s
  · exact leads_of_error hrun he
  · have hrest : Leads (Deed house) _ t := openedRound_leads (!s.table.player.tutorialFinished)
    obtain ⟨_, _, _, _, hidle, hgame, hgoing, hdaimon, rfl⟩ := nextRound?_eq_some hopen
    have hafter := after_congr hrun
    refine ⟨?_, fun e u he => hrest.refusal e u (hrun ▸ he)⟩
    rw [hafter]
    exact .head (.openRound hidle hgame hgoing hdaimon) (Deeds.updates hrest.steps)

theorem request_leads (request : Request) : Leads (Update house) (request.play house) s := by
  by_cases hgame : request = .startGame
  · rw [hgame]
    exact startGame_leads.bind fun _ _ _ => leads_pure _
  · by_cases hround : request = .startRound
    · rw [hround]
      exact startRound_leads.bind fun _ _ _ => leads_pure _
    · exact (request_leads_deeds hgame hround).mono fun _ _ => .deed

end Play

/-- A request, a part of one, or a change of blood. -/
inductive Operation where
  | ask (request : Request)
  | shuffleDeck
  | reshuffleIfEmpty
  | deal (side : Side) (count : Nat)
  | resolve
  | settle (outcome : Outcome)
  | settleRound
  | changePlayerPool (delta : Int)
  | changeDaimonPool (delta : Int)
  | changePot (delta : Int)
  | scaleCeiling (multiplier : Float)
  | scaleDaimonMaximum (multiplier : Float)
  | fire (source : EffectSource) (effect : Effect) (phase : Phase)
  | fireSlot (token : TokenId) (slotType : SlotType) (phase : Phase)
  | fireToken (phase : Phase)
  | fireDaimon (phase : Phase)
  | fireCards (cards : List CardId) (phase : Phase)

def Operation.play (house : House) : Operation → Play Unit
  | ask request => do let _ ← request.play house; return
  | shuffleDeck => Play.shuffleDeck house.rules
  | reshuffleIfEmpty => do let _ ← Play.reshuffleIfEmpty house.rules; return
  | deal side count => do let _ ← Play.deal house.rules side count; return
  | resolve => do let _ ← Play.resolve house.catalog; return
  | settle outcome => do let _ ← Play.settle house.catalog outcome; return
  | settleRound => modify Session.settleRound
  | changePlayerPool delta => modify fun s => s.changePlayerPool delta
  | changeDaimonPool delta => modify fun s => s.changeDaimonPool delta
  | changePot delta => modify fun s => s.changePot delta
  | scaleCeiling multiplier => modify fun s => s.scaleCeiling multiplier
  | scaleDaimonMaximum multiplier => modify fun s => s.scaleDaimonMaximum multiplier
  | fire source effect phase => modify fun s => (s.fire source effect phase).1
  | fireSlot token slotType phase =>
    modify fun s => (s.fireSlot house.catalog token slotType phase).1
  | fireToken phase => modify fun s => (s.fireToken house.catalog phase).1
  | fireDaimon phase => modify fun s => (s.fireDaimon house.catalog phase).1
  | fireCards cards phase => modify fun s => (Session.fireCards phase cards s).1

/-- The session after operations in order, each of which may be refused on the way. -/
def Session.afterAll (house : House) (s : Session) : List Operation → Session
  | [] => s
  | operation :: operations => ((operation.play house).after s).afterAll house operations

/-- Whether an operation asks for a new game or a new round. -/
def Operation.isOpening : Operation → Bool
  | ask .startGame | ask .startRound => true
  | _ => false

open Session in
theorem Operation.play_leads_deeds {house : House} {operation : Operation}
    (h : operation.isOpening = false) (s : Session) :
    (operation.play house).Leads (Deed house) s := by
  cases operation with
  | ask request =>
    refine (Play.request_leads_deeds ?_ ?_).bind fun _ _ _ => Play.leads_pure _
    · rintro rfl
      cases h
    · rintro rfl
      cases h
  | shuffleDeck => exact Play.shuffleDeck_leads _
  | reshuffleIfEmpty =>
    exact (Play.reshuffleIfEmpty_leads _).bind fun _ _ _ => Play.leads_pure _
  | deal side count => exact (Play.deal_leads _ side count).bind fun _ _ _ => Play.leads_pure _
  | resolve => exact Play.resolve_leads.bind fun _ _ _ => Play.leads_pure _
  | settle outcome => exact (Play.settle_leads outcome).bind fun _ _ _ => Play.leads_pure _
  | settleRound => exact Play.leads_modify (.single (.settle s))
  | changePlayerPool delta => exact Play.leads_modify (changePlayerPool_bleeds s delta).deeds
  | changeDaimonPool delta => exact Play.leads_modify (changeDaimonPool_bleeds s delta).deeds
  | changePot delta => exact Play.leads_modify (.single (.blood (.pot s delta)))
  | scaleCeiling multiplier =>
    cases hround : s.table.round? with
    | none => exact Play.leads_modify (.single (.maximum s multiplier hround))
    | some round => exact Play.leads_modify (.single (.blood (.ceiling s multiplier round hround)))
  | scaleDaimonMaximum multiplier =>
    exact Play.leads_modify (.single (.blood (.daimonMaximum s multiplier)))
  | fire source effect phase => exact Play.leads_modify (fire_flows s source effect phase).deeds
  | fireSlot token slotType phase =>
    exact Play.leads_modify (fireSlot_flows s _ token slotType phase).deeds
  | fireToken phase => exact Play.leads_modify (fireToken_flows s _ phase).deeds
  | fireDaimon phase => exact Play.leads_modify (fireDaimon_flows s _ phase).deeds
  | fireCards cards phase => exact Play.leads_modify (fireCards_flows phase cards s).deeds

theorem Operation.play_leads {house : House} (operation : Operation) (s : Session) :
    (operation.play house).Leads (Session.Update house) s := by
  cases hopening : operation.isOpening with
  | false => exact (play_leads_deeds hopening s).mono fun _ _ => .deed
  | true =>
    cases operation with
    | ask request => exact (Play.request_leads request).bind fun _ _ _ => Play.leads_pure _
    | _ => cases hopening

theorem Session.afterAll_updates {house : House} (operations : List Operation) (s : Session) :
    s.Updates house (s.afterAll house operations) := by
  induction operations generalizing s with
  | nil => exact .refl
  | cons operation operations ih => exact (operation.play_leads s).steps.trans (ih _)

end BloodStakes
