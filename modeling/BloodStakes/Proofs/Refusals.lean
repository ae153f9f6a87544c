import BloodStakes.Proofs.Progress
import BloodStakes.Proofs.Slots

/-!
Refusals. A play looks at everything it needs before it changes anything. What can still stop it
after that is a card without a rank, and nothing else.
-/
namespace BloodStakes

/-- Whether a card without a rank has stopped the play. -/
def PlayError.isUnknownCard : PlayError → Bool
  | .unknownCard _ => true
  | _ => false

namespace Session

/-- The same table, source of chance and events; only what counts as touched may differ. -/
structure Alike (s s' : Session) : Prop where
  table : s'.table = s.table
  rng : s'.rng = s.rng
  events : s'.events = s.events

/-- A refusal that does no harm: it leaves the session as it was, but for a deal that finds no card
and counts the hand as touched. A card without a rank is the exception. -/
def Spared (s : Session) (e : PlayError) (s' : Session) : Prop :=
  e.isUnknownCard = true ∨ s' = s ∨ e = .deckExhausted ∧ s.Alike s'

/-- There is an open hand in a round. -/
structure Seated (s : Session) : Prop where
  round : s.table.round?.isSome = true
  hand : s.handInProgress = true

variable {s s' : Session}

theorem Seated.of_inProgress (hround : s.roundInProgress = true)
    (hhand : s.handInProgress = true) : s.Seated :=
  ⟨isSome_round_of_inProgress hround, hhand⟩

theorem Seated.of_steady (hs : s.Seated) (h : s'.table.steady = s.table.steady) : s'.Seated where
  round := (isSome_round_of_steady h).trans hs.round
  hand := (handInProgress_of_steady h).trans hs.hand

theorem Seated.bleeds (hs : s.Seated) (h : s.Bleeds s') : s'.Seated := hs.of_steady h.steady

theorem Seated.deals {side : Side} {count : Nat} {cards : List CardId} (hs : s.Seated)
    (h : s.Deals side count cards s') : s'.Seated :=
  hs.of_steady h.steady

theorem Deals.alike {side : Side} {count : Nat} (h : s.Deals side count [] s') : s.Alike s' := by
  cases h with
  | @intro t hand hhand hdraws hcount hshort =>
    cases hdraws
    refine ⟨?_, rfl, rfl⟩
    cases side <;> simp [Hand.receive, ← hhand]

end Session

namespace Play

open Session

/-- If the play is refused, then in a way that `R` allows. -/
def Refuses {α : Type} (R : PlayError → Session → Prop) (p : Play α) (s : Session) : Prop :=
  ∀ e s', p.run s = .error e s' → R e s'

/-- The play is refused for a card without a rank or not at all. -/
abbrev Firm {α : Type} (p : Play α) (s : Session) : Prop :=
  Refuses (fun e _ => e.isUnknownCard = true) p s

/-- The play is done or, but for a card without a rank, it is as if it had not been tried. -/
abbrev Atomic {α : Type} (p : Play α) (s : Session) : Prop :=
  Refuses s.Spared p s

section
variable {α β : Type} {R : PlayError → Session → Prop} {p : Play α} {s s' : Session}

theorem refuses_of_ok {a : α} (h : p.run s = .ok a s') : Refuses R p s := by
  intro e t he
  rw [h] at he
  cases he

theorem refuses_of_error {e : PlayError} (h : p.run s = .error e s') (he : R e s') :
    Refuses R p s := by
  intro e' t he'
  rw [h] at he'
  cases he'
  exact he

theorem refuses_pure (a : α) : Refuses R (pure a) s := refuses_of_ok rfl

theorem refuses_throw {e : PlayError} (he : R e s) : Refuses R (throw e : Play α) s :=
  refuses_of_error rfl he

theorem refuses_modify (g : Session → Session) : Refuses R (modify g) s := refuses_of_ok rfl

theorem Refuses.mono {R' : PlayError → Session → Prop} (h : Refuses R p s)
    (hR : ∀ e s', R e s' → R' e s') : Refuses R' p s :=
  fun e s' he => hR e s' (h e s' he)

theorem Firm.spared {t : Session} (h : Firm p t) : Refuses s.Spared p t :=
  h.mono fun _ _ => .inl

theorem Firm.atomic (h : Firm p s) : Atomic p s := h.spared

namespace Refuses

theorem bind {f : α → Play β} (hp : Refuses R p s)
    (hf : ∀ a s', p.run s = .ok a s' → Refuses R (f a) s') : Refuses R (p >>= f) s := by
  intro e t he
  rw [run_bind] at he
  cases hrun : p.run s with
  | ok a s' =>
    rw [hrun] at he
    exact hf a s' hrun e t he
  | error e' s' =>
    rw [hrun] at he
    cases he
    exact hp e t hrun

theorem bind_pure (hp : Refuses R p s) (f : α → β) : Refuses R (p >>= fun a => pure (f a)) s :=
  hp.bind fun _ _ _ => refuses_pure _

theorem get_bind {f : Session → Play β} (h : Refuses R (f s) s) : Refuses R (get >>= f) s := h

theorem modify_bind {g : Session → Session} {f : PUnit → Play β} (h : Refuses R (f ⟨⟩) (g s)) :
    Refuses R (modify g >>= f) s := h

theorem refuseIf_bind {condition : Bool} {e : PlayError} {f : Unit → Play β}
    (he : condition = true → R e s) (h : condition = false → Refuses R (f ()) s) :
    Refuses R (refuseIf condition e >>= f) s := by
  cases condition with
  | false => exact h rfl
  | true => exact refuses_of_error rfl (he rfl)

theorem ofExcept_bind {ε : Type} {toError : ε → PlayError} {result : Except ε α} {f : α → Play β}
    (he : ∀ e, result = .error e → R (toError e) s)
    (h : ∀ a, result = .ok a → Refuses R (f a) s) :
    Refuses R (ofExcept toError result >>= f) s := by
  cases result with
  | ok a => exact h a rfl
  | error e => exact refuses_of_error rfl (he e rfl)

theorem round_bind {f : Round → Play β} (hnone : s.table.round? = none → R .noRound s)
    (h : ∀ round, s.table.round? = some round → Refuses R (f round) s) :
    Refuses R (Play.round >>= f) s := by
  have hrun := run_round s
  cases hround : s.table.round? with
  | none =>
    rw [hround] at hrun
    exact refuses_of_error (by rw [run_bind, hrun]) (hnone hround)
  | some round =>
    refine bind (refuses_of_ok (by rw [hrun, hround])) fun current t hcurrent => ?_
    obtain ⟨hcurrent, rfl⟩ := round_eq_ok.mp hcurrent
    exact h current hcurrent

theorem hand_bind {f : Hand → Play β} (hnone : s.table.hand? = none → R .noHand s)
    (h : ∀ hand, s.table.hand? = some hand → Refuses R (f hand) s) :
    Refuses R (Play.hand >>= f) s := by
  have hrun := run_hand s
  cases hhand : s.table.hand? with
  | none =>
    rw [hhand] at hrun
    exact refuses_of_error (by rw [run_bind, hrun]) (hnone hhand)
  | some hand =>
    refine bind (refuses_of_ok (by rw [hrun, hhand])) fun current t hcurrent => ?_
    obtain ⟨hcurrent, rfl⟩ := hand_eq_ok.mp hcurrent
    exact h current hcurrent

end Refuses

theorem Firm.ranks_bind {cards : List CardId} {f : List Rank → Play β}
    (h : ∀ found, Firm (f found) s) : Firm (ranks cards >>= f) s :=
  Refuses.ofExcept_bind (fun _ _ => rfl) fun found _ => h found

theorem Firm.round_bind {f : Round → Play β} (hs : s.table.round?.isSome = true)
    (h : ∀ round, s.table.round? = some round → Firm (f round) s) :
    Firm (Play.round >>= f) s :=
  Refuses.round_bind (fun hnone => by simp [hnone] at hs) h

theorem Firm.hand_bind {f : Hand → Play β} (hs : s.handInProgress = true)
    (h : ∀ hand, s.table.hand? = some hand → Firm (f hand) s) : Firm (Play.hand >>= f) s :=
  Refuses.hand_bind (fun hnone => by simp [handInProgress, hnone] at hs) h

end

variable {s : Session} {house : House} {rules : Rules}

theorem weightedShuffle_firm (cards : List CardId) (number : Nat) :
    Firm (weightedShuffle rules cards number) s := by
  refine Refuses.ofExcept_bind (fun _ _ => rfl) fun faces hfaces => .get_bind ?_
  refine Refuses.ofExcept_bind (fun e hsample => ?_) fun _ _ => .modify_bind (refuses_pure _)
  unfold sample at hsample
  rw [dif_pos (by simp [Weighting.weights, ranksOf_length hfaces])] at hsample
  cases hsample

theorem fillShoe_firm (hs : s.table.round?.isSome = true) (shoe : List CardId) :
    Firm (fillShoe shoe) s :=
  Firm.round_bind hs fun _ _ => refuses_modify _

private theorem refill_firm (round : Round) : Firm (refill rules round) s := by
  refine .get_bind ?_
  split
  · exact weightedShuffle_firm _ _
  · exact refuses_pure _

theorem reshuffleIfEmpty_firm : Firm (reshuffleIfEmpty rules) s := by
  refine .get_bind ?_
  split
  · exact refuses_pure _
  · next round hround =>
    split
    · refine (refill_firm round).bind fun shoe t hrefill => ?_
      obtain ⟨-, rng, rfl, -⟩ := refill_refills hrefill
      split
      · exact refuses_pure _
      · have hsome : ({ s with rng } : Session).table.round?.isSome = true :=
          Option.isSome_of_eq_some hround
        exact (fillShoe_firm hsome shoe).bind_pure _
    · exact refuses_pure _

private theorem nextCard_firm (hs : s.table.round?.isSome = true) : Firm (nextCard rules) s := by
  obtain ⟨round, hround⟩ := Option.isSome_iff_exists.mp hs
  refine reshuffleIfEmpty_firm.bind fun done t hreshuffle => ?_
  have hsome : t.table.round?.isSome = true := by
    obtain ⟨rfl, -⟩ | ⟨shoe, rng, -, -, -, rfl⟩ := reshuffleIfEmpty_cases hreshuffle hround
    · exact hs
    · rfl
  refine Firm.round_bind hsome fun current _ => ?_
  split
  · exact refuses_pure _
  · exact .modify_bind (refuses_pure _)

theorem takeCards_firm (hs : s.table.round?.isSome = true) (count : Nat) :
    Firm (takeCards rules count) s := by
  induction count generalizing s with
  | zero => exact refuses_pure _
  | succ count ih =>
    refine (nextCard_firm hs).bind fun card? t hnext => ?_
    obtain ⟨card, rfl, hdraws⟩ | ⟨rfl, rfl, -⟩ := nextCard_cases hnext
    · exact (ih ((isSome_round_of_steady hdraws.steady).trans hs)).bind_pure _
    · exact refuses_pure _

theorem deal_firm (hs : s.Seated) (side : Side) (count : Nat) : Firm (deal rules side count) s := by
  refine Firm.hand_bind hs.hand fun _ _ => (takeCards_firm hs.round count).bind ?_
  intro cards t htake
  have hhand := (handInProgress_of_steady (takeCards_draws htake).1.steady).trans hs.hand
  refine Firm.hand_bind hhand fun current _ => ?_
  cases side <;> exact .modify_bind (refuses_pure _)

private theorem takeCards_atomic (count : Nat) : Atomic (takeCards rules count) s := by
  cases hround : s.table.round? with
  | some round => exact (takeCards_firm (Option.isSome_of_eq_some hround) count).atomic
  | none =>
    cases count with
    | zero => exact refuses_pure _
    | succ count =>
      have hrun : (takeCards rules (count + 1)).run s = .error .noRound s := by
        simp only [takeCards, nextCard, reshuffleIfEmpty, run_bind, run_get, hround, run_pure,
          run_round]
      exact refuses_of_error hrun (.inr (.inl rfl))

private theorem deal_atomic (side : Side) (count : Nat) : Atomic (deal rules side count) s := by
  refine Refuses.hand_bind (fun _ => .inr (.inl rfl)) fun hand hhand => ?_
  refine (takeCards_atomic count).bind fun cards t htake => ?_
  have hhand' := (takeCards_draws htake).1.hand?.trans hhand
  refine Refuses.hand_bind (fun hnone => ?_) fun current _ => ?_
  · rw [hhand'] at hnone
    cases hnone
  · cases side <;> exact .modify_bind (refuses_pure _)

theorem shuffleDeck_firm (hs : s.table.round?.isSome = true) : Firm (shuffleDeck rules) s := by
  refine Firm.round_bind hs fun round _ => .get_bind ?_
  dsimp only
  split
  · refine (weightedShuffle_firm _ _).bind fun shoe t hshuffle => ?_
    obtain ⟨-, rng, rfl, -⟩ := weightedShuffle_perm hshuffle
    exact fillShoe_firm (s := { s with rng }) hs shoe
  · exact fillShoe_firm hs _

private theorem shuffleDeck_atomic : Atomic (shuffleDeck rules) s := by
  cases hround : s.table.round? with
  | some round => exact (shuffleDeck_firm (Option.isSome_of_eq_some hround)).atomic
  | none =>
    refine Refuses.round_bind (fun _ => .inr (.inl rfl)) fun round hsome => ?_
    rw [hround] at hsome
    cases hsome

theorem finishHand_firm (hs : s.handInProgress = true) (status : HandStatus) :
    Firm (finishHand status) s :=
  .hand_bind hs fun _ _ => .ranks_bind fun _ => .ranks_bind fun _ =>
    .modify_bind (refuses_pure _)

theorem closeByRound_firm (hs : s.handInProgress = true) : Firm closeByRound s :=
  .get_bind (finishHand_firm hs _)

theorem unlessOver_firm {next : Play HandStatus} (hs : s.handInProgress = true)
    (h : Firm next s) : Firm (unlessOver next) s := by
  refine .get_bind ?_
  split
  · exact closeByRound_firm hs
  · exact h

theorem settle_firm (hs : s.handInProgress = true) (outcome : Outcome) :
    Firm (settle house.catalog outcome) s := by
  refine .get_bind (.refuseIf_bind (by simp [hs]) fun _ => .modify_bind ?_)
  have hfire := (s.fireTable_flows house.catalog outcome.phase).bleeds
  have hhand := (handInProgress_of_steady hfire.steady).trans hs
  refine unlessOver_firm hhand (Firm.hand_bind hhand fun current _ => .modify_bind ?_)
  have hpaid := (payPot_bleeds (s.fireTable house.catalog outcome.phase).1 outcome current.pot)
  exact finishHand_firm ((handInProgress_of_steady hpaid.steady).trans hhand) _

theorem settle_atomic (outcome : Outcome) : Atomic (settle house.catalog outcome) s := by
  cases hhand : s.handInProgress with
  | true => exact (settle_firm hhand outcome).atomic
  | false =>
    exact .get_bind (.refuseIf_bind (fun _ => .inr (.inl rfl)) fun h => by simp [hhand] at h)

theorem resolve_firm (hs : s.handInProgress = true) : Firm (resolve house.catalog) s :=
  .hand_bind hs fun _ _ => .ranks_bind fun _ => .ranks_bind fun _ => settle_firm hs _

private theorem resolve_atomic : Atomic (resolve house.catalog) s := by
  refine Refuses.hand_bind (fun _ => .inr (.inl rfl)) fun _ _ => ?_
  refine Refuses.ofExcept_bind (fun _ _ => .inl rfl) fun _ _ => ?_
  exact Refuses.ofExcept_bind (fun _ _ => .inl rfl) fun _ _ => settle_atomic _

private theorem dealHand_firm (hs : s.Seated) : Firm (dealHand house) s := by
  refine (deal_firm hs .player 2).bind fun _ t hplayer => ?_
  have ht := hs.deals (deal_deals hplayer)
  refine (deal_firm ht .daimon 1).bind fun _ u hdaimon => ?_
  have hu := ht.deals (deal_deals hdaimon)
  refine Firm.hand_bind hu.hand fun dealt _ => .modify_bind (.modify_bind ?_)
  have hannounced : (u.emit (.handDealt dealt.pot dealt.playerCards dealt.daimonCards)).Seated :=
    ⟨hu.round, hu.hand⟩
  have hfired := hannounced.bleeds (fireTable_flows _ house.catalog .handStart).bleeds
  refine unlessOver_firm hfired.hand (Firm.hand_bind hfired.hand fun _ _ => .ranks_bind fun _ => ?_)
  split
  · refine (deal_firm hfired .daimon 1).bind fun _ _ hlast => ?_
    exact resolve_firm (hfired.deals (deal_deals hlast)).hand
  · exact refuses_pure _

private theorem startHand_atomic : Atomic (startHand house) s := by
  refine .get_bind ?_
  split
  · exact refuses_throw (.inr (.inl rfl))
  · next round hround =>
    refine .refuseIf_bind (fun _ => .inr (.inl rfl)) fun _ => .get_bind ?_
    refine .refuseIf_bind (fun _ => .inr (.inl rfl)) fun _ => ?_
    refine .bind (refuses_of_ok (wager_run hround)) fun stake t hwager => ?_
    rw [wager_run hround] at hwager
    cases hwager
    -- from here on there is an open hand in the round
    generalize house.rules.wagerFor round.handsPlayed s.table.player.bloodPool = stake
    have hopened : (s.openHand round stake).Seated := ⟨rfl, rfl⟩
    refine Firm.atomic (.modify_bind ?_)
    split
    · exact .modify_bind (closeByRound_firm (hopened.bleeds (changePlayerPool_bleeds _ _)).hand)
    · have hstaked := hopened.bleeds (payStakes_bleeds _ stake)
      exact .modify_bind (unlessOver_firm hstaked.hand (dealHand_firm hstaked))

theorem run_ensureAvailable (move : Move) (s : Session) :
    (ensureAvailable move).run s =
      if move ∈ s.availableMoves then .ok () s
      else .error (if s.handInProgress then .moveNotAvailable move else .noHand) s := by
  by_cases havailable : move ∈ s.availableMoves
  · obtain ⟨hhand, -⟩ := inProgress_of_available havailable
    simp [ensureAvailable, hhand, havailable]
  · cases hhand : s.handInProgress <;> simp [ensureAvailable, hhand, havailable]

theorem Refuses.available_bind {α : Type} {R : PlayError → Session → Prop} {move : Move}
    {f : Unit → Play α} (hno : move ∉ s.availableMoves → ∀ e, R e s)
    (h : s.roundInProgress = true → s.handInProgress = true → Refuses R (f ()) s) :
    Refuses R (ensureAvailable move >>= f) s := by
  have hrun := run_ensureAvailable move s
  split at hrun
  · next havailable =>
    obtain ⟨hhand, hround⟩ := inProgress_of_available havailable
    refine .bind (refuses_of_ok hrun) fun _ t hok => ?_
    rw [hrun] at hok
    cases hok
    exact h hround hhand
  · next hrefused =>
    exact refuses_of_error (by rw [run_bind, hrun]) (hno hrefused _)

private theorem draw_atomic : Atomic (draw house) s := by
  refine .available_bind (fun _ _ => .inr (.inl rfl)) fun hround hhand => ?_
  have hs : s.Seated := .of_inProgress hround hhand
  refine (deal_firm hs .player 1).atomic.bind fun cards t hdeal => ?_
  have hdeal := deal_deals hdeal
  have ht := hs.deals hdeal
  cases cards with
  | nil => exact refuses_throw (.inr (.inr ⟨rfl, hdeal.alike⟩))
  | cons card cards =>
    -- with the card in the hand there is no way back, and only its rank can be missing
    refine Firm.spared (p := hand >>= _) ?_
    refine Firm.hand_bind ht.hand fun _ _ => .ranks_bind fun ranks => ?_
    refine .modify_bind (.modify_bind (.get_bind ?_))
    have hannounced : (t.emit (.cardDrawn card (Score.total ranks))).Seated := ⟨ht.round, ht.hand⟩
    have hfired := hannounced.bleeds (fireCards_flows .handStart [card] _).bleeds
    dsimp only
    split
    · exact (closeByRound_firm hfired.hand).bind_pure _
    · split
      · exact (resolve_firm hfired.hand).bind_pure _
      · exact refuses_pure _

private theorem drawToStand_firm (hs : s.Seated) (fuel : Nat) : Firm
    (drawToStand rules fuel) s := by
  induction fuel generalizing s with
  | zero => exact refuses_pure _
  | succ fuel ih =>
    refine Firm.hand_bind hs.hand fun _ _ => .ranks_bind fun _ => ?_
    split
    · exact refuses_pure _
    · refine (deal_firm hs .daimon 1).bind fun cards t hdeal => ?_
      split
      · exact refuses_pure _
      · exact ih (hs.deals (deal_deals hdeal))

private theorem stand_atomic : Atomic (stand house) s := by
  refine .available_bind (fun _ _ => .inr (.inl rfl)) fun hround hhand => Firm.atomic ?_
  refine .bind ?_ fun fuel t hbound => ?_
  · refine .get_bind ?_
    split <;> exact refuses_pure _
  · cases drawBound_eq_ok hbound
    refine (drawToStand_firm (.of_inProgress hround hhand) fuel).bind fun _ u hdraws => ?_
    have hsteady := (drawToStand_playsOn hround hhand hdraws).steady
    exact resolve_firm ((handInProgress_of_steady hsteady).trans hhand)

theorem surrender_firm (h : .surrender ∈ s.availableMoves) : Firm (surrender house) s := by
  refine .available_bind (absurd h) fun hround hhand => .modify_bind ?_
  have hs : s.Seated := .of_inProgress hround hhand
  have hfired := hs.bleeds (s.fireTable_flows house.catalog .onLoss).bleeds
  refine unlessOver_firm hfired.hand (Firm.hand_bind hfired.hand fun _ _ => .modify_bind ?_)
  exact finishHand_firm (hfired.bleeds (refund_bleeds _ _ _)).hand _

theorem surrender_refused (h : .surrender ∉ s.availableMoves) : (surrender house).run s =
    .error (if s.handInProgress then .moveNotAvailable .surrender else .noHand) s := by
  rw [surrender, run_bind, run_ensureAvailable, if_neg h]

private theorem surrender_atomic : Atomic (surrender house) s := by
  by_cases h : .surrender ∈ s.availableMoves
  · exact (surrender_firm h).atomic
  · exact refuses_of_error (surrender_refused h) (.inr (.inl rfl))

private theorem doubleDown_atomic : Atomic doubleDown s :=
  .get_bind (.refuseIf_bind (fun _ => .inr (.inl rfl)) fun _ => refuses_throw (.inr (.inl rfl)))

private theorem equipToken_atomic (slot : SlotId) (token : TokenId) :
    Atomic (equipToken house slot token) s := by
  obtain ⟨e, hrefused, -⟩ | ⟨-, player, t, -, -, ⟨logs, hrun⟩ | ⟨_, _, -, -, -, -, hrefused⟩⟩ :=
    equipToken_cases house slot token s
  · exact refuses_of_error hrefused (.inr (.inl rfl))
  · exact refuses_of_ok hrun
  · exact refuses_of_error hrefused (.inl rfl)

private theorem assignDeck_atomic (cards : List CardId) : Atomic (assignDeck rules cards) s := by
  refine Refuses.ofExcept_bind (fun _ _ => .inl rfl) fun _ _ => .get_bind ?_
  exact .ofExcept_bind (fun _ _ => .inr (.inl rfl)) fun _ _ => refuses_modify _

private theorem claimStoryToken_atomic : Atomic (claimStoryToken house.catalog) s := by
  refine .round_bind (fun _ => .inr (.inl rfl)) fun current _ => ?_
  refine .refuseIf_bind (fun _ => .inr (.inl rfl)) fun _ => ?_
  refine .refuseIf_bind (fun _ => .inr (.inl rfl)) fun _ => .modify_bind (.get_bind ?_)
  split
  · exact refuses_pure _
  · exact .modify_bind (refuses_pure _)

private theorem startGame_atomic : Atomic startGame s :=
  .get_bind (.refuseIf_bind (fun _ => .inr (.inl rfl)) fun _ => refuses_modify _)

private theorem startRound_atomic : Atomic (startRound house) s := by
  obtain ⟨e, -, -, hrun⟩ | ⟨t, hopen, hrun⟩ := startRound_cases house s
  · exact refuses_of_error hrun (.inr (.inl rfl))
  · obtain ⟨_, _, _, _, -, -, -, -, rfl⟩ := nextRound?_eq_some hopen
    unfold Atomic Refuses
    rw [hrun]
    refine Firm.spared ((shuffleDeck_firm rfl).bind fun _ u hshuffle => ?_)
    obtain ⟨_, _, _, -, -, rfl⟩ := shuffleDeck_fills hshuffle
    exact Firm.round_bind rfl fun _ _ => .modify_bind (.modify_bind (refuses_modify _))

theorem request_atomic (request : Request) : Atomic (request.play house) s := by
  cases request with
  | startGame => exact startGame_atomic.bind_pure _
  | startRound => exact startRound_atomic.bind_pure _
  | startHand => exact startHand_atomic.bind_pure _
  | draw => exact draw_atomic.bind_pure _
  | stand => exact stand_atomic.bind_pure _
  | surrender => exact surrender_atomic.bind_pure _
  | doubleDown => exact doubleDown_atomic.bind_pure _
  | equipToken slot token => exact (equipToken_atomic slot token).bind_pure _
  | assignDeck cards => exact (assignDeck_atomic cards).bind_pure _
  | claimStoryToken => exact claimStoryToken_atomic.bind_pure _

end Play

namespace Operation

open Play

variable {house : House} {s s' : Session} {operation : Operation} {e : PlayError}

theorem play_atomic (house : House) (s : Session) :
    ∀ operation : Operation, Atomic (operation.play house) s
  | ask request => (request_atomic request).bind_pure _
  | shuffleDeck => shuffleDeck_atomic
  | reshuffleIfEmpty => reshuffleIfEmpty_firm.atomic.bind_pure _
  | deal side count => (deal_atomic side count).bind_pure _
  | resolve => resolve_atomic.bind_pure _
  | settle outcome => (settle_atomic outcome).bind_pure _
  | settleRound => refuses_modify _
  | changePlayerPool _ | changeDaimonPool _ | changePot _ => refuses_modify _
  | scaleCeiling _ | scaleDaimonMaximum _ => refuses_modify _
  | fire _ _ _ | fireSlot _ _ _ | fireToken _ | fireDaimon _ | fireCards _ _ => refuses_modify _

/-- An operation that is refused, for anything but a card without a rank, changes neither the table
nor the source of chance and announces nothing. Only a deal that finds no card counts the hand as
touched. -/
theorem refusal_changes_nothing (h : (operation.play house).run s = .error e s')
    (hcard : e.isUnknownCard = false) :
    s.Alike s' ∧ (e = .deckExhausted ∨ s' = s) := by
  obtain hunknown | rfl | ⟨rfl, halike⟩ := play_atomic house s operation e s' h
  · rw [hcard] at hunknown
    cases hunknown
  · exact ⟨⟨rfl, rfl, rfl⟩, .inr rfl⟩
  · exact ⟨halike, .inl rfl⟩

/-- A hand in a round that has run out of cards. -/
def drySession : Session :=
  let s := knellSession 261
  s.putPlayer { s.table.player with tutorialFinished := true }

/-- The draw is refused after the hand has been touched. -/
theorem refusal_changes_nothing_dry :
    ∃ s', ((ask .draw).play knellHouse).run drySession = .error .deckExhausted s' ∧
      s' ≠ drySession ∧ drySession.Alike s' := by
  have hrun : (match ((ask .draw).play knellHouse).run drySession with
      | .ok _ _ => false
      | .error e s' => e = .deckExhausted ∧ s'.touched ≠ drySession.touched) = true := by
    decide +kernel
  split at hrun
  · cases hrun
  · next e s' herror =>
    obtain ⟨rfl, htouched⟩ := of_decide_eq_true hrun
    exact ⟨s', herror, fun hsame => htouched (congrArg Session.touched hsame),
      (refusal_changes_nothing herror rfl).1⟩

end Operation

end BloodStakes
