import BloodStakes.Proofs.Playing

/-!
Nesting. A hand lies within a round and a round within a game, open ones within open ones;
and a hand that stays open after a request can still be played.
-/
namespace BloodStakes

/-- The number of the round, the rounds of the game, and whether there is a hand. -/
def Table.place (t : Table) : Option Nat × Option Nat × Bool :=
  (t.round?.map Round.number, t.game?.map Game.roundsPlayed, t.hand?.isSome)

/-- A hand needs a round, and a round the game it is the latest round of. -/
structure Table.Placed (t : Table) : Prop where
  hand : t.hand?.isSome = true → t.round?.isSome = true
  round : ∀ round, t.round? = some round →
    ∃ game, t.game? = some game ∧ round.number = game.roundsPlayed

theorem Table.Placed.of_place_eq {t u : Table} (h : t.Placed) (hplace : u.place = t.place) :
    u.Placed := by
  simp only [Table.place, Prod.mk.injEq] at hplace
  obtain ⟨hround, hgame, hhand⟩ := hplace
  have hsome : u.round?.isSome = t.round?.isSome := by
    simpa using congrArg Option.isSome hround
  refine ⟨fun hu => hsome.trans (h.hand (hhand.symm.trans hu)), fun round hu => ?_⟩
  rw [hu] at hround
  obtain ⟨before, hbefore, hnumber⟩ := Option.map_eq_some_iff.mp hround.symm
  obtain ⟨game, ht, hcount⟩ := h.round before hbefore
  rw [ht] at hgame
  obtain ⟨game', hu', hcount'⟩ := Option.map_eq_some_iff.mp hgame
  exact ⟨game', hu', hnumber.symm.trans (hcount.trans hcount'.symm)⟩

namespace Session

variable {s s' : Session}

theorem place_of_steady (h : s'.table.steady = s.table.steady) :
    s'.table.place = s.table.place := by
  have hplace := congrArg Table.place h
  simpa [Table.place, Table.steady, Function.comp_def] using hplace

theorem Closes.place {status : HandStatus} (h : s.Closes status s') :
    s'.table.place = s.table.place := by
  cases h with
  | intro hhand hplayer hdaimon =>
    have hrecord (game : Game) : (game.record status).roundsPlayed = game.roundsPlayed := by
      unfold Game.record
      split <;> rfl
    simp [Table.place, closeHand, Function.comp_def, hrecord, hhand]

theorem Concludes.place (h : s.Concludes s') : s'.table.place = s.table.place := by
  obtain ⟨t, status, hplay, -, hclose⟩ := h.closes
  exact hclose.place.trans (place_of_steady hplay.steady)

end Session

variable {house : House} {s s' t : Session} {request : Request}

theorem Enters.placed (h : Enters house s request t) (hs : s.table.Placed) : t.table.Placed := by
  cases h with
  | @startHand round stake hround hopen hidle hstake =>
    refine ⟨fun _ => rfl, ?_⟩
    rintro _ ⟨⟩
    obtain ⟨game, hgame, hnumber⟩ := hs.round round hround
    exact ⟨game, hgame, hnumber⟩
  | move hmove hround hhand => exact hs
  | equipToken hplayer hround hhand => exact hs.of_place_eq rfl

theorem Transition.placed (h : Transition house s request s') (hs : s.table.Placed) :
    s'.table.Placed := by
  cases h with
  | startGame hidle => exact ⟨nofun, nofun⟩
  | @startRound game game' daimon rng rng' round shoe t _ hidle hgame hopen hdaimon ht hround
      hshoe hfire =>
    refine Table.Placed.of_place_eq ?_ (Session.place_of_steady hfire.bleeds.steady)
    rw [ht] at hround ⊢
    cases hround
    refine ⟨nofun, ?_⟩
    rintro _ ⟨⟩
    exact ⟨_, rfl, rfl⟩
  | closed henter hbegin h =>
    have hplace := Session.place_of_steady hbegin.bleeds.steady
    exact (henter.placed hs).of_place_eq (h.place.trans hplace)
  | opened henter hbegin hgoing hdeal =>
    have hplay := henter.playsOn_opened hbegin hgoing hdeal
    have hsteady := hplay.steady.trans hbegin.bleeds.steady
    exact (henter.placed hs).of_place_eq (Session.place_of_steady hsteady)
  | drawn henter hdeal hhand hranks hbust hfire hgoing =>
    have hplay := henter.playsOn_drawn hdeal hfire
    exact hs.of_place_eq (Session.place_of_steady hplay.steady)
  | equipped hplayer hfire hidle hgoing =>
    have hplace := Session.place_of_steady hfire.bleeds.steady
    exact hs.of_place_eq hplace
  | deckAssigned hranks hplayer => exact hs.of_place_eq rfl
  | rewardClaimed hround hwon hclaim h =>
    obtain ⟨tokens, progression, htable⟩ := Session.claimed_table h
    rw [htable]
    exact hs.of_place_eq (by simp [Table.place, hround])

/-- A round in progress needs a game in progress, and the game is lost with the round. -/
structure Standing.Nested (standing : Standing) : Prop where
  round : standing.round? = some .inProgress → standing.game? = some .inProgress
  lost : standing.game? = some .lost ↔ standing.round? = some .lost

theorem Standing.Nested.ended {standing : Standing} (h : standing.Nested)
    (hround : standing.round? = some .inProgress) {status : RoundStatus}
    (hstatus : status ≠ .inProgress) : (standing.ended status).Nested := by
  have hgame := h.round hround
  unfold Standing.ended
  cases status with
  | inProgress => exact absurd rfl hstatus
  | won =>
    simp only [reduceCtorEq, ↓reduceIte, hgame]
    exact ⟨nofun, nofun, nofun⟩
  | lost =>
    simp only [↓reduceIte, hgame]
    exact ⟨nofun, fun _ => rfl, fun _ => rfl⟩

theorem Session.Advances.nested (h : Session.Advances s s') (hs : s.table.standing.Nested) :
    s'.table.standing.Nested := by
  obtain hsame | ⟨status, hstatus, hround, hended⟩ := h
  · rwa [hsame]
  · rw [hended]
    exact hs.ended hround hstatus

theorem Transition.nested (h : Transition house s request s') (hs : s.table.standing.Nested) :
    s'.table.standing.Nested := by
  by_cases hgame : request = .startGame
  · rw [hgame] at h
    rw [h.startGame_eq]
    exact ⟨nofun, nofun, nofun⟩
  by_cases hround : request = .startRound
  · rw [hround] at h
    obtain ⟨t, ht, hadvances⟩ := h.startRound_advances
    refine hadvances.nested ?_
    rw [ht]
    exact ⟨fun _ => rfl, nofun, nofun⟩
  · exact (h.advances hgame hround).nested hs

/-- A hand lies within a round and a round within the game it is the latest round of, open ones
within open ones; a game is lost with its round, and an open hand can be played. -/
structure Table.Nested (t : Table) : Prop where
  hand : t.hand?.isSome = true → t.round?.isSome = true
  round : ∀ round, t.round? = some round →
    ∃ game, t.game? = some game ∧ round.number = game.roundsPlayed
  openHand : ∀ hand, t.hand? = some hand → hand.status = .inProgress →
    t.round?.map Round.status = some .inProgress
  openRound : t.round?.map Round.status = some .inProgress →
    t.game?.map Game.status = some .inProgress
  lost : t.game?.map Game.status = some .lost ↔ t.round?.map Round.status = some .lost
  playable : ∀ hand, t.hand? = some hand → hand.status = .inProgress → hand.Playable

/-- What keeps tables nested: no deck, and no round in progress, has fewer than three cards. -/
structure Table.Nests (t : Table) : Prop where
  deck : 3 ≤ t.player.deck.length
  cards : t.CardsHold (3 ≤ ·.length)
  placed : t.Placed
  standing : t.standing.Nested
  playable : t.Playable

theorem Table.Nests.nested {t : Table} (h : t.Nests) : t.Nested where
  hand := h.placed.hand
  round := h.placed.round
  openHand hand hhand hopen := by
    obtain ⟨hround, -⟩ := h.playable hand hhand (decide_eq_true hopen)
    obtain ⟨round, ht, hround⟩ := Option.any_eq_true _ _ |>.mp hround
    rw [ht]
    exact congrArg some (of_decide_eq_true hround)
  openRound := h.standing.round
  lost := h.standing.lost
  playable hand hhand hopen := (h.playable hand hhand (decide_eq_true hopen)).2

theorem Table.nests_new {rules : Rules} {player : Player} (h : player.IsNew rules) :
    ({ player } : Table).Nests where
  deck := by
    rw [h.deck]
    decide +kernel
  cards := nofun
  placed := ⟨nofun, nofun⟩
  standing := ⟨nofun, nofun, nofun⟩
  playable := nofun

theorem Transition.nests (h : Transition house s request s') (hsize : 3 ≤ house.rules.deckSize)
    (hs : s.table.Nests) : s'.table.Nests where
  deck := h.deck_holds (P := (3 ≤ ·.length)) hs.deck fun _ hlength _ => hlength ▸ hsize
  cards := h.cardsHold enough_of_perm hs.deck hs.cards
  placed := h.placed hs.placed
  standing := h.nested hs.standing
  playable := h.playable hs.cards hs.playable

/-- In every run of a house with decks of three cards or more, every stored table is nested. -/
theorem Service.Run.tables_nested {house : House} (hsize : 3 ≤ house.rules.deckSize)
    {service : Service} {log : List Grant} (h : service.Run house log) {player : PlayerId}
    {table : Table} (hload : service.store.load player = .ok table) : table.Nested := by
  have hnests : table.Nests := by
    refine Run.holds (P := fun _ t => t.Nests) (fun _ => Table.nests_new) ?_ h hload
    intro _ grant hbefore hgrant
    obtain ⟨rng, s', htransition, htable⟩ := hgrant.transition
    rw [htable]
    exact htransition.nests hsize hbefore
  exact hnests.nested

theorem Service.Run.tables_nested_shortRun :
    ∃ table, shortRun.1.store.load 1 = .ok table ∧
      table.hand?.any Hand.isInProgress = true ∧ table.Nested := by
  obtain ⟨table, hload, -, hopen⟩ := shortRun_stored
  exact ⟨table, hload, hopen, tables_nested (by decide) shortRun_run hload⟩

end BloodStakes
