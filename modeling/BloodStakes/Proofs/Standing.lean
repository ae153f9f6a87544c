import BloodStakes.Proofs.Granting

/-!
How far a request may take a table. Only blood ends a round, so a round that is still in
progress after a request was in progress throughout, and nothing has ended in the meantime.
-/
namespace BloodStakes

namespace Session

variable {s s' : Session}

theorem Advances.of_standing_eq (h : s'.table.standing = s.table.standing) : Advances s s' := .inl h

theorem roundInProgress_eq_standing (s : Session) :
    s.roundInProgress = decide (s.table.standing.round? = some .inProgress) := by
  unfold roundInProgress Table.standing Round.isInProgress
  cases s.table.round? <;> simp

theorem Advances.roundInProgress (h : Advances s s') (hopen : s'.roundInProgress = true) :
    s.roundInProgress = true := by
  rw [roundInProgress_eq_standing] at hopen ⊢
  rw [← h.of_roundInProgress (by rw [roundInProgress_eq_standing, hopen])]
  exact hopen

theorem Deals.standing {side : Side} {count : Nat} {cards : List CardId}
    (h : s.Deals side count cards s') (hround : s.roundInProgress = true) :
    s'.table.standing = s.table.standing := by
  cases h with
  | @intro t hand hhand hdraws hcount hshort =>
    obtain ⟨round, hround, -⟩ := s.roundInProgress_iff.mp hround
    obtain ⟨shoe, discard, htable⟩ := hdraws.exists_table hround
    rw [putHand_table, htable]
    unfold Table.standing
    rw [hround]
    rfl

theorem HandStep.advances (h : s.HandStep s') : Advances s s' := by
  cases h with
  | flow h => exact h.bleeds.advances
  | dealt => exact .of_standing_eq rfl
  | drawn => exact .of_standing_eq rfl
  | deal hround hhand hcount h => exact .of_standing_eq (h.standing hround)

theorem PlaysOn.advances (h : s.PlaysOn s') : Advances s s' := by
  induction h with
  | refl => exact .of_standing_eq rfl
  | tail _ step ih => exact ih.trans step.advances

theorem Closes.standing {status : HandStatus} (h : s.Closes status s') :
    s'.table.standing = s.table.standing := by
  cases h with
  | intro hhand hplayer hdaimon =>
    have hrecord (game : Game) : (game.record status).status = game.status := by
      unfold Game.record
      split <;> rfl
    simp [Table.standing, closeHand, Function.comp_def, hrecord]

theorem Concludes.advances (h : s.Concludes s') : Advances s s' := by
  obtain ⟨t, status, hplay, -, hclose⟩ := h.closes
  exact hplay.advances.trans (.of_standing_eq hclose.standing)

end Session

namespace Catalog

/-- The daimon the story demands: the first that stands where the player has come to, unless the
game has been there. -/
def demanded? (catalog : Catalog) (progression : Nat) (game : Game) : Option Daimon :=
  if game.daimonProgress < progression then catalog.storyDaimon? progression else none

variable {catalog : Catalog} {progression : Nat} {game game' : Game} {rng rng' : Rng}
  {daimon : Daimon}

theorem nextDaimon_eq (catalog : Catalog) (progression : Nat) (game : Game) (rng : Rng) :
    catalog.nextDaimon progression game rng =
      match catalog.demanded? progression game with
      | some daimon => some
          (daimon, { game with daimonProgress := (progression : Int).bmod UInt32.size }, rng)
      | none => (catalog.pickDaimon progression rng).1.map
          (·, game, (catalog.pickDaimon progression rng).2) := by
  unfold nextDaimon demanded?
  obtain ⟨chosen?, rng'⟩ := catalog.pickDaimon progression rng
  by_cases hnew : game.daimonProgress < progression
  · simp only [if_pos hnew]
    cases catalog.storyDaimon? progression <;> cases chosen? <;> rfl
  · simp only [if_neg hnew]
    cases catalog.storyDaimon? progression <;> cases chosen? <;> rfl

theorem nextDaimon_cases
    (h : catalog.nextDaimon progression game rng = some (daimon, game', rng')) :
    catalog.demanded? progression game = some daimon ∧
      game' = { game with daimonProgress := (progression : Int).bmod UInt32.size } ∨
    catalog.demanded? progression game = none ∧
      (catalog.pickDaimon progression rng).1 = some daimon ∧ game' = game := by
  rw [nextDaimon_eq] at h
  split at h
  · next first hfirst =>
    simp only [Option.some.injEq, Prod.mk.injEq] at h
    obtain ⟨rfl, rfl, -⟩ := h
    exact .inl ⟨hfirst, rfl⟩
  · next hnone =>
    obtain ⟨chosen, hchosen, h⟩ := Option.map_eq_some_iff.mp h
    simp only [Prod.mk.injEq] at h
    obtain ⟨rfl, rfl, -⟩ := h
    exact .inr ⟨hnone, hchosen, rfl⟩

theorem demanded?_eq_some (h : catalog.demanded? progression game = some daimon) :
    game.daimonProgress < progression ∧ catalog.storyDaimon? progression = some daimon := by
  unfold demanded? at h
  split at h
  · next hnew => exact ⟨hnew, h⟩
  · cases h

theorem storyDaimon?_eq_some (h : catalog.storyDaimon? progression = some daimon) :
    daimon ∈ catalog.daimons ∧ daimon.storySequence = progression :=
  ⟨List.mem_of_find?_eq_some h, by simpa using List.find?_some h⟩

theorem pickDaimon_unlocked (h : (catalog.pickDaimon progression rng).1 = some daimon) :
    daimon ∈ catalog.daimons ∧ daimon.storySequence ≤ progression := by
  obtain ⟨i, -, rfl⟩ := Option.map_eq_some_iff.mp h
  have hmem := List.mem_filter.mp (List.get_mem (catalog.unlocked progression) i)
  exact ⟨hmem.1, of_decide_eq_true hmem.2⟩

theorem bmod_eq_iff (progression : Nat) :
    (progression : Int).bmod UInt32.size = progression ↔ progression < 0x80000000 := by
  constructor
  · intro h
    have hlt := Int.bmod_lt (x := progression) (m := UInt32.size) (by decide)
    rw [h] at hlt
    simp only [UInt32.size] at hlt
    omega
  · intro h
    apply Int.bmod_eq_of_le
    · omega
    · simp only [UInt32.size]
      omega

theorem nextDaimon_game
    (h : catalog.nextDaimon progression game rng = some (daimon, game', rng')) :
    game' = game ∨ daimon ∈ catalog.daimons ∧ daimon.storySequence = progression ∧
      game' = { game with daimonProgress := (progression : Int).bmod UInt32.size } := by
  obtain ⟨hdemanded, hgame⟩ | ⟨-, -, hgame⟩ := nextDaimon_cases h
  · obtain ⟨hmem, hplace⟩ := storyDaimon?_eq_some (demanded?_eq_some hdemanded).2
    exact .inr ⟨hmem, hplace, hgame⟩
  · exact .inl hgame

end Catalog

variable {house : House} {s s' t : Session} {request : Request}

theorem Enters.standing (h : Enters house s request t) : t.table.standing = s.table.standing := by
  cases h with
  | startHand hround hopen hidle hstake =>
    unfold Table.standing
    rw [hround]
    rfl
  | move hmove hround hhand => rfl
  | equipToken hplayer hround hhand =>
    obtain ⟨loadout, rfl⟩ := Player.equipToken_eq_ok hplayer
    rfl

/-- A request for anything but a new game or round leaves the standing, or ends the round. -/
theorem Transition.advances (h : Transition house s request s') (hgame : request ≠ .startGame)
    (hround : request ≠ .startRound) : Session.Advances s s' := by
  cases h with
  | startGame hidle => exact absurd rfl hgame
  | startRound hidle hgame hopen hdaimon ht hround' hshoe hfire => exact absurd rfl hround
  | closed henter hbegin h =>
    exact .trans (.of_standing_eq henter.standing) (hbegin.bleeds.advances.trans h.advances)
  | opened henter hbegin hgoing hdeal =>
    have hplay := henter.playsOn_opened hbegin hgoing hdeal
    exact .trans (.of_standing_eq henter.standing) (hbegin.bleeds.advances.trans hplay.advances)
  | drawn henter hdeal hhand hranks hbust hfire hgoing =>
    exact (henter.playsOn_drawn hdeal hfire).advances
  | equipped hplayer hfire hidle hgoing =>
    obtain ⟨loadout, rfl⟩ := Player.equipToken_eq_ok hplayer
    exact .trans (.of_standing_eq rfl) hfire.bleeds.advances
  | deckAssigned hranks hplayer =>
    obtain ⟨-, rfl⟩ := Player.assignDeck_eq_ok hplayer
    exact .of_standing_eq rfl
  | rewardClaimed hround' hwon hclaim h =>
    obtain ⟨tokens, progression, htable⟩ := Session.claimed_table h
    apply Session.Advances.of_standing_eq
    unfold Table.standing
    rw [htable, hround']
    rfl

theorem Transition.startRound_advances (h : Transition house s .startRound s') :
    ∃ t : Session, t.table.standing =
        { round? := some .inProgress, game? := some .inProgress,
          tutorialFinished := s.table.player.tutorialFinished } ∧ Session.Advances t s' := by
  cases h with
  | @startRound game game' daimon rng rng' round shoe t _ hidle hgame hopen hdaimon ht hround hshoe
      hfire =>
    refine ⟨_, ?_, hfire.bleeds.advances⟩
    have hstatus : game'.status = .inProgress := by
      have hopen : game.status = .inProgress := by simpa [Game.isInProgress] using hopen
      obtain rfl | ⟨-, -, rfl⟩ := Catalog.nextDaimon_game hdaimon
      · exact hopen
      · exact hopen
    rw [ht] at hround ⊢
    cases hround
    simp [Table.standing, Session.openRound, Session.enterRound, hstatus]
  | closed henter hbegin h => exact absurd rfl henter.ne_opening.2

theorem Transition.startGame_eq (h : Transition house s .startGame s') : s' = s.openGame := by
  cases h with
  | startGame hidle => rfl
  | closed henter hbegin h => exact absurd rfl henter.ne_opening.1

theorem Transition.game_idle (h : Transition house s .startGame s') :
    s.table.game?.any Game.isInProgress = false := by
  cases h with
  | startGame hidle => exact hidle
  | closed henter hbegin h => exact absurd rfl henter.ne_opening.1

theorem Transition.tutorialFinished (h : Transition house s request s')
    (hveteran : s.table.player.tutorialFinished = true) :
    s'.table.player.tutorialFinished = true := by
  by_cases hgame : request = .startGame
  · rw [hgame] at h
    rw [h.startGame_eq]
    exact hveteran
  by_cases hround : request = .startRound
  · rw [hround] at h
    obtain ⟨t, ht, hadvances⟩ := h.startRound_advances
    exact hadvances.tutorialFinished ((congrArg Standing.tutorialFinished ht).trans hveteran)
  · exact (h.advances hgame hround).tutorialFinished hveteran

theorem Transition.of_roundInProgress (h : Transition house s request s')
    (hopen : s'.roundInProgress = true) :
    s'.table.player.tutorialFinished = s.table.player.tutorialFinished ∧
      (request ≠ .startRound → request ≠ .startGame ∧ s.roundInProgress = true) := by
  by_cases hgame : request = .startGame
  · rw [hgame] at h
    rw [h.startGame_eq] at hopen
    cases hopen
  by_cases hround : request = .startRound
  · rw [hround] at h
    obtain ⟨t, ht, hadvances⟩ := h.startRound_advances
    have hsame := hadvances.of_roundInProgress hopen
    rw [ht] at hsame
    exact ⟨congrArg Standing.tutorialFinished hsame, fun hne => absurd hround hne⟩
  · have hadvances := h.advances hgame hround
    exact ⟨congrArg Standing.tutorialFinished (hadvances.of_roundInProgress hopen),
      fun _ => ⟨hgame, hadvances.roundInProgress hopen⟩⟩

end BloodStakes
