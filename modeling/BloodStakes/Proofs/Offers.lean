import BloodStakes.Proofs.Refusals
import BloodStakes.Proofs.Tutorial

/-!
Giving up a hand. The tutorial prescribes moves by how many cards are out of its shoe, whatever
the hand holds. Where it prescribes nothing, a hand of two cards can be given up, and no other.
-/
namespace BloodStakes

private theorem surrender_mem_tutorialMoves?_iff {dealt : Nat} {moves : List Move}
    (h : tutorialMoves? dealt = some moves) : .surrender ∈ moves ↔ dealt = 13 := by
  unfold tutorialMoves? at h
  split at h <;> cases h <;> simp

namespace Session

/-- Whether the tutorial has the hand in a round given up: thirteen cards are out of its shoe. -/
def SurrenderScripted (s : Session) (round : Round) : Prop :=
  s.table.player.tutorialFinished = false ∧ tutorialDeck.length - round.shoe.length = 13

variable {s : Session} {hand : Hand} {round : Round}

theorem scriptedMoves?_of_surrenderScripted (h : s.SurrenderScripted round) :
    s.scriptedMoves? round = some [.surrender] := by
  obtain ⟨htutorial, hdealt⟩ := h
  simp [scriptedMoves?, htutorial, hdealt, tutorialMoves?]

private theorem surrender_mem_scriptedMoves?_iff {moves : List Move}
    (h : s.scriptedMoves? round = some moves) : .surrender ∈ moves ↔ s.SurrenderScripted round := by
  unfold scriptedMoves? at h
  split at h
  · cases h
  · next htutorial =>
    rw [surrender_mem_tutorialMoves?_iff h]
    exact ⟨fun hdealt => ⟨by simpa using htutorial, hdealt⟩, And.right⟩

theorem availableMoves_of_open (hhand : s.table.hand? = some hand)
    (hopen : hand.isInProgress = true) (hround : s.table.round? = some round)
    (hgoing : round.isInProgress = true) :
    s.availableMoves = (s.scriptedMoves? round).getD
      ((if hand.isPlayerBust then [] else [.draw, .stand]) ++
        if hand.playerCards.length = 2 then [.surrender] else []) := by
  unfold availableMoves
  rw [hhand, hround]
  simp only [hopen, hgoing, and_self, if_true]
  cases s.scriptedMoves? round <;> rfl

private theorem surrender_mem_availableMoves_iff (hhand : s.table.hand? = some hand)
    (hopen : hand.isInProgress = true) (hround : s.table.round? = some round)
    (hgoing : round.isInProgress = true) : .surrender ∈ s.availableMoves ↔
      s.SurrenderScripted round ∨
        s.scriptedMoves? round = none ∧ hand.playerCards.length = 2 := by
  rw [availableMoves_of_open hhand hopen hround hgoing]
  cases hscript : s.scriptedMoves? round with
  | some moves => simpa using surrender_mem_scriptedMoves?_iff hscript
  | none =>
    have hunscripted : ¬ s.SurrenderScripted round := fun h => by
      simp [scriptedMoves?_of_surrenderScripted h] at hscript
    cases hand.isPlayerBust <;> simp [hunscripted]

/-- On an open hand in a round, surrender is offered where the tutorial prescribes it, and then
nothing else is; where the tutorial prescribes nothing, it is offered for a hand of two cards and
no other. What is not offered is refused and changes nothing; what is offered is accepted, unless a
card has no rank. -/
theorem surrender_offered_iff (hhand : s.table.hand? = some hand)
    (hopen : hand.isInProgress = true) (hround : s.table.round? = some round)
    (hgoing : round.isInProgress = true) :
    (.surrender ∈ s.availableMoves ↔ s.SurrenderScripted round ∨
      s.scriptedMoves? round = none ∧ hand.playerCards.length = 2) ∧
    (s.SurrenderScripted round → s.availableMoves = [.surrender]) ∧
    ∀ house,
      (.surrender ∉ s.availableMoves →
        (Play.surrender house).run s = .error (.moveNotAvailable .surrender) s) ∧
      (.surrender ∈ s.availableMoves →
        (∃ status s', (Play.surrender house).run s = .ok status s') ∨
        ∃ card s', (Play.surrender house).run s = .error (.unknownCard card) s') := by
  refine ⟨surrender_mem_availableMoves_iff hhand hopen hround hgoing, fun hscripted => ?_,
    fun house => ⟨fun hno => ?_, fun hmove => ?_⟩⟩
  · rw [availableMoves_of_open hhand hopen hround hgoing,
      scriptedMoves?_of_surrenderScripted hscripted, Option.getD_some]
  · have hhand' : s.handInProgress = true := s.handInProgress_iff.mpr ⟨hand, hhand, hopen⟩
    rw [Play.surrender_refused hno, if_pos hhand']
  · cases hrun : (Play.surrender house).run s with
    | ok status s' => exact .inl ⟨status, s', rfl⟩
    | error e s' =>
      have hcard := Play.surrender_firm hmove e s' hrun
      cases e with
      | unknownCard card => exact .inr ⟨card, s', rfl⟩
      | _ => cases hcard

/-- The tutorial goes on after its shoe has been refilled. Twelve cards are out of it. -/
def twelveOut : Session :=
  (tutorialRound [271, 278, 264, 305, 283, 285, 272, 310, 286, 311, 273]
    [270, 268, 292, 279, 277, 266, 281, 282, 308]).putHand
      { pot := 1000, playerCards := [280, 274], daimonCards := [284] }

theorem surrender_offered_iff_twelveOut :
    twelveOut.handInProgress = true ∧ twelveOut.roundInProgress = true ∧
      .surrender ∈ twelveOut.availableMoves ∧
      ((∃ status s', (Play.surrender {}).run twelveOut = .ok status s') ∨
        ∃ card s', (Play.surrender {}).run twelveOut = .error (.unknownCard card) s') := by
  obtain ⟨hiff, -, hhouse⟩ := surrender_offered_iff (s := twelveOut) rfl rfl rfl rfl
  have hmove : .surrender ∈ twelveOut.availableMoves := hiff.mpr (.inr ⟨by decide, rfl⟩)
  exact ⟨rfl, rfl, hmove, (hhouse {}).2 hmove⟩

/-- The thirteenth card is the player's third, and now the hand can only be given up. -/
theorem surrender_offered_three_cards :
    ∃ card s, (Play.draw {}).run twelveOut = .ok card s ∧ s.roundInProgress = true ∧
      (∃ hand, s.table.hand? = some hand ∧ hand.isInProgress = true ∧
        hand.playerCards.length = 3) ∧
      s.availableMoves = [.surrender] ∧
      ∃ status s', (Play.surrender {}).run s = .ok status s' := by
  have hleaves : Play.leaves (Play.draw {}) twelveOut (fun s =>
      s.roundInProgress && s.handInProgress &&
        (s.table.hand?.map (·.playerCards.length) == some 3) &&
        (s.availableMoves == [.surrender]) &&
        Play.leaves (Play.surrender {}) s fun _ => true) = true := by
    decide +kernel
  obtain ⟨card, s, hrun, h⟩ := Play.exists_of_leaves hleaves
  simp only [Bool.and_eq_true, beq_iff_eq] at h
  obtain ⟨⟨⟨⟨hround, hopen⟩, hthree⟩, hmoves⟩, hsurrender⟩ := h
  obtain ⟨hand, hhand, hthree⟩ := Option.map_eq_some_iff.mp hthree
  obtain ⟨hand', hhand', hopen⟩ := s.handInProgress_iff.mp hopen
  cases hhand.symm.trans hhand'
  obtain ⟨status, s', hsurrender, -⟩ := Play.exists_of_leaves hsurrender
  exact ⟨card, s, hrun, hround, ⟨hand, hhand, hopen, hthree⟩, hmoves, status, s', hsurrender⟩

end Session

end BloodStakes
