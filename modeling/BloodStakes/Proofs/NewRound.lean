import BloodStakes.Proofs.Endings
import BloodStakes.Proofs.Tutorial

/-!
A new round is new in every respect. Whatever round and hand were on the table before, how a round
is opened and what its start fires depends only on the player, the game and chance.
-/
namespace BloodStakes

namespace Session

/-- Two sessions with the same player, game, chance and events so far. Their rounds and hands may
be any, and so may what they have touched. -/
structure SamePlayer (s t : Session) : Prop where
  player : t.table.player = s.table.player
  game : t.table.game? = s.table.game?
  rng : t.rng = s.rng
  events : t.events = s.events

variable {house : House} {s t : Session}

theorem SamePlayer.openRound (h : s.SamePlayer t) (rules : Rules) (daimon : Daimon) (game : Game)
    (rng : Rng) :
    { t with rng }.openRound rules daimon game = { s with rng }.openRound rules daimon game := by
  simp only [Session.openRound, h.player, h.events]

theorem SamePlayer.nextRound? (h : s.SamePlayer t) (hs : s.roundInProgress = false)
    (ht : t.roundInProgress = false) : t.nextRound? house = s.nextRound? house := by
  simp only [Session.nextRound?, hs, ht, h.player, h.game, h.rng, h.openRound]

/-- Why no round can be opened where none is being played. -/
def roundRefusal (s : Session) : PlayError :=
  match s.table.game?.filter Game.isInProgress with
  | none => .noGame
  | some _ => .noDaimon s.table.player.storyProgression

theorem SamePlayer.roundRefusal (h : s.SamePlayer t) : t.roundRefusal = s.roundRefusal := by
  simp only [Session.roundRefusal, h.player, h.game]

end Session

namespace Play

open Session

variable {house : House} {s t : Session}

theorem startRound_run (hidle : s.roundInProgress = false) :
    (startRound house).run s =
      match s.nextRound? house with
      | some opened => (do
          shuffleDeck house.rules
          announceRound house.catalog (!s.table.player.tutorialFinished)).run opened
      | none => .error s.roundRefusal s := by
  unfold startRound nextRound? roundRefusal
  simp only [run_bind, run_get, run_refuseIf, hidle, Bool.false_eq_true, ↓reduceIte]
  cases hgame : s.table.game?.filter Game.isInProgress with
  | none => rfl
  | some game =>
    simp only [Option.bind_eq_bind, Option.bind_some]
    cases hdaimon : house.catalog.nextDaimon s.table.player.storyProgression game s.rng with
    | none => rfl
    | some next =>
      simp only [run_bind]
      rfl

/-- A new round inherits nothing. Where no round is being played, a round can be started on one
table just if it can on any other with the same player, game and chance, and both are the same
from then on; otherwise both are refused for the same reason. -/
theorem startRound_inherits_nothing (house : House) (h : s.SamePlayer t)
    (hs : s.roundInProgress = false) (ht : t.roundInProgress = false) :
    (∀ u s', (startRound house).run s = .ok u s' ↔ (startRound house).run t = .ok u s') ∧
    ∀ e, (∃ s', (startRound house).run s = .error e s') ↔
      ∃ t', (startRound house).run t = .error e t' := by
  rw [startRound_run hs, startRound_run ht, h.nextRound? hs ht, h.roundRefusal, h.player]
  cases s.nextRound? house with
  | some opened => exact ⟨fun _ _ => .rfl, fun _ => .rfl⟩
  | none => simp

end Play

namespace Session

/-- The session as its round might also have left it: with a raised ceiling, cards in the shoe and
in the discard pile, and a hand that has been played. -/
def worn (s : Session) : Session :=
  { s with
    table.round? := s.table.round?.map fun round =>
      { round with ceiling := 1000, handsPlayed := 3, shoe := [263], discard := [261, 262] }
    table.hand? := some { pot := 8, playerCards := [261], daimonCards := [262], status := .lost } }

private theorem samePlayer_worn (s : Session) : s.SamePlayer s.worn := ⟨rfl, rfl, rfl, rfl⟩

end Session

/-- What a won round has left on the table makes no difference to the next one. -/
theorem Play.startRound_inherits_nothing_wonRound :
    Session.wonRound.SamePlayer Session.wonRound.worn ∧
      Session.wonRound.roundInProgress = false ∧ Session.wonRound.worn.roundInProgress = false ∧
      ∃ s', (startRound Service.smallHouse).run Session.wonRound = .ok () s' ∧
        (startRound Service.smallHouse).run Session.wonRound.worn = .ok () s' := by
  have hsame := Session.wonRound.samePlayer_worn
  have hwon : Session.wonRound.roundInProgress = false := by decide +kernel
  have hworn : Session.wonRound.worn.roundInProgress = false := by decide +kernel
  have hleaves : leaves (startRound Service.smallHouse) Session.wonRound Session.roundInProgress =
      true := by decide +kernel
  obtain ⟨_, s', hrun, -⟩ := exists_of_leaves hleaves
  obtain ⟨hgranted, -⟩ :=
    startRound_inherits_nothing Service.smallHouse hsame hwon hworn
  exact ⟨hsame, hwon, hworn, s', hrun, (hgranted () s').mp hrun⟩

end BloodStakes
