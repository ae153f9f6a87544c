import Mathlib.Logic.Relation
import BloodStakes.Proofs.Working
import BloodStakes.Session.Settlement

/-!
What blood does to a session. Effects, stakes and payouts are runs of the same few steps; a
step changes pools, maxima and the pot, and may end the round, but leaves every card, every
count and the source of chance alone.
-/
namespace BloodStakes

/-- The table with nothing on it that blood can change. -/
def Table.bloodless (t : Table) : Table where
  player := { t.player with bloodPool := 0, tutorialFinished := false }
  game? := t.game?.map fun game => { game with status := .inProgress }
  round? := t.round?.map fun round =>
    { round with daimonPool := 0, daimonMaximum := 0, ceiling := 0, status := .inProgress }
  hand? := t.hand?.map fun hand => { hand with pot := 0 }

/-- How far a table has come: whether the round and the game have ended, and whether the
tutorial has. -/
structure Standing where
  round? : Option RoundStatus
  game? : Option GameStatus
  tutorialFinished : Bool

def Table.standing (t : Table) : Standing where
  round? := t.round?.map Round.status
  game? := t.game?.map Game.status
  tutorialFinished := t.player.tutorialFinished

/-- The standing once the round has ended. -/
def Standing.ended (standing : Standing) (status : RoundStatus) : Standing where
  round? := some status
  game? := if status = .lost then standing.game?.map fun _ => .lost else standing.game?
  tutorialFinished := true

namespace Session

/-- One change of blood, or the record of an effect. -/
inductive BloodStep : Session → Session → Prop
  | record (s : Session) (log : EffectLog) : BloodStep s (s.emit (.effectApplied log))
  | playerPool (s : Session) (delta : Int) : BloodStep s (s.changePlayerPool delta)
  | daimonPool (s : Session) (delta : Int) : BloodStep s (s.changeDaimonPool delta)
  | ceiling (s : Session) (multiplier : Float) (round : Round)
      (h : s.table.round? = some round) : BloodStep s (s.scaleCeiling multiplier)
  | daimonMaximum (s : Session) (multiplier : Float) :
      BloodStep s (s.scaleDaimonMaximum multiplier)
  | pot (s : Session) (delta : Int) : BloodStep s (s.changePot delta)

/-- Any number of changes of blood. -/
abbrev Bleeds : Session → Session → Prop := Relation.ReflTransGen BloodStep

/-- What makes blood flow once a hand has begun: an effect, whose record is kept, and the pot.
A pot is paid out only if the effects of the outcome have not ended the round. -/
inductive Flow : Session → Session → Prop
  | effect (s : Session) (source : EffectSource) (phase : Phase) (action : Action) (value : Float) :
      Flow s ((s.perform action value).1.emit
        (.effectApplied ⟨source, phase, action, (s.perform action value).2⟩))
  | payout {s : Session} {hand : Hand} (outcome : Outcome) (hhand : s.table.hand? = some hand)
      (hgoing : s.roundTerminal = false) : Flow s (s.payPot outcome hand.pot)
  | refund {s : Session} {hand : Hand} (hhand : s.table.hand? = some hand)
      (hgoing : s.roundTerminal = false) :
      Flow s ((s.changePlayerPool (hand.pot.tdiv 4)).changeDaimonPool
        (hand.pot - hand.pot.tdiv 4))

/-- Any number of flows. -/
abbrev Flows : Session → Session → Prop := Relation.ReflTransGen Flow

theorem finishTutorial_table (s : Session) :
    s.finishTutorial.table =
      { s.table with player := { s.table.player with tutorialFinished := true } } := by
  unfold finishTutorial
  split
  · next h => rw [← h]
  · rfl

private theorem loseGame_table (s : Session) :
    s.loseGame.table = { s.table with game? := s.table.game?.map Game.markLost } := by
  unfold loseGame
  cases h : s.table.game? with
  | none =>
    simp only [Option.map_none]
    rw [← h]
  | some game => rfl

theorem endRound_table (s : Session) (round : Round) (status : RoundStatus) :
    (s.endRound round status).table =
      { s.table with
        player := { s.table.player with tutorialFinished := true }
        game? := if status = .lost then s.table.game?.map Game.markLost else s.table.game?
        round? := some { round with status } } := by
  unfold endRound
  split <;> simp [loseGame_table, finishTutorial_table]

@[simp] theorem finishTutorial_rng (s : Session) : s.finishTutorial.rng = s.rng := by
  unfold finishTutorial
  split <;> rfl

@[simp] theorem loseGame_rng (s : Session) : s.loseGame.rng = s.rng := by
  unfold loseGame
  split <;> rfl

@[simp] theorem endRound_rng (s : Session) (round : Round) (status : RoundStatus) :
    (s.endRound round status).rng = s.rng := by
  unfold endRound
  split <;> simp

theorem settleRound_cases (s : Session) :
    s.settleRound = s ∨
      ∃ round status, s.table.round? = some round ∧ round.isInProgress ∧ status ≠ .inProgress ∧
        s.settleRound = s.endRound round status := by
  unfold settleRound
  split
  · exact .inl rfl
  · next round hround =>
    unfold Round.isTerminal
    cases hopen : round.isInProgress with
    | false => exact .inl rfl
    | true =>
      simp only [Bool.not_true, Bool.false_eq_true, ↓reduceIte]
      split
      · exact .inr ⟨round, .lost, hround, hopen, by decide, rfl⟩
      · split
        · exact .inr ⟨round, .won, hround, hopen, by decide, rfl⟩
        · exact .inl rfl

section
variable {α : Type} {seen : Event → Option α}
  (hended : ∀ number status, seen (.roundEnded number status) = none)
  (hlost : ∀ rounds, seen (.gameLost rounds) = none)
include hended hlost

private theorem endRound_filterMap (s : Session) (round : Round) (status : RoundStatus) :
    (s.endRound round status).events.filterMap seen = s.events.filterMap seen := by
  have htutorial (t : Session) : t.finishTutorial.events = t.events := by
    unfold finishTutorial
    split <;> rfl
  have hgame (t : Session) : t.loseGame.events.filterMap seen = t.events.filterMap seen := by
    unfold loseGame
    split
    · simp [emit, putGame, hlost]
    · rfl
  have hround : ((s.putRound { round with status }).emit
      (.roundEnded round.number status)).events.filterMap seen = s.events.filterMap seen := by
    simp [emit, putRound, hended]
  unfold endRound
  split
  · rw [hgame, htutorial, hround]
  · rw [htutorial, hround]

theorem settleRound_filterMap (s : Session) :
    s.settleRound.events.filterMap seen = s.events.filterMap seen := by
  obtain h | ⟨round, status, -, -, -, h⟩ := s.settleRound_cases
  · rw [h]
  · rw [h, endRound_filterMap hended hlost]

end

/-- Blood has moved, and nothing else, before both pools are looked at. -/
structure Moves (s t : Session) : Prop where
  bloodless : t.table.bloodless = s.table.bloodless
  standing : t.table.standing = s.table.standing
  hand : t.table.hand? = s.table.hand?
  rng : t.rng = s.rng
  events : t.events = s.events

theorem BloodStep.moves {s s' : Session} (h : BloodStep s s') :
    (∃ log, s' = s.emit (.effectApplied log)) ∨ (∃ delta, s' = s.changePot delta) ∨
      ∃ t, s' = t.settleRound ∧ s.Moves t := by
  -- without a round there is nothing to move and nothing to look at
  have hidle (hround : s.table.round? = none) : s = s.settleRound ∧ s.Moves s := by
    refine ⟨?_, rfl, rfl, rfl, rfl, rfl⟩
    unfold settleRound
    rw [hround]
  cases h with
  | record log => exact .inl ⟨log, rfl⟩
  | playerPool delta => exact .inr (.inr ⟨_, rfl, rfl, rfl, rfl, rfl, rfl⟩)
  | daimonPool delta =>
    unfold changeDaimonPool
    split
    · next hround => exact .inr (.inr ⟨s, hidle hround⟩)
    · next round hround =>
      refine .inr (.inr ⟨_, rfl, ?_, ?_, rfl, rfl, rfl⟩)
      · simp [Table.bloodless, hround]
      · simp [Table.standing, hround]
  | ceiling multiplier round hround =>
    simp only [scaleCeiling, putCeiling, hround]
    refine .inr (.inr ⟨_, rfl, ?_, ?_, rfl, rfl, rfl⟩)
    · simp [Table.bloodless, hround]
    · simp [Table.standing, hround]
  | daimonMaximum multiplier =>
    unfold scaleDaimonMaximum
    split
    · next hround => exact .inr (.inr ⟨s, hidle hround⟩)
    · next round hround =>
      refine .inr (.inr ⟨_, rfl, ?_, ?_, rfl, rfl, rfl⟩)
      · simp [Table.bloodless, hround]
      · simp [Table.standing, hround]
  | pot delta => exact .inr (.inl ⟨delta, rfl⟩)

theorem settleRound_bloodless (s : Session) :
    s.settleRound.table.bloodless = s.table.bloodless := by
  obtain h | ⟨round, status, hround, -, -, h⟩ := s.settleRound_cases
  · rw [h]
  · rw [h, endRound_table]
    unfold Table.bloodless
    cases s.table.game? <;> split <;> simp [hround, Game.markLost]

@[simp] theorem settleRound_rng (s : Session) : s.settleRound.rng = s.rng := by
  obtain h | ⟨round, status, -, -, -, h⟩ := s.settleRound_cases <;> simp [h]

theorem BloodStep.bloodless {s s' : Session} (h : BloodStep s s') :
    s'.table.bloodless = s.table.bloodless ∧ s'.rng = s.rng := by
  obtain ⟨log, rfl⟩ | ⟨delta, rfl⟩ | ⟨t, rfl, hmoves⟩ := h.moves
  · exact ⟨rfl, rfl⟩
  · unfold changePot
    split
    · exact ⟨rfl, rfl⟩
    · next hand hhand => exact ⟨by simp [Table.bloodless, hhand], rfl⟩
  · exact ⟨t.settleRound_bloodless.trans hmoves.bloodless, t.settleRound_rng.trans hmoves.rng⟩

theorem Bleeds.bloodless {s s' : Session} (h : Bleeds s s') :
    s'.table.bloodless = s.table.bloodless ∧ s'.rng = s.rng := by
  induction h with
  | refl => exact ⟨rfl, rfl⟩
  | tail _ step ih => exact ⟨step.bloodless.1.trans ih.1, step.bloodless.2.trans ih.2⟩

private theorem endRound_standing (s : Session) (round : Round) (status : RoundStatus) :
    (s.endRound round status).table.standing = s.table.standing.ended status := by
  rw [endRound_table]
  unfold Table.standing Standing.ended
  split <;> simp [Function.comp_def, Game.markLost]

/-- The standing stays as it was, or a round in progress has ended. -/
def Advances (s s' : Session) : Prop :=
  s'.table.standing = s.table.standing ∨
    ∃ status, status ≠ .inProgress ∧ s.table.standing.round? = some .inProgress ∧
      s'.table.standing = s.table.standing.ended status

theorem Advances.trans {s t u : Session} (h : Advances s t) (h' : Advances t u) :
    Advances s u := by
  obtain h | ⟨status, hstatus, hopen, h⟩ := h
  · unfold Advances at h' ⊢
    rw [← h]
    exact h'
  · obtain h' | ⟨status', -, hopen', -⟩ := h'
    · exact .inr ⟨status, hstatus, hopen, h'.trans h⟩
    · -- a round ends only once
      rw [h] at hopen'
      exact absurd (Option.some.inj hopen') hstatus

theorem settleRound_advances (s : Session) : Advances s s.settleRound := by
  obtain h | ⟨round, status, hround, hopen, hstatus, h⟩ := s.settleRound_cases
  · exact .inl (by rw [h])
  · refine .inr ⟨status, hstatus, ?_, by rw [h, endRound_standing]⟩
    simpa [Table.standing, hround, Round.isInProgress] using hopen

theorem BloodStep.advances {s s' : Session} (h : BloodStep s s') : Advances s s' := by
  obtain ⟨log, rfl⟩ | ⟨delta, rfl⟩ | ⟨t, rfl, hmoves⟩ := h.moves
  · exact .inl rfl
  · unfold changePot
    split <;> exact .inl rfl
  · exact .trans (.inl hmoves.standing) t.settleRound_advances

theorem Bleeds.advances {s s' : Session} (h : Bleeds s s') : Advances s s' := by
  induction h with
  | refl => exact .inl rfl
  | tail _ step ih => exact ih.trans step.advances

theorem Advances.tutorialFinished {s s' : Session} (h : Advances s s')
    (hs : s.table.player.tutorialFinished = true) : s'.table.player.tutorialFinished = true := by
  obtain h | ⟨status, -, -, h⟩ := h
  · exact (congrArg Standing.tutorialFinished h).trans hs
  · exact congrArg Standing.tutorialFinished h

theorem Advances.of_roundInProgress {s s' : Session} (h : Advances s s')
    (hopen : s'.roundInProgress = true) : s'.table.standing = s.table.standing := by
  obtain h | ⟨status, hstatus, -, h⟩ := h
  · exact h
  · obtain ⟨round, hround, hopen⟩ := s'.roundInProgress_iff.mp hopen
    have hended := congrArg Standing.round? h
    simp only [Table.standing, Standing.ended, hround, Option.map_some, Option.some.injEq] at hended
    simp only [Round.isInProgress, decide_eq_true_eq] at hopen
    exact absurd (hended.symm.trans hopen) hstatus

theorem changePlayerPool_bleeds (s : Session) (delta : Int) : s.Bleeds (s.changePlayerPool delta) :=
  .single (.playerPool s delta)

theorem changeDaimonPool_bleeds (s : Session) (delta : Int) : s.Bleeds (s.changeDaimonPool delta) :=
  .single (.daimonPool s delta)

theorem perform_step (s : Session) (action : Action) (value : Float) :
    (s.perform action value).1 = s ∨ BloodStep s (s.perform action value).1 := by
  have hhit (amount : Int) : BloodStep s (s.hitDaimon amount).1 := by
    simp only [hitDaimon]
    split <;> exact .daimonPool s amount
  cases action with
  | playerHealth => exact .inr (.playerPool s _)
  | daimonHealth => exact .inr (hhit _)
  | bloodWager =>
    simp only [perform]
    split <;> exact .inr (.pot s _)
  | playerMaxHealth =>
    simp only [perform]
    split
    · next round hround => exact .inr (.ceiling s value round hround)
    · exact .inl rfl
  | daimonMaxHealth =>
    simp only [perform]
    split <;> exact .inr (.daimonMaximum s value)
  | damageDaimonWithDifference =>
    simp only [perform]
    split
    · exact .inr (hhit _)
    · exact .inl rfl
  | showCardCount => exact .inl rfl
  | showNextCardCount =>
    simp only [perform]
    split <;> exact .inl rfl
  | showNextCard =>
    simp only [perform]
    split <;> exact .inl rfl
  | nothing => exact .inl rfl

theorem perform_bleeds (s : Session) (action : Action) (value : Float) :
    s.Bleeds (s.perform action value).1 := by
  obtain h | h := s.perform_step action value
  · rw [h]
  · exact .single h

theorem payStakes_bleeds (s : Session) (stake : Int) : s.Bleeds (s.payStakes stake) :=
  (s.changeDaimonPool_bleeds _).trans (changePlayerPool_bleeds _ _)

theorem refund_bleeds (s : Session) (refund rest : Int) :
    s.Bleeds ((s.changePlayerPool refund).changeDaimonPool rest) :=
  (s.changePlayerPool_bleeds _).trans (changeDaimonPool_bleeds _ _)

theorem payPot_bleeds (s : Session) (outcome : Outcome) (pot : Int) :
    s.Bleeds (s.payPot outcome pot) := by
  cases outcome with
  | won => exact s.changePlayerPool_bleeds pot
  | lost => exact s.changeDaimonPool_bleeds pot
  | pushed => exact s.refund_bleeds _ _

theorem Flow.bleeds {s s' : Session} (h : Flow s s') : s.Bleeds s' := by
  cases h with
  | effect source phase action value => exact (s.perform_bleeds action value).tail (.record _ _)
  | payout outcome hhand hgoing => exact s.payPot_bleeds outcome _
  | refund hhand hgoing => exact s.refund_bleeds _ _

theorem Flows.bleeds {s s' : Session} (h : s.Flows s') : s.Bleeds s' := by
  induction h with
  | refl => exact .refl
  | tail _ step ih => exact ih.trans step.bleeds

private theorem fireActions_flows (source : EffectSource) (bundle : Bundle) (phase : Phase)
    (actions : List Action) (s : Session) :
    s.Flows (fireActions source bundle phase actions s).1 := by
  induction actions generalizing s with
  | nil => exact .refl
  | cons action actions ih =>
    unfold fireActions
    split
    · exact ih s
    · next value _ =>
      exact .head (.effect s source phase action value) (ih _)

theorem fire_flows (s : Session) (source : EffectSource) (effect : Effect) (phase : Phase) :
    s.Flows (s.fire source effect phase).1 :=
  fireActions_flows source effect.bundle phase _ s

theorem fireSlot_flows (s : Session) (catalog : Catalog) (token : TokenId) (slotType : SlotType)
    (phase : Phase) : s.Flows (s.fireSlot catalog token slotType phase).1 := by
  unfold fireSlot
  split
  · exact s.fire_flows _ _ phase
  · exact .refl

theorem fireToken_flows (s : Session) (catalog : Catalog) (phase : Phase) :
    s.Flows (s.fireToken catalog phase).1 := by
  unfold fireToken
  split
  · exact s.fireSlot_flows catalog _ _ phase
  · exact .refl

theorem fireDaimon_flows (s : Session) (catalog : Catalog) (phase : Phase) :
    s.Flows (s.fireDaimon catalog phase).1 := by
  unfold fireDaimon
  split
  · exact s.fire_flows _ _ phase
  · exact .refl

theorem fireCards_flows (phase : Phase) (cards : List CardId) (s : Session) :
    s.Flows (fireCards phase cards s).1 := by
  induction cards generalizing s with
  | nil => exact .refl
  | cons card cards ih =>
    unfold fireCards
    split
    · exact ih s
    · exact (s.fire_flows _ _ phase).trans (ih _)

theorem fireTable_flows (s : Session) (catalog : Catalog) (phase : Phase) :
    s.Flows (s.fireTable catalog phase).1 :=
  ((s.fireToken_flows catalog phase).trans (fireDaimon_flows _ catalog phase)).trans
    (fireCards_flows phase _ _)

end Session

end BloodStakes
