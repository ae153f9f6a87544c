import BloodStakes.Proofs.Bounds

/-!
Effects on a round that is over. The effects of a phase go on firing after the end of the round,
and one of them may give the loser blood again or take the winner's; its record tells.
-/
namespace BloodStakes

/-- Whether a round that has ended as `status` no longer agrees with the pool or ceiling that
an effect has left. -/
def EffectResult.upsets (status : RoundStatus) (result : EffectResult) : Bool :=
  match status, result with
  | .lost, .playerHealth _ pool => 0 < pool
  | .won, .playerHealth _ pool => pool ≤ 0
  | .won, .daimonHealth _ pool => 0 < pool
  | .won, .playerMaxHealth _ ceiling => ceiling ≤ 0
  | _, _ => false

def Event.upsets (status : RoundStatus) : Event → Bool
  | .effectApplied log => log.result.upsets status
  | _ => false

/-- Whether an effect has upset a round after its end. -/
def Event.anyUpset : List Event → Bool
  | [] => false
  | .roundEnded _ status :: events => events.any (upsets status) || anyUpset events
  | _ :: events => anyUpset events

theorem Event.anyUpset_append {events : List Event} (h : anyUpset events = true)
    (more : List Event) : anyUpset (events ++ more) = true := by
  induction events with
  | nil => cases h
  | cons event events ih =>
    cases event with
    | roundEnded number status =>
      simp only [anyUpset, Bool.or_eq_true, List.cons_append, List.any_append] at h ⊢
      obtain h | h := h
      · exact .inl (.inl h)
      · exact .inr (ih h)
    | _ => exact ih h

theorem Event.anyUpset_of_mem {events : List Event} {number : Nat} {status : RoundStatus}
    (hended : .roundEnded number status ∈ events) {event : Event}
    (h : event.upsets status = true) : anyUpset (events ++ [event]) = true := by
  induction events with
  | nil => cases hended
  | cons first events ih =>
    obtain hfirst | hlater := List.mem_cons.mp hended
    · rw [← hfirst]
      simp [anyUpset, h]
    · cases first with
      | roundEnded _ _ => simp only [anyUpset, List.cons_append, ih hlater, Bool.or_true]
      | _ => exact ih hlater

/-- The status of the round is what the two pools say. -/
def Round.Agrees (round : Round) (pool : Int) : Prop :=
  match round.status with
  | .inProgress => 0 < pool ∧ 0 < round.daimonPool
  | .won => round.daimonPool = 0 ∧ 0 < pool
  | .lost => pool = 0

theorem Round.status_of_over {round : Round} (h : round.isInProgress = false) :
    round.status = .won ∨ round.status = .lost := by
  cases hstatus : round.status with
  | inProgress => simp [isInProgress, hstatus] at h
  | won => exact .inl rfl
  | lost => exact .inr rfl

theorem Round.Agrees.iff {round : Round} {pool : Int} (h : round.Agrees pool) :
    (round.status = .lost ↔ pool = 0) ∧
    (round.status = .won ↔ round.daimonPool = 0 ∧ 0 < pool) ∧
    (round.status = .inProgress ↔ 0 < pool ∧ 0 < round.daimonPool) := by
  unfold Agrees at h
  cases hstatus : round.status <;> simp only [hstatus] at h <;>
    simp only [reduceCtorEq, true_iff, false_iff] <;> omega

namespace Session

variable {s s' : Session}

theorem settleRound_of_over {round : Round} (hround : s.table.round? = some round)
    (hover : round.isInProgress = false) : s.settleRound = s := by
  unfold settleRound
  simp [hround, Round.isTerminal, hover]

theorem changePlayerPool_of_over {round : Round} (hround : s.table.round? = some round)
    (hover : round.isInProgress = false) (delta : Int) :
    s.changePlayerPool delta = s.putPlayer { s.table.player with
      bloodPool := clampedSum s.table.player.bloodPool delta s.ceiling } :=
  settleRound_of_over hround hover

theorem changeDaimonPool_of_over {round : Round} (hround : s.table.round? = some round)
    (hover : round.isInProgress = false) (delta : Int) :
    s.changeDaimonPool delta = s.putRound { round with
      daimonPool := clampedSum round.daimonPool delta round.daimonMaximum } := by
  simp only [changeDaimonPool, hround]
  exact settleRound_of_over rfl hover

/-- What an effect on a round that is over leaves: the status, and agreement with the pools
unless its record says otherwise. -/
structure Spares (s : Session) (round : Round) (after : Session × EffectResult) : Prop where
  events : after.1.events = s.events
  round : ∃ round', after.1.table.round? = some round' ∧ round'.status = round.status ∧
    (round.Agrees s.table.player.bloodPool →
      round'.Agrees after.1.table.player.bloodPool ∨ after.2.upsets round.status = true)

theorem spares_self {round : Round} (hround : s.table.round? = some round)
    (result : EffectResult) : Spares s round (s, result) :=
  ⟨rfl, round, hround, rfl, .inl⟩

private theorem changePot_spares {round : Round} (hround : s.table.round? = some round)
    (delta : Int)
    (result : EffectResult) : Spares s round (s.changePot delta, result) := by
  unfold changePot
  split
  · exact spares_self hround result
  · exact ⟨rfl, round, hround, rfl, .inl⟩

variable {round : Round} (hround : s.table.round? = some round)
  (hover : round.isInProgress = false)
include hround hover

theorem hitDaimon_spares (amount : Int) : Spares s round (s.hitDaimon amount) := by
  have hchange := changeDaimonPool_of_over hround hover amount
  have hpool := clampedSum_nonneg round.daimonPool amount round.daimonMaximum
  simp only [hitDaimon, hchange, putRound_table]
  refine ⟨rfl, _, rfl, rfl, fun hagrees => ?_⟩
  unfold Round.Agrees at hagrees ⊢
  obtain hstatus | hstatus := Round.status_of_over hover <;>
    simp only [hstatus, EffectResult.upsets, decide_eq_true_eq, putRound_table] at hagrees ⊢ <;>
    omega

theorem perform_spares (action : Action) (value : Float) :
    Spares s round (s.perform action value) := by
  cases action with
  | playerHealth =>
    have hchange (amount : Int) := changePlayerPool_of_over hround hover amount
    have hpool := clampedSum_nonneg s.table.player.bloodPool (s.amountOf .player value) s.ceiling
    simp only [perform, hchange, putPlayer_table]
    refine ⟨rfl, round, hround, rfl, fun hagrees => ?_⟩
    unfold Round.Agrees at hagrees ⊢
    obtain hstatus | hstatus := Round.status_of_over hover <;>
      simp only [hstatus, EffectResult.upsets, decide_eq_true_eq, putPlayer_table] at hagrees ⊢ <;>
      omega
  | daimonHealth => exact hitDaimon_spares hround hover _
  | bloodWager =>
    simp only [perform]
    split <;> exact changePot_spares hround _ _
  | playerMaxHealth =>
    have hscale := Amount.scale_nonneg s.ceiling value
    have hchange : s.scaleCeiling value = (s.putRound { round with
        ceiling := Amount.scale s.ceiling value }).putPlayer { s.table.player with
          bloodPool := min s.table.player.bloodPool (Amount.scale s.ceiling value) } := by
      simp only [scaleCeiling, putCeiling, hround]
      exact settleRound_of_over rfl hover
    have hceiling : (s.scaleCeiling value).ceiling = Amount.scale s.ceiling value := by
      rw [hchange]
      rfl
    simp only [perform, hround, hceiling]
    rw [hchange]
    refine ⟨rfl, _, rfl, rfl, fun hagrees => ?_⟩
    unfold Round.Agrees at hagrees ⊢
    obtain hstatus | hstatus := Round.status_of_over hover <;>
      simp only [hstatus, EffectResult.upsets, decide_eq_true_eq, putPlayer_table] at hagrees ⊢ <;>
      omega
  | daimonMaxHealth =>
    have hscale := Amount.scale_nonneg round.daimonMaximum value
    have hchange : s.scaleDaimonMaximum value = s.putRound { round with
        daimonMaximum := Amount.scale round.daimonMaximum value
        daimonPool := min round.daimonPool (Amount.scale round.daimonMaximum value) } := by
      simp only [scaleDaimonMaximum, hround]
      exact settleRound_of_over rfl hover
    simp only [perform, hchange, putRound_table]
    refine ⟨rfl, _, rfl, rfl, fun hagrees => .inl ?_⟩
    unfold Round.Agrees at hagrees ⊢
    obtain hstatus | hstatus := Round.status_of_over hover <;>
      simp only [hstatus, putRound_table] at hagrees ⊢ <;> omega
  | damageDaimonWithDifference =>
    simp only [perform, hround]
    exact hitDaimon_spares hround hover _
  | showCardCount => exact spares_self hround _
  | showNextCardCount =>
    simp only [perform]
    split <;> exact spares_self hround _
  | showNextCard =>
    simp only [perform]
    split <;> exact spares_self hround _
  | nothing => exact spares_self hround _

end Session

end BloodStakes
