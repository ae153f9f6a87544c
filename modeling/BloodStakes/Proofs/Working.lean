import BloodStakes.Session.Basic

/-! What each update of a session does to its table and to its source of chance. -/
namespace BloodStakes.Session

variable (s : Session)

@[simp] theorem emit_table (event : Event) : (s.emit event).table = s.table := rfl

@[simp] theorem emit_rng (event : Event) : (s.emit event).rng = s.rng := rfl

@[simp] theorem putPlayer_table (player : Player) :
    (s.putPlayer player).table = { s.table with player } := rfl

@[simp] theorem putPlayer_rng (player : Player) : (s.putPlayer player).rng = s.rng := rfl

@[simp] theorem putGame_table (game : Game) :
    (s.putGame game).table = { s.table with game? := some game } := rfl

@[simp] theorem putGame_rng (game : Game) : (s.putGame game).rng = s.rng := rfl

@[simp] theorem putRound_table (round : Round) :
    (s.putRound round).table = { s.table with round? := some round } := rfl

@[simp] theorem putRound_rng (round : Round) : (s.putRound round).rng = s.rng := rfl

@[simp] theorem putHand_table (hand : Hand) :
    (s.putHand hand).table = { s.table with hand? := some hand } := rfl

theorem roundInProgress_iff :
    s.roundInProgress = true ↔ ∃ round, s.table.round? = some round ∧ round.isInProgress := by
  unfold roundInProgress
  cases s.table.round? <;> simp

theorem handInProgress_iff :
    s.handInProgress = true ↔ ∃ hand, s.table.hand? = some hand ∧ hand.isInProgress := by
  unfold handInProgress
  cases s.table.hand? <;> simp

end BloodStakes.Session
