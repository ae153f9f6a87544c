import BloodStakes.Deck

/-! What a table must not hold. -/
namespace BloodStakes

inductive Violation where
  | poolBelowZero
  | maximumBelowZero
  | poolAboveCeiling (pool ceiling : Int)
  | progressBelowStart
  | streakAboveLongest
  | repeatedCard (card : CardId)
  | daimonPoolOutOfBounds
  | ceilingBelowZero
  | potBelowZero
  deriving DecidableEq, Repr

namespace Violation

def part : Violation → String
  | poolBelowZero | maximumBelowZero | poolAboveCeiling .. => "player"
  | progressBelowStart | streakAboveLongest => "game"
  | repeatedCard .. | daimonPoolOutOfBounds | ceilingBelowZero => "round"
  | potBelowZero => "hand"

def fault : Violation → String
  | poolBelowZero => "blood_pool below zero"
  | maximumBelowZero => "max_blood_pool below zero"
  | poolAboveCeiling pool ceiling => s!"blood_pool {pool} above max {ceiling}"
  | progressBelowStart => "daimon_progress below -1"
  | streakAboveLongest => "longest_win_streak must be greater than or equal to win_streak"
  | repeatedCard card => s!"shuffled_deck {(DeckError.duplicate card).message}"
  | daimonPoolOutOfBounds => "daimon_blood_pool outside [0, daimon_max_blood_pool]"
  | ceilingBelowZero => "player_max_blood_pool below zero"
  | potBelowZero => "blood_wager below zero"

def message (v : Violation) : String :=
  s!"invalid {v.part}: {v.fault}"

end Violation

end BloodStakes
