import Mathlib.Order.Bounds.Defs
import BloodStakes.Session.Settlement

/-!
The books of a game. They follow from the results of its hands alone: how many were won and
lost, how many were won in a row at last, and at most.
-/
namespace BloodStakes.Game

/-- The game with nothing but its books. -/
def books (game : Game) : Game :=
  { game with daimonProgress := -1, roundsPlayed := 0, status := .inProgress }

theorem books_record (game : Game) (status : HandStatus) :
    (game.record status).books = game.books.record status := by
  unfold record
  split <;> rfl

/-- The books after hands that ended with the `results`, the latest first. -/
def ofResults (results : List HandStatus) : Game :=
  results.foldr (fun status game => game.record status) {}

/-- The number of hands won in a row at last. -/
def streak (results : List HandStatus) : Nat := (results.takeWhile (· = .won)).length

variable (results : List HandStatus)

theorem ofResults_cons (status : HandStatus) :
    ofResults (status :: results) = (ofResults results).record status := rfl

theorem ofResults_handsWon : (ofResults results).handsWon = results.count .won := by
  induction results with
  | nil => rfl
  | cons status results ih =>
    rw [ofResults_cons, List.count_cons]
    unfold record
    split
    · next hwon => simp [hwon, recordWin, ih]
    · next hwon => simp [hwon, recordLoss, ih]

theorem ofResults_hands :
    (ofResults results).handsWon + (ofResults results).handsLost = results.length := by
  induction results with
  | nil => rfl
  | cons status results ih =>
    rw [ofResults_cons, List.length_cons, ← ih]
    unfold record
    split
    · simp only [recordWin]
      omega
    · simp only [recordLoss]
      omega

theorem ofResults_winStreak : (ofResults results).winStreak = streak results := by
  induction results with
  | nil => rfl
  | cons status results ih =>
    rw [ofResults_cons]
    unfold record streak
    split
    · next hwon => simp [hwon, recordWin, ih, streak]
    · next hwon => simp [hwon, recordLoss]

theorem replicate_prefix_iff (n : Nat) :
    List.replicate n HandStatus.won <+: results ↔ n ≤ streak results := by
  induction results generalizing n with
  | nil => simp [streak]
  | cons status results ih =>
    cases n with
    | zero => simp
    | succ n =>
      rw [List.replicate_succ, List.cons_prefix_cons, ih]
      by_cases hwon : status = .won
      · simp [streak, hwon]
      · simp [streak, hwon, Ne.symm hwon]

theorem ofResults_longestWinStreak :
    IsGreatest {n | List.replicate n HandStatus.won <:+: results}
      (ofResults results).longestWinStreak := by
  induction results with
  | nil =>
    refine ⟨List.infix_refl _, fun n hn => ?_⟩
    have hempty : n = 0 := by simpa using List.infix_nil.mp hn
    exact Nat.le_of_eq hempty
  | cons status results ih =>
    obtain ⟨hlongest, hmax⟩ := ih
    have hstreak : (ofResults (status :: results)).longestWinStreak =
        max (ofResults results).longestWinStreak (streak (status :: results)) := by
      rw [← ofResults_winStreak, ofResults_cons]
      unfold record
      split <;> simp [recordWin, recordLoss]
    rw [hstreak]
    refine ⟨?_, fun n hn => ?_⟩
    · rcases Nat.le_total (streak (status :: results)) (ofResults results).longestWinStreak with
        hle | hle
      · rw [Nat.max_eq_left hle]
        exact hlongest.trans (List.suffix_cons _ _).isInfix
      · rw [Nat.max_eq_right hle]
        exact ((replicate_prefix_iff _ _).mpr Nat.le.refl).isInfix
    · obtain hprefix | hinfix := List.infix_cons_iff.mp hn
      · exact Nat.le_trans ((replicate_prefix_iff _ _).mp hprefix) (Nat.le_max_right _ _)
      · exact Nat.le_trans (hmax hinfix) (Nat.le_max_left _ _)

/-- The books say of the hands how many were won, how many were played, and how many were won in a
row at last and at most; a hand that was pushed counts as one that was lost. -/
structure Reflects (game : Game) (results : List HandStatus) : Prop where
  won : game.handsWon = results.count .won
  played : game.handsWon + game.handsLost = results.length
  streak : game.winStreak = (results.takeWhile (· = .won)).length
  longest : IsGreatest {n | List.replicate n HandStatus.won <:+: results} game.longestWinStreak

theorem reflects_of_books {game : Game} {results : List HandStatus}
    (h : game.books = ofResults results) : game.Reflects results := by
  have hofResults : (ofResults results).Reflects results := {
    won := ofResults_handsWon results
    played := ofResults_hands results
    streak := ofResults_winStreak results
    longest := ofResults_longestWinStreak results }
  obtain ⟨hwon, hplayed, hstreak, hlongest⟩ := h ▸ hofResults
  exact ⟨hwon, hplayed, hstreak, hlongest⟩

end BloodStakes.Game
