import BloodStakes.Session.Moves

/-! Opening a game, and the rounds of a game. -/
namespace BloodStakes

/-- Who is faced next: the story's daimon if it has not been faced in this game, else an
unlocked one by chance. Progress is kept in 32 bits with a sign. -/
def Catalog.nextDaimon (catalog : Catalog) (progression : Nat) (game : Game) (rng : Rng) :
    Option (Daimon × Game × Rng) :=
  let byChance :=
    match catalog.pickDaimon progression rng with
    | (some daimon, rng) => some (daimon, game, rng)
    | (none, _) => none
  match catalog.storyDaimon? progression with
  | some daimon =>
    if game.daimonProgress < progression then
      some (daimon, { game with daimonProgress := (progression : Int).bmod UInt32.size }, rng)
    else byChance
  | none => byChance

namespace Session

/-- The session with a new game: the player's pool is filled, and no round is being played. -/
def openGame (s : Session) : Session :=
  let player := { s.table.player with
    bloodPool := s.table.player.maxBloodPool
    gamesPlayed := s.table.player.gamesPlayed + 1 }
  let s := { s with
    table := { player, game? := some {} }
    touched := { player := true, game := true, round := true, hand := true } }
  s.emit (.gameStarted player.bloodPool)

/-- The player at the start of a round: blood above the player's own maximum is lost, and the
records are kept. -/
def enterRound (player : Player) (number : Nat) (daimonHealth : Int) : Player :=
  { player with
    bloodPool := min player.bloodPool player.maxBloodPool
    maxRoundReached := max player.maxRoundReached number
    maxDaimonHealthReached := max player.maxDaimonHealthReached daimonHealth }

/-- The session with the next round opened against `daimon`, its shoe still empty. -/
def openRound (s : Session) (rules : Rules) (daimon : Daimon) (game : Game) : Session :=
  let number := game.roundsPlayed + 1
  let daimonHealth := rules.daimonHealth number daimon.doubleHealth
  let player := enterRound s.table.player number daimonHealth
  { s with
    table := {
      player
      game? := some { game with roundsPlayed := number }
      round? := some {
        number
        daimon := daimon.id
        daimonPool := daimonHealth
        daimonMaximum := daimonHealth
        ceiling := player.maxBloodPool
        handsPlayed := 0
        shoe := []
        discard := []
        status := .inProgress } }
    touched := { player := true, game := true, round := true, hand := true } }

end Session

namespace Play

def startGame : Play Unit := do
  refuseIf ((← get).table.game?.any Game.isInProgress) .gameInProgress
  modify Session.openGame

/-- Announces the round being played and fires its start. -/
def announceRound (catalog : Catalog) (tutorial : Bool) : Play Unit := do
  let current ← round
  modify fun s => s.emit
    (.roundStarted current.number current.daimon current.daimonPool tutorial)
  modify fun s => (s.fireToken catalog .roundStart).1
  modify fun s => (s.fireDaimon catalog .roundStart).1

def startRound (house : House) : Play Unit := do
  let s ← get
  refuseIf s.roundInProgress .roundInProgress
  match s.table.game?.filter Game.isInProgress with
  | none => throw .noGame
  | some game =>
    let player := s.table.player
    match house.catalog.nextDaimon player.storyProgression game s.rng with
    | none => throw (.noDaimon player.storyProgression)
    | some (daimon, game, rng) =>
      set ({ s with rng }.openRound house.rules daimon game)
      shuffleDeck house.rules
      announceRound house.catalog (!player.tutorialFinished)

end Play

end BloodStakes
