import BloodStakes.Session.Belongings
import BloodStakes.Session.Opening
import BloodStakes.Store.Basic

/-!
The service: it loads a player's table, plays on a copy, and stores what was touched. A
request that is refused stores nothing. Each request is played with a seed of its own.
-/
namespace BloodStakes

/-- Stores what the session has touched, if it has touched anything. -/
def Session.persist (s : Session) (store : Store) : Except StoreError (Store × Session) :=
  if s.changes.isEmpty then .ok (store, s)
  else
    match store.commit s.table.player.id s.changes with
    | .ok store => .ok (store, { s with touched := {} })
    | .error e => .error e

/-- Mixes a seed and a counter into the seed of one request. -/
def mixSeed (seed nonce : UInt64) : UInt64 :=
  let z := seed ^^^ ((nonce + 1) * 0x9e3779b97f4a7c15)
  let z := (z ^^^ (z >>> 30)) * 0xbf58476d1ce4e5b9
  let z := (z ^^^ (z >>> 27)) * 0x94d049bb133111eb
  z ^^^ (z >>> 31)

inductive Request where
  | startGame
  | startRound
  | startHand
  | draw
  | stand
  | surrender
  | doubleDown
  | equipToken (slot : SlotId) (token : TokenId)
  | assignDeck (cards : List CardId)
  | claimStoryToken
  deriving DecidableEq, Repr

inductive Reply where
  | done
  | hand (status : HandStatus)
  | card (card : CardId)
  | effects (logs : List EffectLog)
  | token (token? : Option TokenId)

def Request.play (house : House) : Request → Play Reply
  | startGame => do Play.startGame; return .done
  | startRound => do Play.startRound house; return .done
  | startHand => return .hand (← Play.startHand house)
  | draw => return .card (← Play.draw house)
  | stand => return .hand (← Play.stand house)
  | surrender => return .hand (← Play.surrender house)
  | doubleDown => return .hand (← Play.doubleDown)
  | equipToken slot token => return .effects (← Play.equipToken house slot token)
  | assignDeck cards => do Play.assignDeck house.rules cards; return .done
  | claimStoryToken => return .token (← Play.claimStoryToken house.catalog)

/-- What a request came to: the reply, the table as it is stored, and what happened. -/
structure Report where
  reply : Reply
  table : Table
  events : List Event

def Report.effectLogs (report : Report) : List EffectLog :=
  report.events.filterMap Event.effectLog?

structure Service where
  house : House
  store : Store := {}
  seed : UInt64
  /-- The number of seeds handed out. -/
  nonce : UInt64 := 0
  nextPlayer : PlayerId := 1

namespace Service

/-- Stores a new player under the next number, which is used up in any case. -/
def addPlayer (service : Service) (player : PlayerId → Player) :
    Except PlayError Player × Service :=
  let player := player service.nextPlayer
  let service := { service with nextPlayer := service.nextPlayer + 1 }
  match service.store.insertPlayer player with
  | .ok store => (.ok player, { service with store })
  | .error e => (.error (.store e), service)

def createPlayer (service : Service) (username : String) : Except PlayError Player × Service :=
  service.addPlayer fun id => .ofStarter id username starterDeck service.house.rules

def createGuest (service : Service) (time : Nat) : Except PlayError Player × Service :=
  service.addPlayer fun id => .guest id time starterDeck service.house.rules

def table (service : Service) (player : PlayerId) : Except PlayError Table :=
  (service.store.load player).mapError .store

/-- A session on the stored table, with the next seed. -/
def openSession (service : Service) (player : PlayerId) :
    Except PlayError Session × Service :=
  match service.store.load player with
  | .ok table =>
    let rng := Rng.ofSeed (mixSeed service.seed service.nonce)
    (.ok { table := table, rng := rng }, { service with nonce := service.nonce + 1 })
  | .error e => (.error (.store e), service)

def availableMoves (service : Service) (player : PlayerId) :
    Except PlayError (List Move) × Service :=
  match service.openSession player with
  | (.ok session, service) => (.ok session.availableMoves, service)
  | (.error e, service) => (.error e, service)

def perform (service : Service) (player : PlayerId) (request : Request) :
    Except PlayError Report × Service :=
  match service.openSession player with
  | (.error e, service) => (.error e, service)
  | (.ok session, service) =>
    match (request.play service.house).run session with
    | .error e _ => (.error e, service)
    | .ok reply session =>
      match session.persist service.store with
      | .error e => (.error (.store e), service)
      | .ok (store, session) =>
        (.ok { reply, table := session.table, events := session.events }, { service with store })

end Service

end BloodStakes
