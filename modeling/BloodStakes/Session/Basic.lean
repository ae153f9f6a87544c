import BloodStakes.Catalog
import BloodStakes.Event
import BloodStakes.Store.Change

/-!
A session is the working copy of one table during one action: every read and write goes
through it, and what it has touched is written to the store at the end.
-/
namespace BloodStakes

/-- What every table is played by. -/
structure House where
  rules : Rules := {}
  catalog : Catalog := {}

/-- The parts of the table that have been written since they were last stored. -/
structure Touched where
  player : Bool := false
  game : Bool := false
  round : Bool := false
  hand : Bool := false
  deriving DecidableEq, Repr

structure Session where
  table : Table
  rng : Rng
  touched : Touched := {}
  /-- What has happened, the earliest first. -/
  events : List Event := []

namespace Session

def roundInProgress (s : Session) : Bool := s.table.round?.any Round.isInProgress

def roundTerminal (s : Session) : Bool := s.table.round?.any Round.isTerminal

def handInProgress (s : Session) : Bool := s.table.hand?.any Hand.isInProgress

def emit (s : Session) (event : Event) : Session :=
  { s with events := s.events ++ [event] }

/-- Replaces the player and marks the part as touched. -/
def putPlayer (s : Session) (player : Player) : Session :=
  { s with table := { s.table with player }, touched := { s.touched with player := true } }

def putGame (s : Session) (game : Game) : Session :=
  { s with table := { s.table with game? := game }, touched := { s.touched with game := true } }

def putRound (s : Session) (round : Round) : Session :=
  { s with table := { s.table with round? := round }, touched := { s.touched with round := true } }

def putHand (s : Session) (hand : Hand) : Session :=
  { s with table := { s.table with hand? := hand }, touched := { s.touched with hand := true } }

/-- The touched parts as they are now. -/
def changes (s : Session) : Changeset where
  player? := if s.touched.player then some s.table.player else none
  game := .ofTouched s.touched.game s.table.game?
  round := .ofTouched s.touched.round s.table.round?
  hand := .ofTouched s.touched.hand s.table.hand?

end Session

end BloodStakes
