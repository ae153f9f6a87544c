import BloodStakes.Sample.Urn
import BloodStakes.Session.Basic
import BloodStakes.Store.Basic

/-! Plays: what a player asks for, done on a session. A play that is refused keeps what it
has changed so far. -/
namespace BloodStakes

inductive PlayError where
  | gameInProgress
  | noGame
  | roundInProgress
  | noRound
  | roundOver
  | handInProgress
  | noHand
  | deckExhausted
  | moveNotAvailable (move : Move)
  | moveUnsupported (move : Move)
  | noDaimon (progression : Nat)
  | unknownToken (token : TokenId)
  | unknownSlot (slot : SlotId)
  | roundNotWon
  | rewardClaimed
  | unknownCard (cause : UnknownCard)
  | sample (cause : SizeMismatch)
  | deck (cause : DeckError)
  | loadout (cause : LoadoutError)
  | store (cause : StoreError)
  deriving DecidableEq, Repr

def PlayError.message : PlayError → String
  | gameInProgress => "a game is already in progress"
  | noGame => "no game in progress"
  | roundInProgress => "a round is already in progress"
  | noRound => "no round in progress"
  | roundOver => "the round is already over"
  | handInProgress => "a hand is already in progress"
  | noHand => "no hand in progress"
  | deckExhausted => "no cards left to draw"
  | moveNotAvailable move => s!"action {move.label} is not available"
  | moveUnsupported move => s!"action {move.label} is not supported"
  | noDaimon progression => s!"no daimon unlocked at story progression {progression}"
  | unknownToken token => s!"unknown token {token}"
  | unknownSlot slot => s!"unknown slot {slot}"
  | roundNotWon => "round has not been won"
  | rewardClaimed => "round reward already claimed"
  | unknownCard cause => cause.message
  | sample cause => s!"sample error: {cause.message}"
  | deck cause => s!"deck error: {cause.message}"
  | loadout cause => s!"loadout error: {cause.message}"
  | store cause => s!"store error: {cause.message}"

abbrev Play := EStateM PlayError Session

namespace Play

/-- A play goes on from where the first part left the session, unless that was refused. -/
theorem run_bind {α β : Type} (p : Play α) (f : α → Play β) (s : Session) :
    (p >>= f).run s =
      match p.run s with
      | .ok a s => (f a).run s
      | .error e s => .error e s := by
  simp only [EStateM.run, bind, EStateM.bind]
  cases p s <;> rfl

@[simp] theorem run_pure {α : Type} (a : α) (s : Session) :
    (pure a : Play α).run s = .ok a s := rfl

@[simp] theorem run_throw {α : Type} (e : PlayError) (s : Session) :
    (throw e : Play α).run s = .error e s := rfl

@[simp] theorem run_get (s : Session) : (get : Play Session).run s = .ok s s := rfl

@[simp] theorem run_modify (f : Session → Session) (s : Session) :
    (modify f : Play PUnit).run s = .ok ⟨⟩ (f s) := rfl

def refuseIf (condition : Bool) (error : PlayError) : Play Unit :=
  if condition then throw error else pure ()

@[simp] theorem run_refuseIf (condition : Bool) (error : PlayError) (s : Session) :
    (refuseIf condition error).run s = if condition then .error error s else .ok () s := by
  unfold refuseIf
  split <;> rfl

def ofExcept {ε α : Type} (toError : ε → PlayError) : Except ε α → Play α
  | .ok value => pure value
  | .error e => throw (toError e)

/-- Takes the value of a step on the session. -/
def ofStep {α : Type} (step : Session → Session × α) : Play α :=
  modifyGet fun s => let (s, a) := step s; (a, s)

def round : Play Round := do
  match (← get).table.round? with
  | some round => pure round
  | none => throw .noRound

def hand : Play Hand := do
  match (← get).table.hand? with
  | some hand => pure hand
  | none => throw .noHand

def ranks (cards : List CardId) : Play (List Rank) :=
  ofExcept .unknownCard (ranksOf cards)

theorem run_round (s : Session) :
    round.run s =
      match s.table.round? with
      | some round => .ok round s
      | none => .error .noRound s := by
  simp only [round, run_bind, run_get]
  split <;> rfl

theorem run_hand (s : Session) :
    hand.run s =
      match s.table.hand? with
      | some hand => .ok hand s
      | none => .error .noHand s := by
  simp only [hand, run_bind, run_get]
  split <;> rfl

theorem run_ranks (cards : List CardId) (s : Session) :
    (ranks cards).run s =
      match ranksOf cards with
      | .ok ranks => .ok ranks s
      | .error e => .error (.unknownCard e) s := by
  unfold ranks
  cases ranksOf cards <;> rfl

end Play

end BloodStakes
