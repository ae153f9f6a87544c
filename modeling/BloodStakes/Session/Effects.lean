import BloodStakes.Session.Blood

/-!
Firing effects. An effect fires the actions of its kind, in order, whose entries wait for
the phase; a phase of the table fires the token first, then the daimon, then the cards.
-/
namespace BloodStakes

inductive Side where
  | player
  | daimon
  deriving DecidableEq, Repr

namespace Session

/-- The maximum of a side; a daimon without a round has none. -/
def maximumOf (s : Session) : Side → Float
  | .player => Float.ofInt s.ceiling
  | .daimon =>
    match s.table.round? with
    | some round => Float.ofInt round.daimonMaximum
    | none => 0

/-- The blood a value stands for: a fraction of the side's maximum from -1 to 1, else a
percentage of the pot. -/
def amountOf (s : Session) (side : Side) (value : Float) : Int :=
  if -1 ≤ value ∧ value ≤ 1 then Amount.truncate (s.maximumOf side * value)
  else
    match s.table.hand? with
    | some hand => Amount.truncate (Float.ofInt hand.pot / 100 * value)
    | none => 0

def countTag (card : CardId) : Int :=
  match Face.ofId? card with
  | some face => face.rank.countTag
  | none => 0

/-- The cards that are out of the shoe: the discard pile, and the open hand. -/
def seenCards (s : Session) : List CardId :=
  let discard := (s.table.round?.map Round.discard).getD []
  match s.table.hand? with
  | some hand => if hand.isInProgress then discard ++ hand.cards else discard
  | none => discard

def runningCount (s : Session) : Int :=
  s.seenCards.foldr (fun card count => countTag card + count) 0

/-- The card that is dealt next, unless the shoe is empty. -/
def nextCard? (s : Session) : Option CardId :=
  s.table.round?.bind fun round => round.shoe.head?

/-- Adds to the daimon's pool, if there is a round. -/
def hitDaimon (s : Session) (amount : Int) : Session × EffectResult :=
  let s := s.changeDaimonPool amount
  match s.table.round? with
  | some round => (s, .daimonHealth amount round.daimonPool)
  | none => (s, .skipped)

def perform (s : Session) (action : Action) (value : Float) : Session × EffectResult :=
  match action with
  | .playerHealth =>
    let amount := s.amountOf .player value
    let s := s.changePlayerPool amount
    (s, .playerHealth amount s.table.player.bloodPool)
  | .daimonHealth => s.hitDaimon (s.amountOf .daimon value)
  | .bloodWager =>
    let amount := s.amountOf .daimon value
    let s := s.changePot amount
    match s.table.hand? with
    | some hand => (s, .bloodWager amount hand.pot)
    | none => (s, .skipped)
  | .playerMaxHealth =>
    match s.table.round? with
    | some _ =>
      let s := s.scaleCeiling value
      (s, .playerMaxHealth value s.ceiling)
    | none => (s, .skipped)
  | .daimonMaxHealth =>
    let s := s.scaleDaimonMaximum value
    match s.table.round? with
    | some round => (s, .daimonMaxHealth value round.daimonMaximum)
    | none => (s, .skipped)
  | .damageDaimonWithDifference =>
    match s.table.round? with
    | some round =>
      s.hitDaimon (Amount.truncate (Float.ofInt (round.daimonMaximum - round.daimonPool) * value))
    | none => (s, .skipped)
  | .showCardCount => (s, .cardCount s.runningCount)
  | .showNextCardCount =>
    match s.nextCard? with
    | some card => (s, .nextCardCount (countTag card))
    | none => (s, .skipped)
  | .showNextCard =>
    match s.nextCard? with
    | some card => (s, .nextCard card)
    | none => (s, .skipped)
  | .nothing => (s, .skipped)

/-- Fires those of `actions` whose entries wait for `phase`, each with its record. -/
def fireActions (source : EffectSource) (bundle : Bundle) (phase : Phase) :
    List Action → Session → Session × List EffectLog
  | [], s => (s, [])
  | action :: actions, s =>
    match bundle.valueOn action phase with
    | none => fireActions source bundle phase actions s
    | some value =>
      let (s, result) := s.perform action value
      let log : EffectLog := ⟨source, phase, action, result⟩
      let (s, logs) := fireActions source bundle phase actions (s.emit (.effectApplied log))
      (s, log :: logs)

/-- Fires an effect; one of an unknown kind does nothing. -/
def fire (s : Session) (source : EffectSource) (effect : Effect) (phase : Phase) :
    Session × List EffectLog :=
  fireActions source effect.bundle phase (Effect.actionsOf effect.kindId) s

def fireSlot (s : Session) (catalog : Catalog) (token : TokenId) (slotType : SlotType)
    (phase : Phase) : Session × List EffectLog :=
  match catalog.token? token with
  | some entry => s.fire (.token token) (entry.effectFor slotType) phase
  | none => (s, [])

def fireToken (s : Session) (catalog : Catalog) (phase : Phase) : Session × List EffectLog :=
  match s.table.player.inscribedToken? with
  | some token => s.fireSlot catalog token .inscribed phase
  | none => (s, [])

def fireDaimon (s : Session) (catalog : Catalog) (phase : Phase) : Session × List EffectLog :=
  match s.table.round?.bind fun round => catalog.daimon? round.daimon with
  | some daimon => s.fire (.daimon daimon.id) daimon.effect phase
  | none => (s, [])

/-- Fires cards in order; a number that is on no card is passed over. -/
def fireCards (phase : Phase) : List CardId → Session → Session × List EffectLog
  | [], s => (s, [])
  | card :: cards, s =>
    match Face.ofId? card with
    | none => fireCards phase cards s
    | some face =>
      let (s, logs) := s.fire (.card card) face.effect phase
      let (s, more) := fireCards phase cards s
      (s, logs ++ more)

/-- Fires the whole table: token, daimon, then the player's cards. -/
def fireTable (s : Session) (catalog : Catalog) (phase : Phase) : Session × List EffectLog :=
  let (s, ofToken) := s.fireToken catalog phase
  let (s, ofDaimon) := s.fireDaimon catalog phase
  let (s, ofCards) := fireCards phase ((s.table.hand?.map Hand.playerCards).getD []) s
  (s, ofToken ++ ofDaimon ++ ofCards)

end Session

end BloodStakes
