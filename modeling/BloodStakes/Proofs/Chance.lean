import BloodStakes.Proofs.Success

/-!
Chance. Only shuffles and the choice of a daimon look at the source of chance; every other play
does the same whatever the source is, and hands it on as it was.
-/
namespace BloodStakes

namespace Session

/-- The session with another source of chance. -/
def reseed (s : Session) (rng : Rng) : Session := { s with rng }

variable (s : Session) (rng : Rng)

@[simp] theorem reseed_table : (s.reseed rng).table = s.table := rfl

@[simp] theorem ite_reseed (condition : Prop) [Decidable condition] (t : Session) :
    (if condition then s else t).reseed rng =
      if condition then s.reseed rng else t.reseed rng :=
  apply_ite (fun t => t.reseed rng) condition s t

@[simp] theorem ceiling_reseed : (s.reseed rng).ceiling = s.ceiling := rfl

@[simp] theorem emit_reseed (event : Event) :
    (s.reseed rng).emit event = (s.emit event).reseed rng := rfl

@[simp] theorem putPlayer_reseed (player : Player) :
    (s.reseed rng).putPlayer player = (s.putPlayer player).reseed rng := rfl

@[simp] theorem putGame_reseed (game : Game) :
    (s.reseed rng).putGame game = (s.putGame game).reseed rng := rfl

@[simp] theorem putRound_reseed (round : Round) :
    (s.reseed rng).putRound round = (s.putRound round).reseed rng := rfl

@[simp] theorem putHand_reseed (hand : Hand) :
    (s.reseed rng).putHand hand = (s.putHand hand).reseed rng := rfl

@[simp] theorem finishTutorial_reseed :
    (s.reseed rng).finishTutorial = s.finishTutorial.reseed rng := by
  simp only [finishTutorial, reseed_table, putPlayer_reseed, ite_reseed]
  rfl

@[simp] theorem loseGame_reseed : (s.reseed rng).loseGame = s.loseGame.reseed rng := by
  simp only [loseGame, reseed_table, putGame_reseed, emit_reseed]
  cases s.table.game? <;> rfl

@[simp] theorem endRound_reseed (round : Round) (status : RoundStatus) :
    (s.reseed rng).endRound round status = (s.endRound round status).reseed rng := by
  simp only [endRound, putRound_reseed, emit_reseed, finishTutorial_reseed, loseGame_reseed,
    ite_reseed]

@[simp] theorem settleRound_reseed : (s.reseed rng).settleRound = s.settleRound.reseed rng := by
  simp only [settleRound, reseed_table, endRound_reseed]
  cases s.table.round? with
  | none => rfl
  | some round => simp only [ite_reseed]

@[simp] theorem changePlayerPool_reseed (delta : Int) :
    (s.reseed rng).changePlayerPool delta = (s.changePlayerPool delta).reseed rng := by
  simp only [changePlayerPool, ceiling_reseed, reseed_table, putPlayer_reseed, settleRound_reseed]

@[simp] theorem changeDaimonPool_reseed (delta : Int) :
    (s.reseed rng).changeDaimonPool delta = (s.changeDaimonPool delta).reseed rng := by
  simp only [changeDaimonPool, reseed_table, putRound_reseed, settleRound_reseed]
  cases s.table.round? <;> rfl

@[simp] theorem putCeiling_reseed (ceiling : Int) :
    (s.reseed rng).putCeiling ceiling = (s.putCeiling ceiling).reseed rng := by
  simp only [putCeiling, reseed_table, putRound_reseed, putPlayer_reseed]
  cases s.table.round? <;> rfl

@[simp] theorem scaleCeiling_reseed (multiplier : Float) :
    (s.reseed rng).scaleCeiling multiplier = (s.scaleCeiling multiplier).reseed rng := by
  simp only [scaleCeiling, ceiling_reseed, putCeiling_reseed, reseed_table, putPlayer_reseed,
    settleRound_reseed]

@[simp] theorem scaleDaimonMaximum_reseed (multiplier : Float) :
    (s.reseed rng).scaleDaimonMaximum multiplier =
      (s.scaleDaimonMaximum multiplier).reseed rng := by
  simp only [scaleDaimonMaximum, reseed_table, putRound_reseed, settleRound_reseed]
  cases s.table.round? <;> rfl

@[simp] theorem changePot_reseed (delta : Int) :
    (s.reseed rng).changePot delta = (s.changePot delta).reseed rng := by
  simp only [changePot, reseed_table, putHand_reseed]
  cases s.table.hand? <;> rfl

theorem hitDaimon_reseed (amount : Int) : (s.reseed rng).hitDaimon amount =
    ((s.hitDaimon amount).1.reseed rng, (s.hitDaimon amount).2) := by
  simp only [hitDaimon, changeDaimonPool_reseed, reseed_table]
  cases (s.changeDaimonPool amount).table.round? <;> rfl

private theorem perform_reseed (action : Action) (value : Float) :
    (s.reseed rng).perform action value =
    ((s.perform action value).1.reseed rng, (s.perform action value).2) := by
  have hamount (side : Side) : (s.reseed rng).amountOf side value = s.amountOf side value := rfl
  cases action with
  | playerHealth => simp only [perform, hamount, changePlayerPool_reseed, reseed_table]
  | daimonHealth => simp only [perform, hamount, hitDaimon_reseed]
  | bloodWager =>
    simp only [perform, hamount, changePot_reseed, reseed_table]
    split <;> rfl
  | playerMaxHealth =>
    simp only [perform, reseed_table, scaleCeiling_reseed]
    split <;> rfl
  | daimonMaxHealth =>
    simp only [perform, reseed_table, scaleDaimonMaximum_reseed]
    split <;> rfl
  | damageDaimonWithDifference =>
    simp only [perform, reseed_table, hitDaimon_reseed]
    split <;> rfl
  | showCardCount => rfl
  | showNextCardCount =>
    have hnext : (s.reseed rng).nextCard? = s.nextCard? := rfl
    simp only [perform, hnext]
    split <;> rfl
  | showNextCard =>
    have hnext : (s.reseed rng).nextCard? = s.nextCard? := rfl
    simp only [perform, hnext]
    split <;> rfl
  | nothing => rfl

private theorem fireActions_reseed (source : EffectSource) (bundle : Bundle) (phase : Phase)
    (actions : List Action) : fireActions source bundle phase actions (s.reseed rng) =
      ((fireActions source bundle phase actions s).1.reseed rng,
        (fireActions source bundle phase actions s).2) := by
  induction actions generalizing s with
  | nil => rfl
  | cons action actions ih =>
    simp only [fireActions]
    split
    · exact ih s
    · simp only [perform_reseed, emit_reseed, ih]

theorem fire_reseed (source : EffectSource) (effect : Effect) (phase : Phase) :
    (s.reseed rng).fire source effect phase =
      ((s.fire source effect phase).1.reseed rng, (s.fire source effect phase).2) :=
  s.fireActions_reseed rng source effect.bundle phase _

theorem fireSlot_reseed (catalog : Catalog) (token : TokenId) (slotType : SlotType)
    (phase : Phase) : (s.reseed rng).fireSlot catalog token slotType phase =
      ((s.fireSlot catalog token slotType phase).1.reseed rng,
        (s.fireSlot catalog token slotType phase).2) := by
  simp only [fireSlot, fire_reseed]
  split <;> rfl

private theorem fireCards_reseed (phase : Phase) (cards : List CardId) :
    fireCards phase cards (s.reseed rng) =
      ((fireCards phase cards s).1.reseed rng, (fireCards phase cards s).2) := by
  induction cards generalizing s with
  | nil => rfl
  | cons card cards ih =>
    simp only [fireCards]
    split
    · exact ih s
    · simp only [fire_reseed, ih]

private theorem fireTable_reseed (catalog : Catalog) (phase : Phase) :
    (s.reseed rng).fireTable catalog phase =
      ((s.fireTable catalog phase).1.reseed rng, (s.fireTable catalog phase).2) := by
  have htoken (t : Session) : (t.reseed rng).fireToken catalog phase =
      ((t.fireToken catalog phase).1.reseed rng, (t.fireToken catalog phase).2) := by
    simp only [fireToken, reseed_table, fireSlot_reseed]
    split <;> rfl
  have hdaimon (t : Session) : (t.reseed rng).fireDaimon catalog phase =
      ((t.fireDaimon catalog phase).1.reseed rng, (t.fireDaimon catalog phase).2) := by
    simp only [fireDaimon, reseed_table, fire_reseed]
    split <;> rfl
  simp only [fireTable, htoken, hdaimon, reseed_table, fireCards_reseed]

end Session

namespace Play

/-- What a play came to, with another source of chance handed on. -/
def reseed {α : Type} (rng : Rng) :
    EStateM.Result PlayError Session α → EStateM.Result PlayError Session α
  | .ok a s => .ok a (s.reseed rng)
  | .error e s => .error e (s.reseed rng)

/-- The play does the same with any source of chance. -/
def Chanceless {α : Type} (p : Play α) : Prop :=
  ∀ s rng, p.run (s.reseed rng) = reseed rng (p.run s)

variable {α β : Type} {p : Play α}

theorem chanceless_pure (a : α) : Chanceless (pure a) := fun _ _ => rfl

theorem chanceless_throw (e : PlayError) : Chanceless (throw e : Play α) := fun _ _ => rfl

theorem chanceless_modify {f : Session → Session}
    (h : ∀ s rng, f (s.reseed rng) = (f s).reseed rng) : Chanceless (modify f) := by
  intro s rng
  rw [run_modify, run_modify, h]
  rfl

private theorem chanceless_ofStep {step : Session → Session × α}
    (h : ∀ s rng, step (s.reseed rng) = ((step s).1.reseed rng, (step s).2)) :
    Chanceless (ofStep step) := by
  intro s rng
  have hrun (s : Session) : (ofStep step).run s = .ok (step s).2 (step s).1 := rfl
  rw [hrun, hrun, h]
  rfl

theorem chanceless_refuseIf (condition : Bool) (e : PlayError) :
    Chanceless (refuseIf condition e) := by
  cases condition with
  | false => exact chanceless_pure ()
  | true => exact chanceless_throw e

theorem chanceless_ofExcept {ε : Type} (toError : ε → PlayError) (result : Except ε α) :
    Chanceless (ofExcept toError result) := by
  cases result with
  | ok a => exact chanceless_pure a
  | error e => exact chanceless_throw (toError e)

theorem Chanceless.bind {f : α → Play β} (hp : Chanceless p) (hf : ∀ a, Chanceless (f a)) :
    Chanceless (p >>= f) := by
  intro s rng
  rw [run_bind, run_bind, hp s rng]
  cases p.run s with
  | ok a s => exact hf a s rng
  | error e s => rfl

theorem Chanceless.get_bind {f : Session → Play β}
    (hread : ∀ s rng, f (s.reseed rng) = f s) (hf : ∀ s, Chanceless (f s)) :
    Chanceless (get >>= f) := by
  intro s rng
  rw [run_bind, run_bind, run_get, run_get]
  simp only
  rw [hread]
  exact hf s s rng

private theorem chanceless_round : Chanceless round := by
  refine .get_bind (fun _ _ => rfl) fun s => ?_
  split
  · exact chanceless_pure _
  · exact chanceless_throw _

theorem chanceless_hand : Chanceless hand := by
  refine .get_bind (fun _ _ => rfl) fun s => ?_
  split
  · exact chanceless_pure _
  · exact chanceless_throw _

theorem chanceless_ranks (cards : List CardId) : Chanceless (ranks cards) :=
  chanceless_ofExcept _ _

theorem finishHand_chanceless (status : HandStatus) : Chanceless (finishHand status) := by
  refine chanceless_hand.bind fun current => (chanceless_ranks _).bind fun player => ?_
  refine (chanceless_ranks _).bind fun daimon => ?_
  exact (chanceless_modify fun s rng => rfl).bind fun _ => chanceless_pure _

theorem closeByRound_chanceless : Chanceless closeByRound :=
  .get_bind (fun _ _ => rfl) fun _ => finishHand_chanceless _

private theorem unlessOver_chanceless {next : Play HandStatus} (h : Chanceless next) :
    Chanceless (unlessOver next) := by
  refine .get_bind (fun _ _ => rfl) fun s => ?_
  split
  · exact closeByRound_chanceless
  · exact h

private theorem startGame_chanceless : Chanceless startGame := by
  refine .get_bind (fun _ _ => rfl) fun s => ?_
  exact (chanceless_refuseIf _ _).bind fun _ => chanceless_modify fun _ _ => rfl

private theorem surrender_chanceless (house : House) : Chanceless (surrender house) := by
  refine .bind (.get_bind (fun _ _ => rfl) fun s => ?_) fun _ => ?_
  · exact (chanceless_refuseIf _ _).bind fun _ => chanceless_refuseIf _ _
  · refine (chanceless_modify fun s rng => ?_).bind fun _ => unlessOver_chanceless ?_
    · rw [Session.fireTable_reseed]
    · refine chanceless_hand.bind fun current => ?_
      refine (chanceless_modify fun s rng => ?_).bind fun _ => ?_
      · rw [Session.changePlayerPool_reseed, Session.changeDaimonPool_reseed]
      · exact finishHand_chanceless _

private theorem doubleDown_chanceless : Chanceless doubleDown :=
  .get_bind (fun _ _ => rfl) fun _ => (chanceless_refuseIf _ _).bind fun _ => chanceless_throw _

private theorem equipToken_chanceless (house : House) (slot : SlotId) (token : TokenId) :
    Chanceless (equipToken house slot token) := by
  refine (chanceless_refuseIf _ _).bind fun _ => .get_bind (fun _ _ => rfl) fun s => ?_
  dsimp only
  split
  · exact chanceless_throw _
  · next place _ =>
    refine (chanceless_ofExcept _ _).bind fun player => ?_
    refine (chanceless_modify fun _ _ => rfl).bind fun _ => .get_bind (fun _ _ => rfl) fun s => ?_
    split
    · refine .bind (chanceless_ofStep fun s rng => ?_) fun logs => ?_
      · exact s.fireSlot_reseed rng house.catalog token place.slotType .onEquip
      · refine .get_bind (fun _ _ => rfl) fun s => ?_
        split
        · exact closeByRound_chanceless.bind fun _ => chanceless_pure _
        · exact chanceless_pure _
    · exact chanceless_pure _

private theorem assignDeck_chanceless (rules : Rules) (cards : List CardId) :
    Chanceless (assignDeck rules cards) := by
  refine (chanceless_ranks _).bind fun _ => .get_bind (fun _ _ => rfl) fun s => ?_
  exact (chanceless_ofExcept _ _).bind fun _ => chanceless_modify fun _ _ => rfl

private theorem claimStoryToken_chanceless (catalog : Catalog) : Chanceless
    (claimStoryToken catalog) := by
  refine chanceless_round.bind fun current => (chanceless_refuseIf _ _).bind fun _ => ?_
  refine (chanceless_refuseIf _ _).bind fun _ => (chanceless_modify fun _ _ => rfl).bind fun _ => ?_
  refine .get_bind (fun _ _ => rfl) fun s => ?_
  split
  · exact chanceless_pure _
  · exact (chanceless_modify fun _ _ => rfl).bind fun _ => chanceless_pure _

end Play

/-- Whether a request may look at the source of chance: a daimon is chosen, or cards are drawn from
a shoe that may have to be refilled. -/
def Request.mayDraw : Request → Bool
  | .startRound | .startHand | .draw | .stand => true
  | _ => false

theorem Request.play_chanceless {request : Request} (h : request.mayDraw = false)
    (house : House) : Play.Chanceless (request.play house) := by
  cases request with
  | startGame => exact Play.startGame_chanceless.bind fun _ => Play.chanceless_pure _
  | startRound => cases h
  | startHand => cases h
  | draw => cases h
  | stand => cases h
  | surrender => exact (Play.surrender_chanceless house).bind fun _ => Play.chanceless_pure _
  | doubleDown => exact Play.doubleDown_chanceless.bind fun _ => Play.chanceless_pure _
  | equipToken slot token =>
    exact (Play.equipToken_chanceless house slot token).bind fun _ => Play.chanceless_pure _
  | assignDeck cards =>
    exact (Play.assignDeck_chanceless house.rules cards).bind fun _ => Play.chanceless_pure _
  | claimStoryToken =>
    exact (Play.claimStoryToken_chanceless house.catalog).bind fun _ => Play.chanceless_pure _

end BloodStakes
