import BloodStakes.Proofs.Updating

/-!
Nothing changes unnoticed. A part of the table that is not marked as touched is as it was
loaded, so what a granted request stores is the table it reports.
-/
namespace BloodStakes

theorem Change.apply_ofTouched {α : Type} (touched : Bool) (value? stored? : Option α)
    (h : touched = false → value? = stored?) :
    (Change.ofTouched touched value?).apply stored? = value? := by
  unfold Change.ofTouched
  cases touched with
  | false => exact (h rfl).symm
  | true => cases value? <;> rfl

theorem Change.eq_keep_of_isKeep {α : Type} {change : Change α} (h : change.isKeep = true) :
    change = .keep := by
  cases change with
  | keep => rfl
  | put value => cases h
  | remove => cases h

theorem Changeset.eq_of_isEmpty {changes : Changeset} (h : changes.isEmpty = true) :
    changes = {} := by
  obtain ⟨player?, game, round, hand⟩ := changes
  simp only [isEmpty, Bool.and_eq_true, Option.isNone_iff_eq_none, and_assoc] at h
  obtain ⟨rfl, hgame, hround, hhand⟩ := h
  rw [Change.eq_keep_of_isKeep hgame, Change.eq_keep_of_isKeep hround,
    Change.eq_keep_of_isKeep hhand]

namespace Session

/-- Every part that is not marked as touched is as it was loaded. -/
structure Tracks (loaded : Table) (s : Session) : Prop where
  player : s.touched.player = false → s.table.player = loaded.player
  game : s.touched.game = false → s.table.game? = loaded.game?
  round : s.touched.round = false → s.table.round? = loaded.round?
  hand : s.touched.hand = false → s.table.hand? = loaded.hand?

variable {loaded : Table} {s s' : Session}

namespace Tracks

theorem emit (h : s.Tracks loaded) (event : Event) : (s.emit event).Tracks loaded :=
  ⟨h.player, h.game, h.round, h.hand⟩

theorem putPlayer (h : s.Tracks loaded) (player : Player) : (s.putPlayer player).Tracks loaded where
  player := nofun
  game := h.game
  round := h.round
  hand := h.hand

theorem putGame (h : s.Tracks loaded) (game : Game) : (s.putGame game).Tracks loaded where
  player := h.player
  game := nofun
  round := h.round
  hand := h.hand

theorem putRound (h : s.Tracks loaded) (round : Round) : (s.putRound round).Tracks loaded where
  player := h.player
  game := h.game
  round := nofun
  hand := h.hand

theorem putHand (h : s.Tracks loaded) (hand : Hand) : (s.putHand hand).Tracks loaded where
  player := h.player
  game := h.game
  round := h.round
  hand := nofun

theorem closeHand (h : s.Tracks loaded) (hand : Hand) (status : HandStatus) :
    (s.closeHand hand status).Tracks loaded where
  player := h.player
  game := nofun
  round := nofun
  hand := nofun

theorem endRound (h : s.Tracks loaded) (round : Round) (status : RoundStatus) :
    (s.endRound round status).Tracks loaded := by
  have hended := (h.putRound { round with status }).emit (.roundEnded round.number status)
  have hfinished : ((s.putRound { round with status }).emit
      (.roundEnded round.number status)).finishTutorial.Tracks loaded := by
    unfold finishTutorial
    split
    · exact hended
    · exact hended.putPlayer _
  unfold Session.endRound
  dsimp only
  split
  · unfold loseGame
    split
    · exact (hfinished.putGame _).emit _
    · exact hfinished
  · exact hfinished

theorem settleRound (h : s.Tracks loaded) : s.settleRound.Tracks loaded := by
  obtain hsame | ⟨round, status, -, -, -, hended⟩ := s.settleRound_cases
  · rw [hsame]
    exact h
  · rw [hended]
    exact h.endRound round status

theorem scaleCeiling (h : s.Tracks loaded) (multiplier : Float) :
    (s.scaleCeiling multiplier).Tracks loaded := by
  have hceiling (ceiling : Int) : (s.putCeiling ceiling).Tracks loaded := by
    unfold putCeiling
    split
    · exact h.putRound _
    · exact h.putPlayer _
  exact ((hceiling _).putPlayer _).settleRound

end Tracks

theorem BloodStep.tracks (h : BloodStep s s') (ht : s.Tracks loaded) : s'.Tracks loaded := by
  cases h with
  | record log => exact ht.emit _
  | playerPool delta => exact (ht.putPlayer _).settleRound
  | daimonPool delta =>
    unfold changeDaimonPool
    split
    · exact ht
    · exact (ht.putRound _).settleRound
  | ceiling multiplier round hround => exact ht.scaleCeiling multiplier
  | daimonMaximum multiplier =>
    unfold scaleDaimonMaximum
    split
    · exact ht
    · exact (ht.putRound _).settleRound
  | pot delta =>
    unfold changePot
    split
    · exact ht
    · exact ht.putHand _

theorem Deed.tracks {house : House} (h : Deed house s s') (ht : s.Tracks loaded) :
    s'.Tracks loaded := by
  cases h with
  | blood h => exact h.tracks ht
  | settle => exact ht.settleRound
  | maximum multiplier hround => exact ht.scaleCeiling multiplier
  | announce event h => exact ht.emit event
  | chance rng => exact ⟨ht.player, ht.game, ht.round, ht.hand⟩
  | fillShoe hround shoe => exact (ht.putRound _).emit _
  | takeCard hround hshoe => exact ht.putRound _
  | receive hhand side cards => exact ht.putHand _
  | openHand hround hopen hidle stake => exact (ht.putRound _).putHand _
  | closeHand hhand status playerTotal daimonTotal => exact (ht.closeHand _ status).emit _
  | equipToken hplayer => exact ht.putPlayer _
  | assignDeck hplayer => exact ht.putPlayer _
  | claimReward hround hwon hclaim => exact ht.putRound _
  | grantToken token => exact (ht.putPlayer _).emit _

theorem Update.tracks {house : House} (h : Update house s s') (ht : s.Tracks loaded) :
    s'.Tracks loaded := by
  cases h with
  | deed h => exact h.tracks ht
  | openGame hidle => exact ⟨nofun, nofun, nofun, nofun⟩
  | openRound hidle hgame hopen hdaimon => exact ⟨nofun, nofun, nofun, nofun⟩

theorem Updates.tracks {house : House} (h : s.Updates house s') (ht : s.Tracks loaded) :
    s'.Tracks loaded := by
  induction h with
  | refl => exact ht
  | tail _ step ih => exact step.tracks ih

/-- What has been touched, written over what was loaded, makes the table of the session. -/
theorem Tracks.apply_changes (h : s.Tracks loaded) : s.changes.apply loaded = s.table := by
  have hplayer : s.changes.player?.getD loaded.player = s.table.player := by
    unfold changes
    cases htouched : s.touched.player with
    | false => exact (h.player htouched).symm
    | true => rfl
  unfold Changeset.apply
  rw [hplayer]
  unfold changes
  rw [Change.apply_ofTouched _ _ _ h.game, Change.apply_ofTouched _ _ _ h.round,
    Change.apply_ofTouched _ _ _ h.hand]

theorem Tracks.of_isEmpty (h : s.Tracks loaded) (hempty : s.changes.isEmpty = true) :
    s.table = loaded := by
  rw [← h.apply_changes, Changeset.eq_of_isEmpty hempty]
  rfl

theorem tracks_opened (table : Table) (rng : Rng) : ({ table, rng } : Session).Tracks table :=
  ⟨fun _ => rfl, fun _ => rfl, fun _ => rfl, fun _ => rfl⟩

theorem Tracks.of_run {α : Type} {house : House} {p : Play α} {a : α} (h : s.Tracks loaded)
    (hp : p.Leads (Update house) s) (hrun : p.run s = .ok a s') : s'.Tracks loaded := by
  rw [← Play.after_eq_of_ok hrun]
  exact Updates.tracks hp.steps h

end Session

end BloodStakes
