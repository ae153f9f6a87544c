import BloodStakes.Proofs.Standing

/-!
Both sides alive. Every change of a pool or a maximum is followed by a look at both pools, so
as long as a round goes on there is blood in both.
-/
namespace BloodStakes

/-- While the round goes on, either side has blood and may hold some. -/
structure Table.Alive (t : Table) : Prop where
  player : ∀ round, t.round? = some round → round.isInProgress = true →
    0 < t.player.bloodPool ∧ 0 < round.ceiling
  daimon : ∀ round, t.round? = some round → round.isInProgress = true →
    0 < round.daimonPool ∧ 0 < round.daimonMaximum

/-- What decides over life: the status of the round, the pools and what they may hold. -/
def Round.vitals (round : Round) : RoundStatus × Int × Int × Int :=
  (round.status, round.daimonPool, round.daimonMaximum, round.ceiling)

def Table.vitals (t : Table) : Int × Option (RoundStatus × Int × Int × Int) :=
  (t.player.bloodPool, t.round?.map Round.vitals)

theorem Table.vitals_eq {t u : Table} (h : u.vitals = t.vitals) :
    u.player.bloodPool = t.player.bloodPool ∧ ∀ round, u.round? = some round →
      ∃ before, t.round? = some before ∧ before.status = round.status ∧
        before.daimonPool = round.daimonPool ∧ before.daimonMaximum = round.daimonMaximum ∧
        before.ceiling = round.ceiling := by
  obtain ⟨hpool, hround⟩ := Prod.ext_iff.mp h
  refine ⟨hpool, fun round hu => ?_⟩
  simp only [vitals, hu, Option.map_some] at hround
  obtain ⟨before, hbefore, hvitals⟩ := Option.map_eq_some_iff.mp hround.symm
  simp only [Round.vitals, Prod.mk.injEq] at hvitals
  exact ⟨before, hbefore, hvitals⟩

theorem Table.Alive.of_vitals {t u : Table} (h : t.Alive) (hvitals : u.vitals = t.vitals) :
    u.Alive := by
  obtain ⟨hpool, hround⟩ := vitals_eq hvitals
  refine ⟨fun round hu hopen => ?_, fun round hu hopen => ?_⟩
  · obtain ⟨before, hbefore, hstatus, -, -, hceiling⟩ := hround round hu
    rw [hpool, ← hceiling]
    exact h.player before hbefore (by rwa [Round.isInProgress, hstatus])
  · obtain ⟨before, hbefore, hstatus, hdaimon, hmaximum, -⟩ := hround round hu
    rw [← hdaimon, ← hmaximum]
    exact h.daimon before hbefore (by rwa [Round.isInProgress, hstatus])

theorem Table.Alive.of_idle {s : Session} (h : s.roundInProgress = false) : s.table.Alive := by
  have hidle (round : Round) (hround : s.table.round? = some round) :
      ¬ round.isInProgress = true := by
    intro hopen
    rw [s.roundInProgress_iff.mpr ⟨round, hround, hopen⟩] at h
    cases h
  exact ⟨fun round hround hopen => absurd hopen (hidle round hround),
    fun round hround hopen => absurd hopen (hidle round hround)⟩

namespace Session

variable {s s' : Session}

theorem pos_of_clampedSum_pos {pool delta maximum : Int} (h : 0 < clampedSum pool delta maximum) :
    0 < maximum := by
  unfold clampedSum at h
  omega

theorem ceiling_of_round (s : Session) {round : Round} (hround : s.table.round? = some round) :
    s.ceiling = round.ceiling := by
  unfold ceiling
  rw [hround]

theorem settleRound_of_going {round : Round} (hround : s.settleRound.table.round? = some round)
    (hopen : round.isInProgress = true) :
    s.settleRound = s ∧ 0 < s.table.player.bloodPool ∧ 0 < round.daimonPool := by
  unfold settleRound at hround ⊢
  split at hround
  · next hnone => cases hnone.symm.trans hround
  · next before hbefore =>
    split at hround
    · next hover =>
      cases hbefore.symm.trans hround
      simp [Round.isTerminal, hopen] at hover
    · next hgoing =>
      rw [if_neg hgoing]
      split at hround
      · rw [endRound_table] at hround
        cases hround
        cases hopen
      · next hplayer =>
        rw [if_neg hplayer]
        split at hround
        · rw [endRound_table] at hround
          cases hround
          cases hopen
        · next hdaimon =>
          cases hbefore.symm.trans hround
          rw [if_neg hdaimon]
          exact ⟨rfl, by omega, by omega⟩

theorem settleRound_alive
    (hplayer : ∀ round, s.table.round? = some round → round.isInProgress = true →
      0 < s.table.player.bloodPool → 0 < round.ceiling)
    (hdaimon : ∀ round, s.table.round? = some round → round.isInProgress = true →
      0 < round.daimonPool → 0 < round.daimonMaximum) : s.settleRound.table.Alive := by
  refine ⟨fun round hround hopen => ?_, fun round hround hopen => ?_⟩
  · obtain ⟨hsame, hpool, -⟩ := settleRound_of_going hround hopen
    rw [hsame] at hround ⊢
    exact ⟨hpool, hplayer round hround hopen hpool⟩
  · obtain ⟨hsame, -, hpool⟩ := settleRound_of_going hround hopen
    rw [hsame] at hround
    exact ⟨hpool, hdaimon round hround hopen hpool⟩

theorem changePlayerPool_alive {delta : Int}
    (hdaimon : ∀ round, s.table.round? = some round → round.isInProgress = true →
      0 < round.daimonPool → 0 < round.daimonMaximum) : (s.changePlayerPool delta).table.Alive := by
  refine settleRound_alive (fun round hround _ hpool => ?_) hdaimon
  have hceiling : s.ceiling = round.ceiling := s.ceiling_of_round hround
  exact hceiling ▸ pos_of_clampedSum_pos hpool

theorem payStakes_alive (s : Session) (stake : Int) : (s.payStakes stake).table.Alive := by
  apply changePlayerPool_alive
  intro round hround hopen hpool
  unfold changeDaimonPool at hround
  split at hround
  · next hnone => cases hnone.symm.trans hround
  · obtain ⟨hsame, -, -⟩ := settleRound_of_going hround hopen
    rw [hsame] at hround
    cases hround
    exact pos_of_clampedSum_pos hpool

theorem BloodStep.alive (h : BloodStep s s') (hs : s.table.Alive) : s'.table.Alive := by
  cases h with
  | record log => exact hs
  | playerPool delta =>
    exact changePlayerPool_alive fun round hround hopen _ => (hs.daimon round hround hopen).2
  | daimonPool delta =>
    unfold changeDaimonPool
    split
    · exact hs
    · next before hbefore =>
      apply settleRound_alive
      · rintro _ ⟨⟩ hopen _
        exact (hs.player before hbefore hopen).2
      · rintro _ ⟨⟩ hopen hpool
        exact pos_of_clampedSum_pos hpool
  | ceiling multiplier before hbefore =>
    simp only [scaleCeiling, putCeiling, hbefore]
    apply settleRound_alive
    · rintro _ ⟨⟩ hopen hpool
      simp only [putPlayer_table, putRound_table] at hpool
      dsimp only
      omega
    · rintro _ ⟨⟩ hopen _
      exact (hs.daimon before hbefore hopen).2
  | daimonMaximum multiplier =>
    unfold scaleDaimonMaximum
    split
    · exact hs
    · next before hbefore =>
      apply settleRound_alive
      · rintro _ ⟨⟩ hopen _
        exact (hs.player before hbefore hopen).2
      · rintro _ ⟨⟩ hopen hpool
        dsimp only at hpool ⊢
        omega
  | pot delta =>
    unfold changePot
    split
    · exact hs
    · exact ⟨hs.player, hs.daimon⟩

theorem Bleeds.alive (h : s.Bleeds s') (hs : s.table.Alive) : s'.table.Alive := by
  induction h with
  | refl => exact hs
  | tail _ step ih => exact step.alive ih

theorem Draws.vitals {cards : List CardId} (h : s.Draws cards s') :
    s'.table.vitals = s.table.vitals := by
  induction h with
  | done s => rfl
  | refill rng hround hempty hshoe _ ih =>
    rw [ih]
    simp [Table.vitals, Round.vitals, hround]
  | take hround hshoe _ ih =>
    rw [ih]
    simp [Table.vitals, Round.vitals, hround]

theorem Deals.vitals {side : Side} {count : Nat} {cards : List CardId}
    (h : s.Deals side count cards s') : s'.table.vitals = s.table.vitals := by
  cases h with
  | intro hhand hdraws hcount hshort => exact hdraws.vitals

theorem Closes.vitals {status : HandStatus} (h : s.Closes status s') :
    s'.table.vitals = s.table.vitals := by
  cases h with
  | intro hhand hplayer hdaimon =>
    simp only [Table.vitals, emit_table, closeHand, Option.map_map]
    rfl

theorem HandStep.alive (h : s.HandStep s') (hs : s.table.Alive) : s'.table.Alive := by
  cases h with
  | flow h => exact h.bleeds.alive hs
  | dealt => exact hs
  | drawn => exact hs
  | deal hround hhand hcount h => exact hs.of_vitals h.vitals

theorem PlaysOn.alive (h : s.PlaysOn s') (hs : s.table.Alive) : s'.table.Alive := by
  induction h with
  | refl => exact hs
  | tail _ step ih => exact step.alive ih

end Session

theorem Enters.vitals {house : House} {s t : Session} {request : Request}
    (h : Enters house s request t) : t.table.vitals = s.table.vitals := by
  cases h with
  | startHand hround hopen hidle hstake =>
    simp [Table.vitals, Round.vitals, Session.openHand, hround]
  | move hmove hround hhand => rfl
  | equipToken hplayer hround hhand =>
    obtain ⟨loadout, rfl⟩ := Player.equipToken_eq_ok hplayer
    rfl

end BloodStakes
