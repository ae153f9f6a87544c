import BloodStakes.Proofs.Records
import BloodStakes.Proofs.Story
import BloodStakes.Proofs.Tutorial

/-!
Encounters. A round is played against the daimon that the story demands, once for every place in
the story that a game comes to, and else against any the story has unlocked. A game keeps its place
in 32 bits with a sign, so all this ends where the story is longer than that.
-/
namespace BloodStakes

namespace Catalog

variable {catalog : Catalog} {progression : Nat} {game game' : Game} {rng rng' : Rng}
  {daimon : Daimon}

/-- The game goes on against an unlocked daimon. If the story demands one, it is that one, and the
game comes as far as the story, as long as 32 bits with a sign can tell; else the game stays where
it is. -/
structure Faces (catalog : Catalog) (progression : Nat) (game : Game) (daimon : Daimon)
    (progress' : Int) : Prop where
  unlocked : daimon ∈ catalog.daimons ∧ daimon.storySequence ≤ progression
  story : ∀ first, catalog.storyDaimon? progression = some first →
    game.daimonProgress < progression →
      daimon = first ∧ (progress' = progression ↔ progression < 0x80000000)
  chance : ¬(game.daimonProgress < progression ∧
      ∃ daimon ∈ catalog.daimons, daimon.storySequence = progression) →
    progress' = game.daimonProgress

private theorem nextDaimon_faces
    (h : catalog.nextDaimon progression game rng = some (daimon, game', rng')) :
    catalog.Faces progression game daimon game'.daimonProgress := by
  obtain ⟨hdemanded, rfl⟩ | ⟨hnone, hchosen, rfl⟩ := nextDaimon_cases h
  · obtain ⟨hnew, hstory⟩ := demanded?_eq_some hdemanded
    obtain ⟨hmem, hplace⟩ := storyDaimon?_eq_some hstory
    refine ⟨⟨hmem, Nat.le_of_eq hplace⟩, fun first hfirst _ => ?_, fun hidle => ?_⟩
    · cases hstory.symm.trans hfirst
      dsimp only
      exact ⟨rfl, bmod_eq_iff progression⟩
    · exact absurd ⟨hnew, daimon, hmem, hplace⟩ hidle
  · refine ⟨pickDaimon_unlocked hchosen, fun first hfirst hnew => ?_, fun _ => rfl⟩
    rw [demanded?, if_pos hnew, hfirst] at hnone
    cases hnone

end Catalog

/-- How far the game on the table has come in the story. -/
def Table.progress? (t : Table) : Option Int := t.game?.map Game.daimonProgress

section
variable {house : House} {s s' t : Session} {operation : Operation}

theorem Session.progress?_of_bloodless (h : s'.table.bloodless = s.table.bloodless) :
    s'.table.progress? = s.table.progress? := by
  have hprogress := congrArg Table.progress? h
  simp only [Table.progress?, Table.bloodless, Option.map_map] at hprogress
  exact hprogress

theorem Session.Deed.progress? (h : s.Deed house s') : s'.table.progress? = s.table.progress? := by
  cases h with
  | blood h => exact progress?_of_bloodless h.bloodless.1
  | settle => exact progress?_of_bloodless s.settleRound_bloodless
  | maximum multiplier hround =>
    obtain ⟨t, hsettle, hsame⟩ : ∃ t : Session, s.scaleCeiling multiplier = t.settleRound ∧
        t.table.progress? = s.table.progress? := by
      unfold scaleCeiling putCeiling
      rw [hround]
      exact ⟨_, rfl, rfl⟩
    rw [hsettle, progress?_of_bloodless t.settleRound_bloodless, hsame]
  | closeHand hhand status playerTotal daimonTotal =>
    have hrecord (game : Game) : (game.record status).daimonProgress = game.daimonProgress := by
      unfold Game.record
      split <;> rfl
    simp [Table.progress?, Session.closeHand, Function.comp_def, hrecord]
  | _ => rfl

theorem Session.Deeds.progress? (h : s.Deeds house s') :
    s'.table.progress? = s.table.progress? := by
  induction h with
  | refl => rfl
  | tail _ step ih => exact step.progress?.trans ih

/-- Whether an operation puts a new game on the table. -/
def Operation.opensGame (s : Session) : Operation → Bool
  | ask .startGame => !s.table.game?.any Game.isInProgress
  | _ => false

/-- How far the player has come, if the operation opens a round against the daimon that the story
demands. -/
def Operation.forced? (house : House) (s : Session) : Operation → Option Nat
  | ask .startRound =>
    if (s.nextRound? house).isSome then
      (s.table.game?.bind (house.catalog.demanded? s.table.player.storyProgression)).map
        fun _ => s.table.player.storyProgression
    else none
  | _ => none

theorem Operation.forced?_eq_some {place : Nat} (h : operation.forced? house s = some place) :
    place = s.table.player.storyProgression ∧
      ∃ game, s.table.game? = some game ∧ game.daimonProgress < place := by
  unfold forced? at h
  split at h
  · split at h
    · obtain ⟨daimon, hdaimon, rfl⟩ := Option.map_eq_some_iff.mp h
      obtain ⟨game, hgame, hdemanded⟩ := Option.bind_eq_some_iff.mp hdaimon
      exact ⟨rfl, game, hgame, (Catalog.demanded?_eq_some hdemanded).1⟩
    · cases h
  · cases h

theorem Session.nextRound?_progress? (h : s.nextRound? house = some t) :
    t.table.progress? =
      match Operation.forced? house s (.ask .startRound) with
      | some place => some ((place : Int).bmod UInt32.size)
      | none => s.table.progress? := by
  have hopen : (s.nextRound? house).isSome = true := by rw [h]; rfl
  obtain ⟨game, daimon, game', rng, -, hgame, -, hdaimon, rfl⟩ := nextRound?_eq_some h
  simp only [Operation.forced?, hopen, if_true, hgame, Option.bind_some, Table.progress?]
  rw [Catalog.nextDaimon_eq] at hdaimon
  cases hdemanded : house.catalog.demanded? s.table.player.storyProgression game with
  | some first =>
    simp only [hdemanded, Option.some.injEq, Prod.mk.injEq] at hdaimon
    obtain ⟨-, rfl, -⟩ := hdaimon
    simp [openRound]
  | none =>
    simp only [hdemanded, Option.map_eq_some_iff, Prod.mk.injEq] at hdaimon
    obtain ⟨chosen, -, -, rfl, -⟩ := hdaimon
    rfl

theorem Operation.after_progress? (hsame : operation.opensGame s = false) :
    ((operation.play house).after s).table.progress? =
      match operation.forced? house s with
      | some place => some ((place : Int).bmod UInt32.size)
      | none => s.table.progress? := by
  cases hopening : operation.isOpening with
  | false =>
    have hnone : operation.forced? house s = none := by
      cases operation with
      | ask request => cases request <;> first | rfl | cases hopening
      | _ => rfl
    rw [hnone]
    exact Session.Deeds.progress? (play_leads_deeds hopening s).steps
  | true =>
    cases operation with
    | ask request =>
      simp only [play, Play.after_bind_pure]
      cases request with
      | startGame =>
        have hgame : s.table.game?.any Game.isInProgress = true := by
          simpa [opensGame] using hsame
        simp only [Request.play, Play.after_bind_pure, Play.startGame_after, hgame]
        rfl
      | startRound =>
        simp only [Request.play, Play.after_bind_pure]
        obtain ⟨hnone, hafter⟩ | ⟨t, hopen, hdeeds⟩ := Play.startRound_after house s
        · rw [hafter]
          simp [forced?, hnone]
        · rw [hdeeds.progress?, Session.nextRound?_progress? hopen]
      | _ => cases hopening
    | _ => cases hopening

end

/-- A game goes on: operations on its table, each in a session of its own, of which none opens a
new game. `places` are those in the story where it has come to a daimon the story demands, in
order. -/
inductive GameRun (house : House) (t : Table) : (places : List Nat) → Table → Prop
  | start : GameRun house t [] t
  | step {places : List Nat} {s : Session} (h : GameRun house t places s.table)
      (operation : Operation) (hsame : operation.opensGame s = false) :
      GameRun house t (places ++ (operation.forced? house s).toList)
        ((operation.play house).after s).table

/-- From `game` on the game has come to these places in the story, each beyond the one before, and
no further than the player. -/
structure Table.Follows (game : Game) (places : List Nat) (t : Table) (game' : Game) : Prop where
  current : t.game? = some game'
  reached : game'.daimonProgress = game.daimonProgress ∨
    game'.daimonProgress ≤ t.player.storyProgression
  ascending : places.Pairwise (· < ·)
  between : ∀ place ∈ places, game.daimonProgress < place ∧ place ≤ game'.daimonProgress
  le : game.daimonProgress ≤ game'.daimonProgress

section
variable {house : House} {t u : Table} {places : List Nat} {game game' : Game}

theorem Table.Follows.kept (h : t.Follows game places game')
    (hprogress : u.progress? = t.progress?)
    (hstory : t.player.storyProgression ≤ u.player.storyProgression) :
    ∃ later, u.Follows game places later := by
  rw [progress?, progress?, h.current, Option.map_some] at hprogress
  obtain ⟨later, hlater, hsame⟩ := Option.map_eq_some_iff.mp hprogress
  refine ⟨later, hlater, ?_, h.ascending, ?_, ?_⟩
  · have hreached := h.reached
    omega
  · rw [hsame]
    exact h.between
  · rw [hsame]
    exact h.le

theorem Table.Follows.advanced {place : Nat} (h : t.Follows game places game')
    (hprogress : u.progress? = some (place : Int)) (hnew : game'.daimonProgress < place)
    (hplace : place ≤ u.player.storyProgression) :
    ∃ later, u.Follows game (places ++ [place]) later := by
  obtain ⟨later, hlater, hcome⟩ := Option.map_eq_some_iff.mp hprogress
  have hle := h.le
  refine ⟨later, hlater, .inr (by omega), ?_, fun earlier hearlier => ?_, by omega⟩
  · refine List.pairwise_append.mpr ⟨h.ascending, List.pairwise_singleton _ _, ?_⟩
    intro earlier hearlier last hlast
    obtain rfl := List.mem_singleton.mp hlast
    have hbetween := h.between earlier hearlier
    omega
  · obtain hearlier | hlast := List.mem_append.mp hearlier
    · have hbetween := h.between earlier hearlier
      omega
    · obtain rfl := List.mem_singleton.mp hlast
      omega

/-- As long as the places can be told in 32 bits with a sign, the game follows the story. -/
theorem GameRun.follows (h : GameRun house t places u) (hgame : t.game? = some game)
    (hplaces : ∀ place ∈ places, place < 0x80000000) : ∃ game', u.Follows game places game' := by
  induction h with
  | start => exact ⟨game, hgame, .inl rfl, .nil, List.forall_mem_nil _, Int.le_refl _⟩
  | @step places s _ operation hsame ih =>
    rw [List.forall_mem_append] at hplaces
    obtain ⟨game', hfollows⟩ := ih hplaces.1
    have hprogress : ((operation.play house).after s).table.progress? = _ :=
      Operation.after_progress? hsame
    have hupdates : s.Updates house ((operation.play house).after s) :=
      (operation.play_leads s).steps
    have hstory := hupdates.grows.storyProgression
    cases hforced : operation.forced? house s with
    | none =>
      rw [hforced] at hprogress
      simpa using hfollows.kept hprogress hstory
    | some place =>
      rw [hforced] at hprogress hplaces
      obtain ⟨rfl, before, hbefore, hnew⟩ := Operation.forced?_eq_some hforced
      cases hfollows.current.symm.trans hbefore
      have hsmall : s.table.player.storyProgression < 0x80000000 := by simpa using hplaces.2
      have hplace := congrArg some ((Catalog.bmod_eq_iff _).mpr hsmall)
      exact hfollows.advanced (hprogress.trans hplace) hnew hstory

end

/-- The places in the story where operations in order come to a daimon the story demands. -/
def Session.places (house : House) (s : Session) : List Operation → List Nat
  | [] => []
  | operation :: operations =>
    (operation.forced? house s).toList ++ ((operation.play house).after s).places house operations

theorem GameRun.afterAll {house : House} {t : Table} {places : List Nat} {s : Session}
    (h : GameRun house t places s.table) {operations : List Operation}
    (hsame : ∀ operation ∈ operations, operation ≠ .ask .startGame) :
    GameRun house t (places ++ s.places house operations) (s.afterAll house operations).table := by
  induction operations generalizing places s with
  | nil =>
    rw [Session.places, List.append_nil]
    exact h
  | cons operation operations ih =>
    obtain ⟨hfirst, hrest⟩ := List.forall_mem_cons.mp hsame
    have hkept : operation.opensGame s = false := by
      unfold Operation.opensGame
      split
      · exact absurd rfl hfirst
      · rfl
    have hstep := ih (.step h operation hkept) hrest
    rwa [List.append_assoc] at hstep

theorem Play.startRound_faces {house : House} {s s' : Session} {u : Unit}
    (h : (startRound house).run s = .ok u s') :
    ∃ game game' round daimon, s.table.game? = some game ∧ s'.table.game? = some game' ∧
      s'.table.round? = some round ∧ round.daimon = daimon.id ∧
      house.catalog.Faces s.table.player.storyProgression game daimon game'.daimonProgress := by
  have htransition := startRound_transition h
  cases htransition with
  | @startRound game game' daimon rng rng' before shoe t _ hidle hgame hopen hdaimon ht hround
      hshoe hfire =>
    have hplaced := congrArg (fun t : Table =>
      (t.round?.map Round.daimon, t.game?.map Game.daimonProgress)) hfire.bleeds.steady
    simp only [Table.steady, Option.map_map, Function.comp_def, Prod.mk.injEq] at hplaced
    rw [ht] at hround hplaced
    cases hround
    obtain ⟨hdaimons, hgames⟩ := hplaced
    obtain ⟨round, hround, hmet⟩ := Option.map_eq_some_iff.mp hdaimons
    obtain ⟨later, hlater, hcome⟩ := Option.map_eq_some_iff.mp hgames
    refine ⟨game, later, round, daimon, hgame, hlater, hround, hmet, ?_⟩
    rw [hcome]
    have hfaces := Catalog.nextDaimon_faces hdaimon
    exact hfaces
  | closed henter hbegin h => exact absurd rfl henter.ne_opening.2

/-- Every round is played against a daimon the story has unlocked: the first that stands where the
player has come to, if the game has not come that far, and it then has. As long as such places can
be told in 32 bits with a sign, a game never goes back in the story, never gets ahead of the player
unless it was, and never falls below its start; and each place is come to at most once. -/
theorem GameRun.story_followed (house : House) :
    (∀ (s s' : Session) (u : Unit), (Play.startRound house).run s = .ok u s' →
      ∃ game game' round daimon, s.table.game? = some game ∧ s'.table.game? = some game' ∧
        s'.table.round? = some round ∧ round.daimon = daimon.id ∧
        house.catalog.Faces s.table.player.storyProgression game daimon game'.daimonProgress) ∧
    ∀ (t u : Table) (places : List Nat) (game : Game), GameRun house t places u →
      t.game? = some game → (∀ place ∈ places, place < 0x80000000) →
        ∃ game', u.game? = some game' ∧ game.daimonProgress ≤ game'.daimonProgress ∧
          (game'.daimonProgress = game.daimonProgress ∨
            game'.daimonProgress ≤ u.player.storyProgression) ∧
          (-1 ≤ game.daimonProgress → -1 ≤ game'.daimonProgress) ∧
          places.Nodup ∧ places.Pairwise (· < ·) ∧
          ∀ place ∈ places, game.daimonProgress < place ∧ place ≤ game'.daimonProgress := by
  refine ⟨fun s s' u h => Play.startRound_faces h, fun t u places game h hgame hplaces => ?_⟩
  obtain ⟨game', hcurrent, hreached, hascending, hbetween, hle⟩ := h.follows hgame hplaces
  exact ⟨game', hcurrent, hle, hreached, fun hstart => Int.le_trans hstart hle,
    hascending.imp Nat.ne_of_lt, hascending, hbetween⟩

/-- A daimon without effect. -/
def Daimon.standing (id : DaimonId) (storySequence : Nat) : Daimon where
  id := id
  name := "Mara"
  rune := "m"
  storySequence := storySequence
  effect := .none
  intro := ""
  playerWin := ""
  playerLose := ""

/-- A house whose story goes on where its token leads, and again far beyond. -/
def longHouse : House where
  rules := Service.storyHouse.rules
  catalog := {
    daimons := [.standing 1 0, .standing 2 1, .standing 3 0x80000000]
    tokens := Service.storyHouse.catalog.tokens }

/-- A new game of a player who has come to this place in the story. -/
def Session.gameAt (progression : Nat) : Session where
  table := {
    player := { Player.ofStarter 1 "Ada" [261, 262, 263] longHouse.rules with
      storyProgression := progression }
    game? := some {} }
  rng := .ofSeed 7

/-- The first round is won and its token is claimed before the second is started. -/
def twoRounds : List Operation :=
  [.ask .startRound, .changeDaimonPool (-4), .ask .claimStoryToken, .ask .startRound]

/-- Both daimons the story demands are met, each when the player has come to it. -/
theorem GameRun.story_followed_twoRounds :
    (∃ s', (Play.startRound longHouse).run (Session.gameAt 0) = .ok () s' ∧
      s'.table.progress? = some 0) ∧
    (Session.gameAt 0).places longHouse twoRounds = [0, 1] ∧
    ((Session.gameAt 0).afterAll longHouse twoRounds).table.progress? = some 1 := by
  have hgranted : Play.leaves (Play.startRound longHouse) (Session.gameAt 0) (fun _ => true) =
      true := by decide +kernel
  have hplaces : (Session.gameAt 0).places longHouse twoRounds = [0, 1] := by decide +kernel
  have hstory : ((Session.gameAt 0).afterAll longHouse twoRounds).table.player.storyProgression =
      1 := by decide +kernel
  obtain ⟨hstep, hrun⟩ := story_followed longHouse
  refine ⟨?_, hplaces, ?_⟩
  · obtain ⟨u, s', hstart, -⟩ := Play.exists_of_leaves hgranted
    obtain ⟨game, game', round, daimon, hgame, hgame', -, -, hfaces⟩ := hstep _ s' u hstart
    cases hgame
    obtain ⟨-, hplace⟩ := hfaces.story (.standing 1 0) rfl (by decide)
    exact ⟨s', hstart, Option.map_eq_some_iff.mpr ⟨game', hgame', hplace.mpr (by decide)⟩⟩
  · have hsame : ∀ operation ∈ twoRounds, operation ≠ .ask .startGame := by simp [twoRounds]
    have hgame : GameRun longHouse (Session.gameAt 0).table _ _ := start.afterAll hsame
    rw [List.nil_append, hplaces] at hgame
    obtain ⟨game', hgame', -, hreached, -, -, -, hbetween⟩ :=
      hrun _ _ _ _ hgame rfl (by decide)
    obtain ⟨-, hlast⟩ := hbetween 1 (by decide)
    refine Option.map_eq_some_iff.mpr ⟨game', hgame', ?_⟩
    obtain hsame | hle := hreached
    · have hstart : game'.daimonProgress = -1 := hsame
      omega
    · rw [hstory] at hle
      omega

/-- Far in the story the game is put back below its start, and comes to the same place again. -/
theorem GameRun.story_lost_far :
    (Session.gameAt 0x80000000).table.progress? = some (-1) ∧
    Play.leaves (Play.startRound longHouse) (Session.gameAt 0x80000000)
      (fun s' => s'.table.progress? = some (-0x80000000)) = true ∧
    (Session.gameAt 0x80000000).places longHouse
      [.ask .startRound, .changeDaimonPool (-4), .ask .startRound] = [0x80000000, 0x80000000] :=
  ⟨by decide +kernel, by decide +kernel, by decide +kernel⟩

end BloodStakes
