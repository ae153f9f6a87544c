import BloodStakes.Proofs.Run
import BloodStakes.Proofs.Standing

/-!
The end of a round. Whatever is asked of a session, a round ends once and for all, and its end is
announced once, with the loss of the game right after it.
-/
namespace BloodStakes

/-- How a round ended, and how many rounds had been played in its game, if there was one. -/
structure Ending where
  number : Nat
  status : RoundStatus
  roundsPlayed? : Option Nat
  deriving DecidableEq, Repr

/-- What is announced when a round ends. -/
def Ending.events (ending : Ending) : List Event :=
  .roundEnded ending.number ending.status ::
    if ending.status = .lost then (ending.roundsPlayed?.map Event.gameLost).toList else []

/-- Whether an event tells of the end of a round or a game. -/
def Event.tellsEnd : Event → Bool
  | .roundEnded .. | .gameLost .. => true
  | _ => false

/-- The log tells of these endings in order, of each of them in one go, and of no others. -/
inductive Announces : List Event → List Ending → Prop
  | nil : Announces [] []
  | other {event : Event} {events : List Event} {endings : List Ending}
      (h : event.tellsEnd = false) (rest : Announces events endings) :
      Announces (event :: events) endings
  | ended {events : List Event} {endings : List Ending} (ending : Ending)
      (rest : Announces events endings) : Announces (ending.events ++ events) (ending :: endings)

theorem Announces.append {events more : List Event} {endings later : List Ending}
    (h : Announces events endings) (h' : Announces more later) :
    Announces (events ++ more) (endings ++ later) := by
  induction h with
  | nil => exact h'
  | other hevent _ ih => exact .other hevent ih
  | ended ending _ ih =>
    rw [List.append_assoc]
    exact .ended ending ih

/-- How the round on the table has ended, if it has. -/
def Table.ending? (t : Table) : Option Ending :=
  (t.round?.filter Round.isTerminal).map fun round =>
    ⟨round.number, round.status, t.game?.map Game.roundsPlayed⟩

/-- Which round is on the table, how many rounds its game has seen, and how far both have come. -/
structure Course where
  round? : Option (Nat × RoundStatus)
  game? : Option (Nat × GameStatus)
  tutorialFinished : Bool

def Table.course (t : Table) : Course where
  round? := t.round?.map fun round => (round.number, round.status)
  game? := t.game?.map fun game => (game.roundsPlayed, game.status)
  tutorialFinished := t.player.tutorialFinished

theorem Table.standing_of_course {t u : Table} (h : u.course = t.course) :
    u.standing = t.standing := by
  have hstanding (t : Table) : t.standing =
      ⟨t.course.round?.map Prod.snd, t.course.game?.map Prod.snd, t.course.tutorialFinished⟩ := by
    simp [standing, course, Function.comp_def]
  rw [hstanding, hstanding, h]

namespace Session

variable {s s' t u : Session}

/-- The round in progress, if it is over in the later session. -/
def endingsTo (s s' : Session) : List Ending :=
  if s.roundInProgress then s'.table.ending?.toList else []

/-- The round stays the round it was, and what has been announced since is its end, if it has
ended since. -/
structure Tells (s s' : Session) : Prop where
  number : s'.table.round?.map Round.number = s.table.round?.map Round.number
  rounds : s'.table.game?.map Game.roundsPlayed = s.table.game?.map Game.roundsPlayed
  advances : s.Advances s'
  events : ∃ more, s'.events = s.events ++ more ∧ Announces more (s.endingsTo s')

theorem ending?_of_inProgress (h : s.roundInProgress = true) : s.table.ending? = none := by
  obtain ⟨round, hround, hopen⟩ := s.roundInProgress_iff.mp h
  simp [Table.ending?, hround, Round.isTerminal, hopen]

private theorem ending?_congr
    (hnumber : s'.table.round?.map Round.number = s.table.round?.map Round.number)
    (hrounds : s'.table.game?.map Game.roundsPlayed = s.table.game?.map Game.roundsPlayed)
    (hstanding : s'.table.standing = s.table.standing) : s'.table.ending? = s.table.ending? := by
  have hstatus := congrArg Standing.round? hstanding
  unfold Table.standing at hstatus
  unfold Table.ending?
  rw [hrounds]
  cases hs : s.table.round? with
  | none => simp_all
  | some round =>
    cases hs' : s'.table.round? with
    | none => simp_all
    | some round' =>
      simp only [hs, hs', Option.map_some, Option.some.injEq] at hnumber hstatus
      simp only [Option.filter_some, Round.isTerminal, Round.isInProgress, hstatus]
      by_cases hover : round.status = .inProgress <;> simp [hover, hnumber, hstatus]

theorem endingsTo_of_standing (h : s'.table.standing = s.table.standing) : s.endingsTo s' = [] := by
  unfold endingsTo
  split
  · next hopen =>
    rw [roundInProgress_eq_standing, ← h, ← roundInProgress_eq_standing] at hopen
    rw [ending?_of_inProgress hopen]
    rfl
  · rfl

theorem Tells.of_course (h : s'.table.course = s.table.course)
    (hevents : ∃ more, s'.events = s.events ++ more ∧ ∀ event ∈ more, event.tellsEnd = false) :
    s.Tells s' := by
  have hstanding := Table.standing_of_course h
  obtain ⟨more, hmore, hquiet⟩ := hevents
  refine ⟨?_, ?_, .of_standing_eq hstanding, more, hmore, ?_⟩
  · have hround := congrArg (fun c : Course => c.round?.map Prod.fst) h
    simpa [Table.course, Function.comp_def] using hround
  · have hgame := congrArg (fun c : Course => c.game?.map Prod.fst) h
    simpa [Table.course, Function.comp_def] using hgame
  · rw [endingsTo_of_standing hstanding]
    clear hmore
    induction more with
    | nil => exact .nil
    | cons event more ih =>
      obtain ⟨hevent, hquiet⟩ := List.forall_mem_cons.mp hquiet
      exact .other hevent (ih hquiet)

theorem Tells.of_course_eq (h : s'.table.course = s.table.course) (hevents : s'.events = s.events) :
    s.Tells s' :=
  .of_course h ⟨[], by simp [hevents], List.forall_mem_nil _⟩

theorem Tells.of_course_emit {event : Event} (h : s'.table.course = s.table.course)
    (hevents : s'.events = s.events ++ [event]) (hevent : event.tellsEnd = false) : s.Tells s' :=
  .of_course h ⟨[event], hevents, List.forall_mem_singleton.mpr hevent⟩

theorem Tells.refl (s : Session) : s.Tells s := .of_course_eq rfl rfl

theorem Tells.trans (h : s.Tells t) (h' : t.Tells u) : s.Tells u := by
  obtain ⟨more, hmore, htold⟩ := h.events
  obtain ⟨later, hlater, htold'⟩ := h'.events
  refine ⟨h'.number.trans h.number, h'.rounds.trans h.rounds, h.advances.trans h'.advances,
    more ++ later, by rw [hlater, hmore, List.append_assoc], ?_⟩
  have hends : s.endingsTo u = s.endingsTo t ++ t.endingsTo u := by
    cases ht : t.roundInProgress with
    | true =>
      have hs := h.advances.roundInProgress ht
      simp [endingsTo, hs, ht, ending?_of_inProgress ht]
    | false =>
      -- what is over in between stays as it is
      have hsame : u.table.standing = t.table.standing := by
        obtain hsame | ⟨_, -, hopen, -⟩ := h'.advances
        · exact hsame
        · rw [roundInProgress_eq_standing, hopen] at ht
          cases ht
      unfold endingsTo
      rw [ending?_congr h'.number h'.rounds hsame, ht]
      simp
  rw [hends]
  exact htold.append htold'

theorem Tells.tutorialFinished (h : s.Tells s') : s'.table.player.tutorialFinished =
    (s.table.player.tutorialFinished || !(s.endingsTo s').isEmpty) := by
  obtain hsame | ⟨status, hstatus, hopen, hended⟩ := h.advances
  · rw [endingsTo_of_standing hsame]
    exact (congrArg Standing.tutorialFinished hsame).trans (Bool.or_false _).symm
  · have hfinished : s'.table.player.tutorialFinished = true :=
      congrArg Standing.tutorialFinished hended
    have hround : s'.table.round?.map Round.status = some status :=
      congrArg Standing.round? hended
    obtain ⟨round, hround, hover⟩ := Option.map_eq_some_iff.mp hround
    have hopen : s.roundInProgress = true := by rw [roundInProgress_eq_standing, hopen]; rfl
    have hending : s.endingsTo s' ≠ [] := by
      simp [endingsTo, hopen, Table.ending?, hround, Option.filter_some, Round.isTerminal,
        Round.isInProgress, hover, hstatus]
    simp [hfinished, hending]

theorem Tells.final (h : s.Tells s') {round : Round} (hround : s.table.round? = some round)
    (hover : round.isTerminal = true) :
    ∃ round', s'.table.round? = some round' ∧ round'.number = round.number ∧
      round'.status = round.status := by
  have hnumber := h.number
  rw [hround, Option.map_some] at hnumber
  obtain ⟨round', hround', hnumber⟩ := Option.map_eq_some_iff.mp hnumber
  refine ⟨round', hround', hnumber, ?_⟩
  obtain hsame | ⟨_, -, hopen, -⟩ := h.advances
  · have hstatus := congrArg Standing.round? hsame
    simpa [Table.standing, hround, hround'] using hstatus
  · simp only [Table.standing, hround, Option.map_some, Option.some.injEq] at hopen
    simp [Round.isTerminal, Round.isInProgress, hopen] at hover

private theorem endRound_log (s : Session) (round : Round) (status : RoundStatus) :
    (s.endRound round status).events = s.events ++
      Ending.events ⟨round.number, status, s.table.game?.map Game.roundsPlayed⟩ := by
  have hfinish (t : Session) : t.finishTutorial.events = t.events := by
    unfold finishTutorial
    split <;> rfl
  unfold endRound Ending.events
  dsimp only
  split
  · unfold loseGame
    simp only [finishTutorial_table, emit_table, putRound_table]
    cases s.table.game? <;> simp [hfinish, emit, putGame, putRound]
  · simp [hfinish, emit, putRound]

theorem settleRound_tells (s : Session) : s.Tells s.settleRound := by
  obtain h | ⟨round, status, hround, hopen, hstatus, h⟩ := s.settleRound_cases
  · rw [h]
    exact .refl s
  · have hprogress : s.roundInProgress = true := s.roundInProgress_iff.mpr ⟨round, hround, hopen⟩
    have hrounds : (if status = .lost then s.table.game?.map Game.markLost else s.table.game?).map
        Game.roundsPlayed = s.table.game?.map Game.roundsPlayed := by
      split <;> simp [Game.markLost, Function.comp_def]
    refine ⟨?_, ?_, s.settleRound_advances, _, h ▸ s.endRound_log round status, ?_⟩
    · rw [h, endRound_table, hround]
      rfl
    · rw [h, endRound_table]
      exact hrounds
    · have hending : s.settleRound.table.ending? =
          some ⟨round.number, status, s.table.game?.map Game.roundsPlayed⟩ := by
        rw [h, endRound_table]
        simp only [Table.ending?, hrounds]
        simp [Option.filter_some, Round.isTerminal, Round.isInProgress, hstatus]
      rw [endingsTo, if_pos hprogress, hending]
      simpa using Announces.ended _ .nil

theorem BloodStep.tells (h : s.BloodStep s') : s.Tells s' := by
  obtain ⟨log, rfl⟩ | ⟨delta, rfl⟩ | ⟨t, rfl, hmoves⟩ := h.moves
  · exact .of_course_emit rfl rfl rfl
  · unfold changePot
    split <;> exact .of_course_eq rfl rfl
  · have hrounds (t : Table) : t.course =
        ⟨t.bloodless.round?.bind fun round => t.standing.round?.map (round.number, ·),
          t.bloodless.game?.bind fun game => t.standing.game?.map (game.roundsPlayed, ·),
          t.standing.tutorialFinished⟩ := by
      unfold Table.course Table.bloodless Table.standing
      cases t.round? <;> cases t.game? <;> rfl
    have hcourse : t.table.course = s.table.course := by
      rw [hrounds, hrounds s.table, hmoves.bloodless, hmoves.standing]
    exact .trans (.of_course_eq hcourse hmoves.events) t.settleRound_tells

private theorem scaleCeiling_tells (hround : s.table.round? = none) (multiplier : Float) :
    s.Tells (s.scaleCeiling multiplier) := by
  obtain ⟨t, hsettle, hcourse, hevents⟩ :
      ∃ t : Session, s.scaleCeiling multiplier = t.settleRound ∧
        t.table.course = s.table.course ∧ t.events = s.events := by
    unfold scaleCeiling putCeiling
    rw [hround]
    exact ⟨_, rfl, rfl, rfl⟩
  rw [hsettle]
  exact .trans (.of_course_eq hcourse hevents) t.settleRound_tells

theorem Deed.tells {house : House} (h : s.Deed house s') : s.Tells s' := by
  cases h with
  | blood h => exact h.tells
  | settle => exact s.settleRound_tells
  | maximum multiplier hround => exact scaleCeiling_tells hround multiplier
  | announce event h =>
    refine .of_course_emit rfl rfl ?_
    cases event <;> first | rfl | cases h
  | chance rng => exact .of_course_eq rfl rfl
  | fillShoe hround shoe => exact .of_course_emit (by simp [Table.course, hround]) rfl rfl
  | takeCard hround hshoe => exact .of_course_eq (by simp [Table.course, hround]) rfl
  | receive hhand side cards => exact .of_course_eq rfl rfl
  | openHand hround hopen hidle stake =>
    refine .of_course_eq ?_ rfl
    unfold Table.course Session.openHand
    rw [hround]
    rfl
  | closeHand hhand status playerTotal daimonTotal =>
    have hrecord (game : Game) : (game.record status).roundsPlayed = game.roundsPlayed ∧
        (game.record status).status = game.status := by
      unfold Game.record
      split <;> exact ⟨rfl, rfl⟩
    refine .of_course_emit ?_ rfl rfl
    unfold Table.course Session.closeHand
    simp [Function.comp_def, hrecord]
  | equipToken hplayer =>
    obtain ⟨loadout, rfl⟩ := Player.equipToken_eq_ok hplayer
    exact .of_course_eq rfl rfl
  | assignDeck hplayer =>
    obtain ⟨-, rfl⟩ := Player.assignDeck_eq_ok hplayer
    exact .of_course_eq rfl rfl
  | claimReward hround hwon hclaim => exact .of_course_eq (by simp [Table.course, hround]) rfl
  | grantToken token =>
    obtain ⟨tokens, hgrant⟩ := Player.grantToken_cases s.table.player token
    refine .of_course_emit ?_ rfl rfl
    simp [Table.course, grantStoryToken, hgrant]

theorem Deeds.tells {house : House} (h : s.Deeds house s') : s.Tells s' := by
  induction h with
  | refl => exact .refl s
  | tail _ step ih => exact ih.trans step.tells

end Session

namespace Session

variable {s t u : Session}

/-- The round has been taken off the table, or replaced by one that has not ended. -/
structure Renewed (s t : Session) : Prop where
  events : ∃ more, t.events = s.events ++ more ∧ Announces more []
  tutorialFinished : t.table.player.tutorialFinished = s.table.player.tutorialFinished
  ending : t.table.ending? = none

theorem openGame_renewed (s : Session) : s.Renewed s.openGame :=
  ⟨⟨[_], rfl, .other rfl .nil⟩, rfl, rfl⟩

private theorem nextRound?_renewed {house : House} (h : s.nextRound? house = some t) :
    s.Renewed t := by
  obtain ⟨_, _, _, _, -, -, -, -, rfl⟩ := nextRound?_eq_some h
  exact ⟨⟨[], (List.append_nil _).symm, .nil⟩, rfl, rfl⟩

theorem Tells.endingsTo_of_renewed (h : t.Tells u) (hnew : s.Renewed t) :
    t.endingsTo u = u.table.ending?.toList := by
  unfold endingsTo
  split
  · rfl
  · next hclosed =>
    have hround : t.table.round? = none := by
      cases hround : t.table.round? with
      | none => rfl
      | some round =>
        have hending := hnew.ending
        simp_all [Table.ending?, roundInProgress, Round.isTerminal, Option.filter_some]
    have hnumber := h.number
    rw [hround, Option.map_none, Option.map_eq_none_iff] at hnumber
    simp [Table.ending?, hnumber]

end Session

/-- Whether an operation takes the round off the table or puts a new one there. -/
def Operation.replacesRound (house : House) (s : Session) : Operation → Bool
  | ask .startGame => !s.table.game?.any Game.isInProgress
  | ask .startRound => (s.nextRound? house).isSome
  | _ => false

/-- The round that ends in the course of an operation, if any: it was in progress before, or is
put on the table by the operation, and is over afterwards. -/
def Operation.endings (house : House) (s : Session) (operation : Operation) : List Ending :=
  if s.roundInProgress || operation.replacesRound house s then
    ((operation.play house).after s).table.ending?.toList
  else []

namespace Session

/-- The rounds that end in the course of operations in order. -/
def endings (house : House) (s : Session) : List Operation → List Ending
  | [] => []
  | operation :: operations =>
    operation.endings house s ++ ((operation.play house).after s).endings house operations

/-- Whether the round on the table is the same all along. -/
def keepsRound (house : House) (s : Session) : List Operation → Bool
  | [] => true
  | operation :: operations =>
    !operation.replacesRound house s && ((operation.play house).after s).keepsRound house operations

end Session

section
variable {house : House} {s : Session} {operation : Operation}

theorem Play.after_bind_pure {α β : Type} (p : Play α) (b : β) (s : Session) :
    (do let _ ← p; return b : Play β).after s = p.after s := by
  unfold Play.after
  rw [Play.run_bind]
  cases p.run s <;> rfl

theorem Play.startGame_after (s : Session) : Play.startGame.after s =
    if s.table.game?.any Game.isInProgress then s else s.openGame := by
  unfold Play.after Play.startGame
  simp only [Play.run_bind, Play.run_get, Play.run_refuseIf]
  cases s.table.game?.any Game.isInProgress <;> rfl

theorem Operation.after_cases (house : House) (s : Session) (operation : Operation) :
    operation.replacesRound house s = false ∧ s.Tells ((operation.play house).after s) ∨
    operation.replacesRound house s = true ∧
      ∃ t, s.Renewed t ∧ t.Tells ((operation.play house).after s) := by
  cases hopening : operation.isOpening with
  | false =>
    refine .inl ⟨?_, Session.Deeds.tells (play_leads_deeds hopening s).steps⟩
    cases operation with
    | ask request => cases request <;> first | rfl | cases hopening
    | _ => rfl
  | true =>
    cases operation with
    | ask request =>
      simp only [play, Play.after_bind_pure]
      cases request with
      | startGame =>
        simp only [Request.play, replacesRound, Play.after_bind_pure, Play.startGame_after]
        cases hgame : s.table.game?.any Game.isInProgress with
        | true => exact .inl ⟨rfl, .refl s⟩
        | false => exact .inr ⟨rfl, s.openGame, s.openGame_renewed, .refl _⟩
      | startRound =>
        simp only [Request.play, replacesRound, Play.after_bind_pure]
        obtain ⟨hnone, hafter⟩ | ⟨t, hopen, hdeeds⟩ := Play.startRound_after house s
        · rw [hafter, hnone]
          exact .inl ⟨rfl, .refl s⟩
        · rw [hopen]
          exact .inr ⟨rfl, t, Session.nextRound?_renewed hopen, hdeeds.tells⟩
      | _ => cases hopening
    | _ => cases hopening

theorem Operation.endings_of_tells (hkept : operation.replacesRound house s = false) :
    operation.endings house s = s.endingsTo ((operation.play house).after s) := by
  simp [endings, Session.endingsTo, hkept]

theorem Operation.endings_of_renewed {t : Session}
    (hreplaced : operation.replacesRound house s = true) (hnew : s.Renewed t)
    (h : t.Tells ((operation.play house).after s)) :
    operation.endings house s = t.endingsTo ((operation.play house).after s) := by
  rw [h.endingsTo_of_renewed hnew]
  simp [endings, hreplaced]

theorem Operation.announces (house : House) (s : Session) (operation : Operation) :
    (∃ more, ((operation.play house).after s).events = s.events ++ more ∧
      Announces more (operation.endings house s)) ∧
    ((operation.play house).after s).table.player.tutorialFinished =
      (s.table.player.tutorialFinished || !(operation.endings house s).isEmpty) := by
  obtain ⟨hkept, h⟩ | ⟨hreplaced, t, hnew, h⟩ := operation.after_cases house s
  · rw [endings_of_tells hkept]
    exact ⟨h.events, h.tutorialFinished⟩
  · rw [endings_of_renewed hreplaced hnew h]
    obtain ⟨more, hmore, hquiet⟩ := hnew.events
    obtain ⟨later, hlater, htold⟩ := h.events
    refine ⟨⟨more ++ later, ?_, hquiet.append htold⟩, ?_⟩
    · rw [hlater, hmore, List.append_assoc]
    · rw [h.tutorialFinished, hnew.tutorialFinished]

namespace Session

theorem afterAll_announces (house : House) (s : Session) (operations : List Operation) :
    ∃ more, (s.afterAll house operations).events = s.events ++ more ∧
      Announces more (s.endings house operations) := by
  induction operations generalizing s with
  | nil => exact ⟨[], (List.append_nil _).symm, .nil⟩
  | cons operation operations ih =>
    obtain ⟨⟨more, hmore, htold⟩, -⟩ := operation.announces house s
    obtain ⟨later, hlater, htold'⟩ := ih ((operation.play house).after s)
    refine ⟨more ++ later, ?_, htold.append htold'⟩
    rw [afterAll, hlater, hmore, List.append_assoc]

theorem afterAll_tutorialFinished (house : House) (s : Session) (operations : List Operation) :
    (s.afterAll house operations).table.player.tutorialFinished =
      (s.table.player.tutorialFinished || !(s.endings house operations).isEmpty) := by
  induction operations generalizing s with
  | nil => exact (Bool.or_false _).symm
  | cons operation operations ih =>
    rw [afterAll, ih, (operation.announces house s).2, endings, Bool.or_assoc]
    cases operation.endings house s <;> simp

theorem afterAll_final {round : Round} (operations : List Operation)
    (hround : s.table.round? = some round) (hover : round.isTerminal = true)
    (hkept : s.keepsRound house operations = true) :
    ∃ round', (s.afterAll house operations).table.round? = some round' ∧
      round'.number = round.number ∧ round'.status = round.status := by
  induction operations generalizing s round with
  | nil => exact ⟨round, hround, rfl, rfl⟩
  | cons operation operations ih =>
    simp only [keepsRound, Bool.and_eq_true, Bool.not_eq_true'] at hkept
    obtain ⟨-, h⟩ | ⟨hreplaced, -⟩ := operation.after_cases house s
    · obtain ⟨next, hnext, hnumber, hstatus⟩ := h.final hround hover
      have hover' : next.isTerminal = true := by
        unfold Round.isTerminal Round.isInProgress at hover ⊢
        rwa [hstatus]
      obtain ⟨last, hlast, hnumber', hstatus'⟩ := ih hnext hover' hkept.2
      exact ⟨last, hlast, hnumber'.trans hnumber, hstatus'.trans hstatus⟩
    · rw [hkept.1] at hreplaced
      cases hreplaced

private theorem settleRound_of_terminal (h : s.roundTerminal = true) : s.settleRound = s := by
  obtain hsame | ⟨round, status, hround, hopen, -⟩ := s.settleRound_cases
  · exact hsame
  · simp [roundTerminal, hround, Round.isTerminal, hopen] at h

/-- Whatever is done in order to a session, the rounds that end are each announced once, with
number and status, the loss of the game right after; the first of them ends the tutorial. A
round that is over stays as it ended for as long as it is on the table, and a look at the pools
then changes nothing. -/
theorem rounds_end_once (house : House) (s : Session) (operations : List Operation) :
    (∃ more, (s.afterAll house operations).events = s.events ++ more ∧
      Announces more (s.endings house operations)) ∧
    (s.afterAll house operations).table.player.tutorialFinished =
      (s.table.player.tutorialFinished || !(s.endings house operations).isEmpty) ∧
    (∀ round, s.table.round? = some round → round.isTerminal = true →
      s.keepsRound house operations = true →
        ∃ round', (s.afterAll house operations).table.round? = some round' ∧
          round'.number = round.number ∧ round'.status = round.status) ∧
    (s.roundTerminal = true → s.settleRound = s) :=
  ⟨s.afterAll_announces house operations, s.afterAll_tutorialFinished house operations,
    fun _ hround hover hkept => afterAll_final operations hround hover hkept,
    settleRound_of_terminal⟩

/-- A session whose first round has been won. -/
def wonRound : Session :=
  ({ table := { player := .ofStarter 1 "Ada" starterDeck Service.smallHouse.rules }
     rng := .ofSeed 7 } : Session).afterAll Service.smallHouse
    [.ask .startGame, .ask (.assignDeck [261, 262, 263]), .ask .startRound, .changeDaimonPool (-4)]

/-- Even when the winner's blood is taken afterwards, the round stays won. The next round is
lost, and with it the game. -/
theorem rounds_end_once_wonRound :
    (∃ round, wonRound.table.round? = some round ∧ round.isTerminal = true ∧
      wonRound.keepsRound Service.smallHouse [.changePlayerPool (-7), .settleRound] = true ∧
      ∃ round', (wonRound.afterAll Service.smallHouse
          [.changePlayerPool (-7), .settleRound]).table.round? = some round' ∧
        round'.number = round.number ∧ round'.status = round.status) ∧
    (wonRound.roundTerminal = true ∧ wonRound.settleRound = wonRound) ∧
    wonRound.endings Service.smallHouse [.ask .startRound, .changePlayerPool (-7)] =
      [⟨2, .lost, some 2⟩] ∧
    ∃ more, (wonRound.afterAll Service.smallHouse
        [.ask .startRound, .changePlayerPool (-7)]).events = wonRound.events ++ more ∧
      Announces more [⟨2, .lost, some 2⟩] := by
  have hround : wonRound.table.round?.isSome = true := by decide +kernel
  have hover : wonRound.roundTerminal = true := by decide +kernel
  have hkept : wonRound.keepsRound Service.smallHouse [.changePlayerPool (-7), .settleRound] =
      true := by decide +kernel
  have hendings : wonRound.endings Service.smallHouse
      [.ask .startRound, .changePlayerPool (-7)] = [⟨2, .lost, some 2⟩] := by decide +kernel
  obtain ⟨round, hround⟩ := Option.isSome_iff_exists.mp hround
  have hterminal : round.isTerminal = true := by
    simpa [roundTerminal, hround] using hover
  obtain ⟨-, -, hfinal, hsettled⟩ := rounds_end_once Service.smallHouse wonRound
    [.changePlayerPool (-7), .settleRound]
  obtain ⟨htold, -⟩ := rounds_end_once Service.smallHouse wonRound
    [.ask .startRound, .changePlayerPool (-7)]
  exact ⟨⟨round, hround, hterminal, hkept, hfinal round hround hterminal hkept⟩,
    ⟨hover, hsettled hover⟩, hendings, hendings ▸ htold⟩

end Session

end

end BloodStakes
