import BloodStakes.Proofs.Endings
import BloodStakes.Proofs.Printed

/-!
The records of a player. Games and rounds come and go; who the player is, what the player owns and
how far the player has come is kept, and the records say what the history of grants says.
-/
namespace BloodStakes

/-- A player who has later come no less far than once, and still has every token. -/
structure Player.Grows (earlier later : Player) : Prop where
  storyProgression : earlier.storyProgression ≤ later.storyProgression
  gamesPlayed : earlier.gamesPlayed ≤ later.gamesPlayed
  maxRoundReached : earlier.maxRoundReached ≤ later.maxRoundReached
  maxDaimonHealthReached : earlier.maxDaimonHealthReached ≤ later.maxDaimonHealthReached
  tokens : earlier.tokens <+: later.tokens

/-- The same person, with the same cards and the same own maximum, has grown. -/
structure Player.Lasts (earlier later : Player) : Prop extends Grows earlier later where
  lasting : later.lasting = earlier.lasting

theorem Player.Grows.refl (player : Player) : player.Grows player :=
  ⟨Nat.le_refl _, Nat.le_refl _, Nat.le_refl _, Int.le_refl _, List.prefix_refl _⟩

theorem Player.Grows.trans {first second third : Player} (h : first.Grows second)
    (h' : second.Grows third) : first.Grows third where
  storyProgression := Nat.le_trans h.storyProgression h'.storyProgression
  gamesPlayed := Nat.le_trans h.gamesPlayed h'.gamesPlayed
  maxRoundReached := Nat.le_trans h.maxRoundReached h'.maxRoundReached
  maxDaimonHealthReached := Int.le_trans h.maxDaimonHealthReached h'.maxDaimonHealthReached
  tokens := h.tokens.trans h'.tokens

theorem Player.Lasts.refl (player : Player) : player.Lasts player := ⟨.refl player, rfl⟩

theorem Player.Lasts.trans {first second third : Player} (h : first.Lasts second)
    (h' : second.Lasts third) : first.Lasts third :=
  ⟨h.toGrows.trans h'.toGrows, h'.lasting.trans h.lasting⟩

/-- Games played, the furthest round and the strongest daimon. -/
def Player.records (player : Player) : Nat × Nat × Int :=
  (player.gamesPlayed, player.maxRoundReached, player.maxDaimonHealthReached)

namespace Session

variable {house : House} {s s' t : Session}

/-- The records are as they were, and what is owned and how far the story has come only grows. -/
structure Keeps (s s' : Session) : Prop where
  records : s'.table.player.records = s.table.player.records
  storyProgression : s.table.player.storyProgression ≤ s'.table.player.storyProgression
  tokens : s.table.player.tokens <+: s'.table.player.tokens

theorem Keeps.refl (s : Session) : s.Keeps s := ⟨rfl, Nat.le_refl _, List.prefix_refl _⟩

theorem Keeps.trans (h : s.Keeps t) (h' : t.Keeps s') : s.Keeps s' where
  records := h'.records.trans h.records
  storyProgression := Nat.le_trans h.storyProgression h'.storyProgression
  tokens := h.tokens.trans h'.tokens

theorem Keeps.of_bloodless (h : s'.table.bloodless = s.table.bloodless) : s.Keeps s' := by
  have hrecords : s'.table.player.records = s.table.player.records :=
    congrArg (·.player.records) h
  have hstory : s'.table.player.storyProgression = s.table.player.storyProgression :=
    congrArg (·.player.storyProgression) h
  have htokens : s'.table.player.tokens = s.table.player.tokens := congrArg (·.player.tokens) h
  exact ⟨hrecords, Nat.le_of_eq hstory.symm, htokens ▸ List.prefix_refl _⟩

private theorem grantStoryToken_keeps (s : Session) (token : TokenId) :
    s.Keeps (s.grantStoryToken token) := by
  unfold grantStoryToken Player.grantToken
  split
  · exact ⟨rfl, Nat.le_succ _, List.prefix_refl _⟩
  · exact ⟨rfl, Nat.le_succ _, List.prefix_append _ _⟩

theorem Deed.keeps (h : s.Deed house s') : s.Keeps s' := by
  cases h with
  | blood h => exact .of_bloodless h.bloodless.1
  | settle => exact .of_bloodless s.settleRound_bloodless
  | maximum multiplier hround =>
    obtain ⟨t, hsettle, hkeeps⟩ : ∃ t, s.scaleCeiling multiplier = settleRound t ∧ s.Keeps t := by
      unfold scaleCeiling putCeiling
      rw [hround]
      exact ⟨_, rfl, rfl, Nat.le_refl _, List.prefix_refl _⟩
    rw [hsettle]
    exact hkeeps.trans (.of_bloodless t.settleRound_bloodless)
  | equipToken hplayer =>
    obtain ⟨loadout, rfl⟩ := Player.equipToken_eq_ok hplayer
    exact ⟨rfl, Nat.le_refl _, List.prefix_refl _⟩
  | assignDeck hplayer =>
    obtain ⟨-, rfl⟩ := Player.assignDeck_eq_ok hplayer
    exact ⟨rfl, Nat.le_refl _, List.prefix_refl _⟩
  | grantToken token => exact s.grantStoryToken_keeps token
  | _ => exact ⟨rfl, Nat.le_refl _, List.prefix_refl _⟩

theorem Deeds.keeps (h : s.Deeds house s') : s.Keeps s' := by
  induction h with
  | refl => exact .refl s
  | tail _ step ih => exact ih.trans step.keeps

theorem Keeps.grows (h : s.Keeps s') : s.table.player.Grows s'.table.player := by
  obtain ⟨hgames, hround, hhealth⟩ :
      s'.table.player.gamesPlayed = s.table.player.gamesPlayed ∧
      s'.table.player.maxRoundReached = s.table.player.maxRoundReached ∧
      s'.table.player.maxDaimonHealthReached = s.table.player.maxDaimonHealthReached := by
    simpa [Player.records] using h.records
  exact ⟨h.storyProgression, Nat.le_of_eq hgames.symm, Nat.le_of_eq hround.symm,
    Int.le_of_eq hhealth.symm, h.tokens⟩

theorem Updates.grows (h : s.Updates house s') : s.table.player.Grows s'.table.player := by
  induction h with
  | refl => exact .refl _
  | tail _ step ih =>
    refine ih.trans ?_
    cases step with
    | deed h => exact h.keeps.grows
    | openGame =>
      exact ⟨Nat.le_refl _, Nat.le_succ _, Nat.le_refl _, Int.le_refl _, List.prefix_refl _⟩
    | openRound =>
      exact ⟨Nat.le_refl _, Nat.le_refl _, Nat.le_max_left _ _, Int.le_max_left _ _,
        List.prefix_refl _⟩

private theorem fire_lasting (s : Session) (source : EffectSource) (effect : Effect)
    (phase : Phase) :
    (s.fire source effect phase).1.table.player.lasting = s.table.player.lasting :=
  (lasting_of_steady (s.fire_flows source effect phase).bleeds.steady).1

end Session

theorem Catalog.nextDaimon_mem {catalog : Catalog} {progression : Nat} {game game' : Game}
    {rng rng' : Rng} {daimon : Daimon}
    (h : catalog.nextDaimon progression game rng = some (daimon, game', rng')) :
    daimon ∈ catalog.daimons := by
  obtain ⟨hdemanded, -⟩ | ⟨-, hchosen, -⟩ := nextDaimon_cases h
  · exact (storyDaimon?_eq_some (demanded?_eq_some hdemanded).2).1
  · exact (pickDaimon_unlocked hchosen).1

/-- The blood of the daimon, if the event announces a round. -/
def Event.daimonHealth? : Event → Option Int
  | .roundStarted _ _ daimonPool _ => some daimonPool
  | _ => none

/-- The blood that the daimon of a round started with, if the request started one. -/
def Grant.daimonHealth? (grant : Grant) : Option Int :=
  if grant.request = .startRound then grant.report.events.findSome? Event.daimonHealth? else none

/-- How many rounds the game on the table has seen. -/
def Grant.roundsPlayed? (grant : Grant) : Option Nat :=
  grant.report.table.game?.map Game.roundsPlayed

/-- A round has been started against a daimon of the catalog, with the blood that the rules give
it in a round of that number. -/
def Grant.MeetsDaimon (house : House) (grant : Grant) (number : Nat) (health : Int) : Prop :=
  grant.roundsPlayed? = some number ∧ grant.daimonHealth? = some health ∧
    ∃ daimon ∈ house.catalog.daimons, health = house.rules.daimonHealth number daimon.doubleHealth ∧
      grant.report.table.round?.map (fun round => (round.number, round.daimon)) =
        some (number, daimon.id)

section
variable {house : House} {grant : Grant}

theorem Grant.Holds.startRound (h : grant.Holds house) (hrequest : grant.request = .startRound) :
    ∃ number health, grant.MeetsDaimon house number health ∧
      grant.report.table.player.records = (grant.before.player.gamesPlayed,
        max grant.before.player.maxRoundReached number,
        max grant.before.player.maxDaimonHealthReached health) := by
  obtain ⟨rng, s', hrun, htable, hevents, -⟩ := h
  have htransition := Play.request_transition hrun
  rw [hrequest] at htransition
  cases htransition with
  | @startRound game game' daimon rng rng' round shoe t _ hidle hgame hopen hdaimon ht hround
      hshoe hfire =>
    have hdeeds : Session.Deeds house _ s' := hfire.deeds
    obtain ⟨more, hmore, -⟩ := hdeeds.tells.events
    have hplaced := congrArg (fun t : Table =>
      (t.round?.map fun round => (round.number, round.daimon), t.game?.map Game.roundsPlayed))
      hfire.bleeds.steady
    simp only [Table.steady, Option.map_map, Function.comp_def, Prod.mk.injEq] at hplaced
    rw [ht] at hround hmore hplaced
    cases hround
    refine ⟨game'.roundsPlayed + 1,
      house.rules.daimonHealth (game'.roundsPlayed + 1) daimon.doubleHealth, ⟨?_, ?_, daimon,
      Catalog.nextDaimon_mem hdaimon, rfl, ?_⟩, ?_⟩
    · rw [Grant.roundsPlayed?, htable, hplaced.2]
      rfl
    · rw [Grant.daimonHealth?, if_pos hrequest, hevents, hmore]
      rfl
    · rw [htable, hplaced.1]
      rfl
    · rw [htable, hdeeds.keeps.records, ht]
      rfl
  | closed henter hbegin h => exact absurd rfl henter.ne_opening.2

theorem Grant.Holds.startGame (h : grant.Holds house) (hrequest : grant.request = .startGame) :
    grant.roundsPlayed? = some 0 ∧
      grant.report.table.player.records = (grant.before.player.gamesPlayed + 1,
        grant.before.player.maxRoundReached, grant.before.player.maxDaimonHealthReached) := by
  obtain ⟨rng, s', htransition, htable⟩ := h.transition
  rw [hrequest] at htransition
  rw [roundsPlayed?, htable, htransition.startGame_eq]
  exact ⟨rfl, rfl⟩

theorem Grant.Holds.inGame (h : grant.Holds house) (hgame : grant.request ≠ .startGame)
    (hround : grant.request ≠ .startRound) :
    grant.roundsPlayed? = grant.before.game?.map Game.roundsPlayed ∧
      grant.report.table.player.records = grant.before.player.records := by
  obtain ⟨rng, s', hrun, htable, -⟩ := h
  have hdeeds : Session.Deeds house { table := grant.before, rng } s' := by
    rw [← Play.after_eq_of_ok hrun]
    exact (Play.request_leads_deeds hgame hround).steps
  rw [roundsPlayed?, htable]
  exact ⟨hdeeds.tells.rounds, hdeeds.keeps.records⟩

theorem Grant.Holds.lasts (h : grant.Holds house) :
    grant.before.player.Lasts grant.report.table.player := by
  obtain ⟨rng, s', hrun, htable, -⟩ := h
  have hupdates : Session.Updates house { table := grant.before, rng } s' := by
    rw [← Play.after_eq_of_ok hrun]
    exact (Play.request_leads grant.request).steps
  rw [htable]
  exact ⟨hupdates.grows, (Play.request_transition hrun).lasting.1⟩

end

/-- The numbers on record are what the history comes to, and no game has seen more rounds. -/
structure Table.CountsUp (history : List Grant) (t : Table) : Prop where
  games : t.player.gamesPlayed = history.countP (·.request = .startGame)
  rounds : t.player.maxRoundReached = (history.filterMap Grant.roundsPlayed?).foldr max 0
  health : t.player.maxDaimonHealthReached = (history.filterMap Grant.daimonHealth?).foldr max 0
  current : ∀ n, t.game?.map Game.roundsPlayed = some n → n ≤ t.player.maxRoundReached

/-- The deck has no card twice, and only cards that are owned. -/
def Player.HoldsDeck (player : Player) : Prop :=
  player.deck.Nodup ∧ ∀ card ∈ player.deck, card ∈ player.cards

theorem Player.ofStarter_holdsDeck (id : PlayerId) (username : String) (isGuest : Bool)
    {starter : List CardId} (h : starter.Nodup) (rules : Rules) :
    { ofStarter id username starter rules with isGuest }.HoldsDeck :=
  ⟨h, fun _ hcard => hcard⟩

section
variable {house : House} {history : List Grant} {grant : Grant}

theorem Table.CountsUp.granted (hs : grant.before.CountsUp history) (h : grant.Holds house) :
    grant.report.table.CountsUp (grant :: history) := by
  have hcount : (grant :: history).countP (·.request = .startGame) =
      history.countP (·.request = .startGame) + if grant.request = .startGame then 1 else 0 := by
    simp [List.countP_cons]
  by_cases hgame : grant.request = .startGame
  · obtain ⟨hrounds, hrecords⟩ := h.startGame hgame
    have hhealth : grant.daimonHealth? = none := by simp [Grant.daimonHealth?, hgame]
    simp only [Player.records, Prod.mk.injEq] at hrecords
    obtain ⟨hgames, hround, hdaimon⟩ := hrecords
    refine ⟨?_, ?_, ?_, fun n hn => ?_⟩
    · rw [hcount, if_pos hgame, hgames, hs.games]
    · rw [List.filterMap_cons_some hrounds, List.foldr_cons, ← hs.rounds, hround, Nat.zero_max]
    · rw [List.filterMap_cons_none hhealth, ← hs.health, hdaimon]
    · cases hrounds.symm.trans hn
      exact Nat.zero_le _
  · by_cases hround : grant.request = .startRound
    · obtain ⟨number, health, ⟨hrounds, hhealth, -⟩, hrecords⟩ := h.startRound hround
      simp only [Player.records, Prod.mk.injEq] at hrecords
      obtain ⟨hgames, hmax, hdaimon⟩ := hrecords
      refine ⟨?_, ?_, ?_, fun n hn => ?_⟩
      · rw [hcount, if_neg hgame, hgames, hs.games, Nat.add_zero]
      · rw [List.filterMap_cons_some hrounds, List.foldr_cons, ← hs.rounds, hmax, Nat.max_comm]
      · rw [List.filterMap_cons_some hhealth, List.foldr_cons, ← hs.health, hdaimon, Int.max_comm]
      · cases hrounds.symm.trans hn
        rw [hmax]
        exact Nat.le_max_right _ _
    · obtain ⟨hrounds, hrecords⟩ := h.inGame hgame hround
      have hhealth : grant.daimonHealth? = none := by simp [Grant.daimonHealth?, hround]
      simp only [Player.records, Prod.mk.injEq] at hrecords
      obtain ⟨hgames, hmax, hdaimon⟩ := hrecords
      have hcurrent (n : Nat) (hn : grant.roundsPlayed? = some n) :
          n ≤ grant.before.player.maxRoundReached :=
        hs.current n (hrounds ▸ hn)
      refine ⟨?_, ?_, ?_, fun n hn => ?_⟩
      · rw [hcount, if_neg hgame, hgames, hs.games, Nat.add_zero]
      · cases hreached : grant.roundsPlayed? with
        | none => rw [List.filterMap_cons_none hreached, ← hs.rounds, hmax]
        | some n =>
          rw [List.filterMap_cons_some hreached, List.foldr_cons, ← hs.rounds, hmax,
            Nat.max_eq_right (hcurrent n hreached)]
      · rw [List.filterMap_cons_none hhealth, ← hs.health, hdaimon]
      · rw [hmax]
        exact hcurrent n hn

theorem Player.HoldsDeck.granted (hs : grant.before.player.HoldsDeck) (h : grant.Holds house) :
    grant.report.table.player.HoldsDeck := by
  obtain ⟨rng, s', htransition, htable⟩ := h.transition
  obtain ⟨hlasting, hdeck⟩ := htransition.lasting
  have hcards : s'.table.player.cards = grant.before.player.cards := by
    simp only [lasting, Prod.mk.injEq] at hlasting
    exact hlasting.2.2.2.2
  rw [htable, HoldsDeck, hcards]
  obtain hsame | hvalid := hdeck
  · rw [hsame]
    exact hs
  · obtain ⟨-, hnodup, howned⟩ := Deck.validate_eq_ok.mp hvalid
    exact ⟨hnodup, fun card hcard => by simpa [ownsCard] using howned card hcard⟩

/-- What is kept of a player, after everything granted so far. -/
structure Recorded (house : House) (history : List Grant) (t : Table) : Prop where
  arrived : ∃ player : Player, player.IsNew house.rules ∧ player.Lasts t.player
  lasts : ∀ grant ∈ history,
    grant.before.player.Lasts grant.report.table.player ∧ grant.report.table.player.Lasts t.player
  counts : t.CountsUp history
  met : ∀ grant ∈ history, grant.request = .startRound →
    ∃ number health, grant.MeetsDaimon house number health
  deck : t.player.HoldsDeck
  printed : t.Printed

private theorem recorded_new {player : Player} (h : player.IsNew house.rules) :
    Recorded house [] { player } where
  arrived := ⟨player, h, .refl player⟩
  lasts := List.forall_mem_nil _
  counts := by
    obtain ⟨id, username, isGuest, rfl⟩ := h
    exact ⟨rfl, rfl, rfl, nofun⟩
  met := List.forall_mem_nil _
  deck := by
    obtain ⟨id, username, isGuest, rfl⟩ := h
    exact Player.ofStarter_holdsDeck id username isGuest starterDeck_nodup house.rules
  printed := h.printed

theorem Recorded.granted (hs : Recorded house history grant.before) (h : grant.Holds house) :
    Recorded house (grant :: history) grant.report.table where
  arrived := by
    obtain ⟨player, hnew, hlasts⟩ := hs.arrived
    exact ⟨player, hnew, hlasts.trans h.lasts⟩
  lasts := by
    refine List.forall_mem_cons.mpr ⟨⟨h.lasts, .refl _⟩, fun earlier hearlier => ?_⟩
    obtain ⟨hbefore, hafter⟩ := hs.lasts earlier hearlier
    exact ⟨hbefore, hafter.trans h.lasts⟩
  counts := hs.counts.granted h
  met := by
    refine List.forall_mem_cons.mpr ⟨fun hround => ?_, hs.met⟩
    obtain ⟨number, health, hmet, -⟩ := h.startRound hround
    exact ⟨number, health, hmet⟩
  deck := hs.deck.granted h
  printed := by
    obtain ⟨rng, s', htransition, htable⟩ := h.transition
    rw [htable]
    exact htransition.printed hs.printed

end

/-- In every run a player is who has arrived, with the same cards and the same own maximum, and
no grant since has taken back a token, a step of the story or a record. The records are what the
history comes to: the games that were started, the most rounds that a game has seen, and the most
blood that a daimon has started a round with, which is announced and follows from the rules. The
deck has no card twice, and all of it is owned and printed. And no effect on any session, whatever
it is, touches what lasts of a player. -/
theorem Service.Run.records_kept {house : House} {service : Service} {log : List Grant}
    (h : service.Run house log) {player : PlayerId} {table : Table}
    (hload : service.store.load player = .ok table) :
    ((∃ arrived : Player, arrived.IsNew house.rules ∧ arrived.Lasts table.player) ∧
      ∀ grant ∈ historyOf player log,
        grant.before.player.Lasts grant.report.table.player ∧
        grant.report.table.player.Lasts table.player) ∧
    (table.player.gamesPlayed =
        (historyOf player log).countP (·.request = .startGame) ∧
      table.player.maxRoundReached =
        ((historyOf player log).filterMap Grant.roundsPlayed?).foldr max 0 ∧
      table.player.maxDaimonHealthReached =
        ((historyOf player log).filterMap Grant.daimonHealth?).foldr max 0 ∧
      ∀ grant ∈ historyOf player log, grant.request = .startRound →
        ∃ number health, grant.MeetsDaimon house number health) ∧
    (table.player.deck.Nodup ∧
      ∀ card ∈ table.player.deck, card ∈ table.player.cards ∧ Face.IsPrinted card) ∧
    ∀ (s : Session) (source : EffectSource) (effect : Effect) (phase : Phase),
      (s.fire source effect phase).1.table.player.lasting = s.table.player.lasting := by
  have hrecorded : Recorded house (historyOf player log) table := by
    refine Run.holds (fun _ => recorded_new) ?_ h hload
    exact fun _ _ hbefore hgrant => hbefore.granted hgrant
  have hcounts := hrecorded.counts
  refine ⟨⟨hrecorded.arrived, hrecorded.lasts⟩,
    ⟨hcounts.games, hcounts.rounds, hcounts.health, hrecorded.met⟩,
    ⟨hrecorded.deck.1, fun card hcard => ?_⟩, Session.fire_lasting⟩
  exact ⟨hrecorded.deck.2 card hcard, hrecorded.printed.deck card hcard⟩

theorem Service.Run.records_kept_shortRun :
    ∃ table, shortRun.1.store.load 1 = .ok table ∧ table.player.gamesPlayed = 1 ∧
      table.player.maxRoundReached = 2 ∧ table.player.maxDaimonHealthReached = 4 ∧
      table.player.deck.Nodup := by
  obtain ⟨table, hload, -⟩ := shortRun_stored
  obtain ⟨-, ⟨hgames, hround, hhealth, -⟩, ⟨hdeck, -⟩, -⟩ := records_kept shortRun_run hload
  refine ⟨table, hload, hgames.trans ?_, hround.trans ?_, hhealth.trans ?_, hdeck⟩
  · decide +kernel
  · decide +kernel
  · decide +kernel

end BloodStakes
