import BloodStakes.Proofs.Transaction

/-!
Runs of a service: players arrive, ask for what they like, and the service may be opened anew
on the same store at any time. What holds of a new table and is kept by every granted request
holds of every stored table.
-/
namespace BloodStakes

/-- A request that was granted: the table it was made on, and what it came to. -/
structure Grant where
  player : PlayerId
  request : Request
  before : Table
  report : Report

/-- The report is what the request comes to on the table, with some source of chance, and the
store finds no fault with it. -/
def Grant.Holds (house : House) (grant : Grant) : Prop :=
  ∃ rng s', (grant.request.play house).run { table := grant.before, rng } =
      .ok grant.report.reply s' ∧
    grant.report.table = s'.table ∧ grant.report.events = s'.events ∧
    s'.changes.validate grant.before.round? = .ok ()

theorem Grant.Holds.transition {house : House} {grant : Grant} (h : grant.Holds house) :
    ∃ rng s', Transition house { table := grant.before, rng } grant.request s' ∧
      grant.report.table = s'.table := by
  obtain ⟨rng, s', hrun, htable, -⟩ := h
  exact ⟨rng, s', Play.request_transition hrun, htable⟩

/-- What one player has been granted. -/
def historyOf (player : PlayerId) (log : List Grant) : List Grant :=
  log.filter fun grant => grant.player = player

theorem historyOf_cons_self (grant : Grant) (log : List Grant) :
    historyOf grant.player (grant :: log) = grant :: historyOf grant.player log := by
  simp [historyOf]

theorem historyOf_cons_other {player : PlayerId} {grant : Grant} (log : List Grant)
    (h : player ≠ grant.player) : historyOf player (grant :: log) = historyOf player log := by
  simp [historyOf, Ne.symm h]

/-- What has been granted since the current game was started. -/
def currentGame (history : List Grant) : List Grant :=
  history.takeWhile fun grant => grant.request ≠ .startGame

theorem currentGame_startGame {grant : Grant} (h : grant.request = .startGame)
    (history : List Grant) : currentGame (grant :: history) = [] := by
  simp [currentGame, h]

theorem currentGame_cons {grant : Grant} (h : grant.request ≠ .startGame)
    (history : List Grant) : currentGame (grant :: history) = grant :: currentGame history := by
  simp [currentGame, h]

/-- A player as players are when they arrive. -/
def Player.IsNew (rules : Rules) (player : Player) : Prop :=
  ∃ id username isGuest, player = { ofStarter id username starterDeck rules with isGuest }

theorem Player.ofStarter_isGuest (id : PlayerId) (username : String) (starter : List CardId)
    (rules : Rules) : ofStarter id username starter rules =
      { ofStarter id username starter rules with isGuest := false } := rfl

theorem Player.ofStarter_deck (id : PlayerId) (username : String) (isGuest : Bool)
    (starter : List CardId) (rules : Rules) :
    { ofStarter id username starter rules with isGuest }.deck = starter := rfl

theorem Player.isNew_ofStarter (id : PlayerId) (username : String) (rules : Rules) :
    (ofStarter id username starterDeck rules).IsNew rules :=
  ⟨id, username, false, ofStarter_isGuest id username starterDeck rules⟩

theorem Player.IsNew.deck {rules : Rules} {player : Player} (h : player.IsNew rules) :
    player.deck = starterDeck := by
  obtain ⟨id, username, isGuest, rfl⟩ := h
  exact ofStarter_deck _ _ _ _ _

theorem starterDeck_nodup : starterDeck.Nodup := by decide +kernel

theorem Player.isNew_guest (id : PlayerId) (time : Nat) (rules : Rules) :
    (guest id time starterDeck rules).IsNew rules :=
  ⟨id, _, true, rfl⟩

namespace Service

/-- The services a house can come to, each with what has been granted so far, the latest
grant first. -/
inductive Run (house : House) : Service → List Grant → Prop
  | opened (seed nonce : UInt64) (nextPlayer : PlayerId) :
      Run house { house, seed, nonce, nextPlayer } []
  | reopened {service : Service} {log : List Grant} (h : Run house service log)
      (seed nonce : UInt64) (nextPlayer : PlayerId) :
      Run house { service with seed, nonce, nextPlayer } log
  | playerCreated {service : Service} {log : List Grant} (h : Run house service log)
      (username : String) : Run house (service.createPlayer username).2 log
  | guestCreated {service : Service} {log : List Grant} (h : Run house service log)
      (time : Nat) : Run house (service.createGuest time).2 log
  | movesRead {service : Service} {log : List Grant} (h : Run house service log)
      (player : PlayerId) : Run house (service.availableMoves player).2 log
  | refused {service after : Service} {log : List Grant} {player : PlayerId}
      {request : Request} {e : PlayError} (h : Run house service log)
      (hrefused : service.perform player request = (.error e, after)) : Run house after log
  | granted {service after : Service} {log : List Grant} {player : PlayerId}
      {request : Request} {before : Table} {report : Report} (h : Run house service log)
      (hload : service.store.load player = .ok before)
      (hgranted : service.perform player request = (.ok report, after)) :
      Run house after (⟨player, request, before, report⟩ :: log)

theorem addPlayer_store (service : Service) (player : PlayerId → Player) :
    (service.addPlayer player).2.store = service.store ∨
      (∀ table, service.store.load (player service.nextPlayer).id ≠ .ok table) ∧
        (service.addPlayer player).2.store =
          ⟨service.store.tables.insert (player service.nextPlayer).id
            { player := player service.nextPlayer }⟩ := by
  simp only [addPlayer]
  cases hinsert : service.store.insertPlayer (player service.nextPlayer) with
  | error e => exact .inl rfl
  | ok store =>
    obtain ⟨-, hfree, rfl⟩ := Store.insertPlayer_eq_ok hinsert
    exact .inr ⟨hfree, rfl⟩

theorem addPlayer_house (service : Service) (player : PlayerId → Player) :
    (service.addPlayer player).2.house = service.house := by
  simp only [addPlayer]
  cases service.store.insertPlayer (player service.nextPlayer) <;> rfl

theorem availableMoves_store (service : Service) (player : PlayerId) :
    (service.availableMoves player).2.store = service.store := by
  unfold availableMoves openSession
  cases service.store.load player <;> rfl

private theorem availableMoves_house (service : Service) (player : PlayerId) :
    (service.availableMoves player).2.house = service.house := by
  unfold availableMoves openSession
  cases service.store.load player <;> rfl

namespace Run

variable {house : House} {service : Service} {log : List Grant}

theorem house_eq (h : Run house service log) : service.house = house := by
  induction h with
  | opened => rfl
  | reopened _ _ _ _ ih => exact ih
  | playerCreated _ _ ih => exact (addPlayer_house _ _).trans ih
  | guestCreated _ _ ih => exact (addPlayer_house _ _).trans ih
  | movesRead _ player ih => exact (availableMoves_house _ player).trans ih
  | refused _ hrefused ih =>
    rw [perform_eq_error hrefused]
    exact ih
  | @granted service after log player request before report _ _ hgranted ih =>
    have hhouse := service.perform_house player request
    rw [hgranted] at hhouse
    exact hhouse.trans ih

theorem filed (h : Run house service log) : service.store.Filed := by
  induction h with
  | opened => exact Store.filed_empty
  | reopened _ _ _ _ ih => exact ih
  | playerCreated _ _ ih => exact addPlayer_filed ih _
  | guestCreated _ _ ih => exact addPlayer_filed ih _
  | movesRead _ player ih =>
    rw [availableMoves_store]
    exact ih
  | refused _ hrefused ih =>
    rw [perform_eq_error hrefused]
    exact ih
  | @granted service after log player request before report _ _ hgranted ih =>
    have hfiled := perform_filed ih player request
    rw [hgranted] at hfiled
    exact hfiled

/-- `P` holds of every stored table with what its player has been granted, and nobody else
has been granted anything. -/
def Throughout (P : List Grant → Table → Prop) (store : Store) (log : List Grant) : Prop :=
  ∀ player, match store.load player with
    | .ok table => P (historyOf player log) table
    | .error _ => historyOf player log = []

variable {P : List Grant → Table → Prop}

private theorem throughout_addPlayer (h : Throughout P service.store log)
    (player : PlayerId → Player) (hnew : ∀ id, P [] { player := player id }) :
    Throughout P (service.addPlayer player).2.store log := by
  obtain hsame | ⟨hfree, hadded⟩ := service.addPlayer_store player
  · rw [hsame]
    exact h
  · intro other
    rw [hadded, Store.load_insert]
    by_cases hother : other = (player service.nextPlayer).id
    · rw [if_pos hother]
      have hhistory := h other
      cases hload : service.store.load other with
      | error e =>
        rw [hload] at hhistory
        dsimp only at hhistory ⊢
        rw [hhistory]
        exact hnew service.nextPlayer
      | ok table => exact absurd (hother ▸ hload) (hfree table)
    · rw [if_neg hother]
      exact h other

private theorem throughout_granted (h : Throughout P service.store log)
    (hfiled : service.store.Filed) {after : Service} (grant : Grant)
    (hload : service.store.load grant.player = .ok grant.before)
    (hgranted : service.perform grant.player grant.request = (.ok grant.report, after))
    (hstep : ∀ history grant, P history grant.before → grant.Holds service.house →
      P (grant :: history) grant.report.table) :
    Throughout P after.store (grant :: log) := by
  obtain ⟨before, rng, s', hload', hrun, htable, hevents, hvalid, hstore⟩ :=
    perform_eq_ok (hfiled grant.player) hgranted
  cases hload.symm.trans hload'
  intro other
  rw [hstore]
  by_cases hother : other = grant.player
  · rw [if_pos hother, hother, historyOf_cons_self]
    have hbefore := h grant.player
    rw [hload] at hbefore
    exact hstep _ grant hbefore ⟨rng, s', hrun, htable, hevents, hvalid⟩
  · rw [if_neg hother, historyOf_cons_other log hother]
    exact h other

/-- What holds of new tables, and is kept by all that can be granted, holds in every run. -/
theorem throughout (hnew : ∀ player, player.IsNew house.rules → P [] { player })
    (hstep : ∀ history grant, P history grant.before → grant.Holds house →
      P (grant :: history) grant.report.table)
    (h : Run house service log) : Throughout P service.store log := by
  induction h with
  | opened =>
    intro player
    have hload : (Store.empty).load player = .error (.playerNotFound player) := by
      simp [Store.load, Store.empty]
    rw [show ({ } : Store) = Store.empty from rfl, hload]
    rfl
  | reopened _ _ _ _ ih => exact ih
  | playerCreated h username ih =>
    refine throughout_addPlayer ih _ fun id => hnew _ (h.house_eq ▸ ?_)
    exact Player.isNew_ofStarter id username _
  | guestCreated h time ih =>
    refine throughout_addPlayer ih _ fun id => hnew _ (h.house_eq ▸ ?_)
    exact Player.isNew_guest id time _
  | movesRead _ player ih =>
    rw [availableMoves_store]
    exact ih
  | refused _ hrefused ih =>
    rw [perform_eq_error hrefused]
    exact ih
  | @granted service after log player request before report h hload hgranted ih =>
    refine throughout_granted ih h.filed ⟨player, request, before, report⟩ hload hgranted ?_
    rw [h.house_eq]
    exact hstep

theorem holds (hnew : ∀ player, player.IsNew house.rules → P [] { player })
    (hstep : ∀ history grant, P history grant.before → grant.Holds house →
      P (grant :: history) grant.report.table)
    (h : Run house service log) {player : PlayerId} {table : Table}
    (hload : service.store.load player = .ok table) : P (historyOf player log) table := by
  have hplayer := throughout hnew hstep h player
  rw [hload] at hplayer
  exact hplayer

end Run

/-- Answers one request of a player, and keeps a grant in the log. -/
def record (player : PlayerId) (state : Service × List Grant) (request : Request) :
    Service × List Grant :=
  match state.1.store.load player, state.1.perform player request with
  | .ok before, (.ok report, after) => (after, ⟨player, request, before, report⟩ :: state.2)
  | _, (_, after) => (after, state.2)

theorem Run.record {house : House} {state : Service × List Grant}
    (h : state.1.Run house state.2) (player : PlayerId) (request : Request) :
    (Service.record player state request).1.Run house
      (Service.record player state request).2 := by
  unfold Service.record
  cases hperform : state.1.perform player request with
  | mk result after =>
    cases result with
    | error e =>
      cases state.1.store.load player <;> exact h.refused hperform
    | ok report =>
      cases hload : state.1.store.load player with
      | error e =>
        obtain ⟨before, _, _, hload', -⟩ := perform_eq_ok (h.filed player) hperform
        cases hload.symm.trans hload'
      | ok before => exact h.granted hload hperform

theorem Run.recordAll {house : House} {state : Service × List Grant}
    (h : state.1.Run house state.2) (player : PlayerId) (requests : List Request) :
    (requests.foldl (Service.record player) state).1.Run house
      (requests.foldl (Service.record player) state).2 := by
  induction requests generalizing state with
  | nil => exact h
  | cons request requests ih => exact ih (h.record player request)

/-- A house with one daimon and decks of three cards, where the first stake wins a round. -/
def smallHouse : House where
  rules := {
    basePlayerHealth := 7
    baseDaimonHealth := 4
    daimonScalingFactor := 1
    minWager := 4
    deckSize := 3 }
  catalog := {
    daimons := [{
      id := 1
      name := "Mara"
      rune := "m"
      storySequence := 0
      effect := .none
      intro := ""
      playerWin := ""
      playerLose := "" }] }

/-- The tutorial is over with the first hand. In the second round a hand is given up, after
the deck has been replaced, and the next one is dealt from a refilled shoe. -/
def shortRun : Service × List Grant :=
  [.startGame, .assignDeck [261, 262, 263], .startRound, .startHand, .startRound, .startHand,
    .assignDeck [264, 265, 266], .surrender, .startHand].foldl (record 1)
    ((createPlayer { house := smallHouse, seed := 7 } "Ada").2, [])

theorem shortRun_stored :
    ∃ table, shortRun.1.store.load 1 = .ok table ∧ table.round?.isSome = true ∧
      table.hand?.any Hand.isInProgress = true := by
  have hstored : (shortRun.1.store.load 1).toOption.any
      (fun table => table.round?.isSome && table.hand?.any Hand.isInProgress) = true := by
    decide +kernel
  obtain ⟨table, hload, htable⟩ := exists_of_any_toOption hstored
  exact ⟨table, hload, Bool.and_eq_true_iff.mp htable⟩

theorem shortRun_run : shortRun.1.Run smallHouse shortRun.2 :=
  Run.recordAll (.playerCreated (.opened 7 0 1) "Ada") 1 _

end Service

end BloodStakes
