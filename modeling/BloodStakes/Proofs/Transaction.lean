import BloodStakes.Proofs.Granting
import BloodStakes.Proofs.Tracking

/-!
Requests are transactions. What a request that is granted reports is what is stored, one that
is refused stores nothing, and nobody else's table is written.
-/
namespace BloodStakes

namespace Store

/-- Every table is filed under the number of its own player, as all arrivals and requests
file it. -/
def Filed (store : Store) : Prop :=
  ∀ id table, store.load id = .ok table → table.player.id = id

theorem load_insert (store : Store) (id other : PlayerId) (table : Table) :
    (Store.mk (store.tables.insert id table)).load other =
      if other = id then .ok table else store.load other := by
  unfold load
  rw [Std.TreeMap.getElem?_insert]
  by_cases h : other = id
  · rw [if_pos h, if_pos (by rw [h]; exact Std.compare_eq_iff_eq.mpr rfl)]
  · rw [if_neg h, if_neg fun heq => h (Std.compare_eq_iff_eq.mp heq).symm]

theorem filed_empty : (empty : Store).Filed := by
  intro id table h
  simp [load_eq_ok, empty] at h

theorem Filed.insert {store : Store} (h : store.Filed) (table : Table) :
    (Store.mk (store.tables.insert table.player.id table)).Filed := by
  intro id found hload
  rw [load_insert] at hload
  split at hload
  · next hid =>
    cases hload
    exact hid.symm
  · exact h id found hload

theorem insertPlayer_eq_ok {store after : Store} {player : Player}
    (h : store.insertPlayer player = .ok after) :
    player.check = .ok () ∧ (∀ table, store.load player.id ≠ .ok table) ∧
      after = ⟨store.tables.insert player.id { player }⟩ := by
  unfold insertPlayer at h
  split at h
  · cases h
  · next hcheck =>
    split at h
    · cases h
    · next hfree =>
      refine ⟨hcheck, ?_, (Except.ok.inj h).symm⟩
      intro table hload
      rw [load_eq_ok] at hload
      exact hfree (Std.TreeMap.mem_iff_isSome_getElem?.mpr (by simp [hload]))

end Store

theorem Session.persist_load {store store' : Store} {s t : Session} {loaded : Table}
    (hload : store.load s.table.player.id = .ok loaded) (htracks : s.Tracks loaded)
    (h : s.persist store = .ok (store', t)) :
    t.table = s.table ∧ t.events = s.events ∧ s.changes.validate loaded.round? = .ok () ∧
      ∀ other, store'.load other =
        if other = s.table.player.id then .ok s.table else store.load other := by
  unfold persist at h
  split at h
  · next hempty =>
    cases h
    have hvalid : s.changes.validate loaded.round? = .ok () := by
      rw [Changeset.eq_of_isEmpty hempty]
      rfl
    refine ⟨rfl, rfl, hvalid, fun other => ?_⟩
    rw [htracks.of_isEmpty hempty] at hload ⊢
    split
    · next hother => rw [hother, hload]
    · rfl
  · split at h
    · next store' hcommit =>
      cases h
      obtain ⟨table, htable, hvalid, rfl⟩ := Store.commit_eq_ok.mp hcommit
      rw [Store.load_eq_ok, htable] at hload
      cases hload
      refine ⟨rfl, rfl, hvalid, fun other => ?_⟩
      rw [htracks.apply_changes, Store.load_insert]
    · cases h

namespace Service

/-- What a request comes to: there is no such player, the play is refused, the store finds fault
with what the play has left, or that is stored. A session that is opened counts in any case. -/
inductive Performs (service : Service) (player : PlayerId) (request : Request) :
    Except PlayError Report × Service → Prop
  | missing {cause : StoreError} (hload : service.store.load player = .error cause) :
      Performs service player request (.error (.store cause), service)
  | refused {before : Table} {rng : Rng} {e : PlayError} {s' : Session}
      (hload : service.store.load player = .ok before)
      (hrun : (request.play service.house).run { table := before, rng } = .error e s') :
      Performs service player request (.error e, { service with nonce := service.nonce + 1 })
  | rejected {before : Table} {rng : Rng} {reply : Reply} {s' : Session} {cause : StoreError}
      (hload : service.store.load player = .ok before)
      (hrun : (request.play service.house).run { table := before, rng } = .ok reply s')
      (hpersist : s'.persist service.store = .error cause) :
      Performs service player request
        (.error (.store cause), { service with nonce := service.nonce + 1 })
  | granted {before : Table} {rng : Rng} {reply : Reply} {s' t : Session} {store : Store}
      (hload : service.store.load player = .ok before)
      (hrun : (request.play service.house).run { table := before, rng } = .ok reply s')
      (hpersist : s'.persist service.store = .ok (store, t)) :
      Performs service player request
        (.ok { reply, table := t.table, events := t.events },
          { service with store, nonce := service.nonce + 1 })

variable {service after : Service} {player : PlayerId} {request : Request}

theorem perform_performs (service : Service) (player : PlayerId) (request : Request) :
    Performs service player request (service.perform player request) := by
  unfold perform openSession
  cases hload : service.store.load player with
  | error cause => exact .missing hload
  | ok before =>
    dsimp only
    split
    · next e s' hrun => exact .refused hload hrun
    · next reply s' hrun =>
      split
      · next cause hpersist => exact .rejected hload hrun hpersist
      · next store t hpersist => exact .granted hload hrun hpersist

/-- A request that is granted stores the table that it leaves, which the store finds no fault
with, and that is what it reports. -/
theorem perform_eq_ok {report : Report}
    (hfiled : ∀ table, service.store.load player = .ok table → table.player.id = player)
    (h : service.perform player request = (.ok report, after)) :
    ∃ before rng s', service.store.load player = .ok before ∧
      (request.play service.house).run { table := before, rng } = .ok report.reply s' ∧
      report.table = s'.table ∧ report.events = s'.events ∧
      s'.changes.validate before.round? = .ok () ∧
      ∀ other, after.store.load other =
        if other = player then .ok report.table else service.store.load other := by
  have hperforms := service.perform_performs player request
  rw [h] at hperforms
  cases hperforms with
  | @granted before rng reply s' t store hload hrun hpersist =>
    have htransition := Play.request_transition hrun
    have hid : s'.table.player.id = player :=
      (congrArg Prod.fst htransition.lasting.1).trans (hfiled before hload)
    have htracks := (Session.tracks_opened before rng).of_run (Play.request_leads request) hrun
    obtain ⟨htable, hevents, hvalid, hstore⟩ :=
      Session.persist_load (hid.symm ▸ hload) htracks hpersist
    refine ⟨before, rng, s', hload, hrun, htable, hevents, hvalid, fun other => ?_⟩
    rw [hstore, hid, htable]

theorem perform_error_cases {e : PlayError}
    (h : service.perform player request = (.error e, after)) :
    (∃ cause, service.store.load player = .error cause ∧ e = .store cause) ∨
      (∃ before rng s', service.store.load player = .ok before ∧
        (request.play service.house).run { table := before, rng } = .error e s') ∨
      ∃ before rng s' reply cause, service.store.load player = .ok before ∧
        (request.play service.house).run { table := before, rng } = .ok reply s' ∧
        s'.persist service.store = .error cause ∧ e = .store cause := by
  have hperforms := service.perform_performs player request
  rw [h] at hperforms
  cases hperforms with
  | missing hload => exact .inl ⟨_, hload, rfl⟩
  | refused hload hrun => exact .inr (.inl ⟨_, _, _, hload, hrun⟩)
  | rejected hload hrun hpersist => exact .inr (.inr ⟨_, _, _, _, _, hload, hrun, hpersist, rfl⟩)

/-- A request that is refused stores nothing. -/
theorem perform_eq_error {e : PlayError} (h : service.perform player request = (.error e, after)) :
    after = { service with nonce := after.nonce } := by
  have hperforms := service.perform_performs player request
  rw [h] at hperforms
  cases hperforms <;> rfl

theorem perform_house (service : Service) (player : PlayerId) (request : Request) :
    (service.perform player request).2.house = service.house := by
  have hperforms := service.perform_performs player request
  generalize service.perform player request = outcome at hperforms
  cases hperforms <;> rfl

theorem addPlayer_filed {service : Service} (h : service.store.Filed) (player : PlayerId → Player) :
    (service.addPlayer player).2.store.Filed := by
  simp only [addPlayer]
  cases hinsert : service.store.insertPlayer (player service.nextPlayer) with
  | error e => exact h
  | ok store =>
    obtain ⟨-, -, rfl⟩ := Store.insertPlayer_eq_ok hinsert
    exact h.insert { player := player service.nextPlayer }

theorem perform_filed (h : service.store.Filed) (player : PlayerId) (request : Request) :
    (service.perform player request).2.store.Filed := by
  cases hperform : service.perform player request with
  | mk result after =>
    cases result with
    | error e =>
      rw [perform_eq_error hperform]
      exact h
    | ok report =>
      obtain ⟨before, rng, s', hload, hrun, htable, -, -, hstore⟩ :=
        perform_eq_ok (h player) hperform
      intro id table hid
      rw [hstore] at hid
      split at hid
      · next hplayer =>
        cases hid
        have hlasting := (Play.request_transition hrun).lasting.1
        rw [htable, hplayer]
        exact (congrArg Prod.fst hlasting).trans (h player before hload)
      · exact h id table hid

/-- Every request is a transaction. If the table it is made on is filed under the number of its own
player, what is reported is what is stored, and the tables of others stay; a refusal stores nothing,
and all tables stay filed if they were. The parts that are stored are all that have changed, for
whatever is asked of a session on a table, in any order, granted or refused. -/
theorem perform_transaction (service : Service) (player : PlayerId) (request : Request) :
    ((∀ table, service.store.load player = .ok table → table.player.id = player) →
      (∀ report after, service.perform player request = (.ok report, after) →
        after.store.load player = .ok report.table) ∧
      ∀ other, other ≠ player →
        (service.perform player request).2.store.load other = service.store.load other) ∧
    (∀ e after, service.perform player request = (.error e, after) →
      after.store = service.store) ∧
    (service.store.Filed → (service.perform player request).2.store.Filed) ∧
    ∀ (table : Table) (rng : Rng) (operations : List Operation),
      (Session.afterAll service.house { table, rng } operations).Tracks table := by
  refine ⟨fun hfiled => ⟨?_, ?_⟩, ?_, fun hfiled => perform_filed hfiled player request, ?_⟩
  · intro report after hperform
    obtain ⟨_, _, _, -, -, -, -, -, hstore⟩ := perform_eq_ok hfiled hperform
    rw [hstore, if_pos rfl]
  · intro other hother
    cases hperform : service.perform player request with
    | mk result after =>
      cases result with
      | error e => rw [perform_eq_error hperform]
      | ok report =>
        obtain ⟨_, _, _, -, -, -, -, -, hstore⟩ := perform_eq_ok hfiled hperform
        rw [hstore, if_neg hother]
  · intro e after hperform
    rw [perform_eq_error hperform]
  · intro table rng operations
    exact (Session.afterAll_updates operations _).tracks (Session.tracks_opened table rng)

theorem perform_transaction_first_game :
    let service := (createPlayer { house := {}, seed := 7 } "Ada").2
    service.store.Filed ∧ ∃ report after, service.perform 1 .startGame = (.ok report, after) ∧
      after.store.load 1 = .ok report.table := by
  have hfiled : (createPlayer { house := {}, seed := 7 } "Ada").2.store.Filed :=
    addPlayer_filed Store.filed_empty _
  refine ⟨hfiled, ?_⟩
  have hstored := ((perform_transaction _ 1 .startGame).1 (hfiled 1)).1
  have hgranted : ((createPlayer { house := {}, seed := 7 } "Ada").2.perform 1
      .startGame).1.isOk = true := by decide +kernel
  cases hperform : (createPlayer { house := {}, seed := 7 } "Ada").2.perform 1 .startGame with
  | mk result after =>
    rw [hperform] at hgranted
    cases result with
    | error e => cases hgranted
    | ok report => exact ⟨report, after, rfl, hstored report after hperform⟩

theorem exists_of_any_toOption {ε α : Type} {result : Except ε α} {p : α → Bool}
    (h : result.toOption.any p = true) : ∃ a, result = .ok a ∧ p a = true := by
  cases result with
  | error e => cases h
  | ok a => exact ⟨a, rfl, h⟩

/-- Two players have arrived, and the table of the first has been given to the second. -/
def misfiled : Except StoreError Store := do
  let store ← Store.empty.insertPlayer (.ofStarter 7 "Ada" starterDeck {})
  let store ← store.insertPlayer (.ofStarter 8 "Eve" starterDeck {})
  store.commit 7 { player? := some (.ofStarter 8 "Eve" starterDeck {}) }

/-- How many games the player of a stored table has played. -/
def gamesOf (stored : Except StoreError Table) : Option Nat :=
  stored.toOption.map fun table => table.player.gamesPlayed

/-- What is asked of a table that is filed under another number is stored under that of its player,
over what was stored there. -/
theorem perform_transaction_misfiled :
    ∃ store report after, misfiled = .ok store ∧
      ({ house := {}, store, seed := 7 } : Service).perform 7 .startGame = (.ok report, after) ∧
      after.store.load 7 ≠ .ok report.table ∧ after.store.load 8 ≠ store.load 8 := by
  have hmisfiled : misfiled.toOption.any (fun store =>
      let outcome := ({ house := {}, store, seed := 7 } : Service).perform 7 .startGame
      outcome.1.toOption.any fun report =>
        report.table.player.gamesPlayed = 1 && gamesOf (outcome.2.store.load 7) = some 0 &&
          gamesOf (outcome.2.store.load 8) = some 1 && gamesOf (store.load 8) = some 0) = true := by
    decide +kernel
  obtain ⟨store, hstore, hmisfiled⟩ := exists_of_any_toOption hmisfiled
  obtain ⟨report, hreport, hgames⟩ := exists_of_any_toOption hmisfiled
  simp only [Bool.and_eq_true, decide_eq_true_eq] at hgames
  obtain ⟨⟨⟨hreported, hfirst⟩, hsecond⟩, hbefore⟩ := hgames
  refine ⟨store, report, _, hstore, Prod.ext hreport rfl, fun hload => ?_, fun hload => ?_⟩
  · rw [hload, gamesOf, Except.toOption, Option.map_some, hreported] at hfirst
    cases hfirst
  · rw [hload, hbefore] at hsecond
    cases hsecond

end Service

end BloodStakes
