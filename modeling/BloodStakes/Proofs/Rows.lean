import BloodStakes.Proofs.Commits

/-!
The rows of a store, one for each player. A call turns one row, all parts of it together, or it
is refused and turns none; so after any calls a row is what the calls for it have made of it.
-/
namespace BloodStakes

/-- What a change makes of the part that is stored. -/
inductive Change.Turns {α : Type} : Change α → Option α → Option α → Prop
  | keep (stored? : Option α) : Turns .keep stored? stored?
  | put (value : α) (stored? : Option α) : Turns (.put value) stored? (some value)
  | remove (stored? : Option α) : Turns .remove stored? none

theorem Change.turns_iff {α : Type} {change : Change α} {before? after? : Option α} :
    change.Turns before? after? ↔ after? = change.apply before? := by
  constructor
  · rintro (_ | _ | _) <;> rfl
  · rintro rfl
    cases change <;> constructor

namespace Changeset

/-- What a changeset makes of a table, part by part. -/
structure Turns (changes : Changeset) (before after : Table) : Prop where
  player : ∀ player, changes.player? = some player → after.player = player
  keeps : changes.player? = none → after.player = before.player
  game : changes.game.Turns before.game? after.game?
  round : changes.round.Turns before.round? after.round?
  hand : changes.hand.Turns before.hand? after.hand?

variable {before after : Table}

theorem turns_iff (changes : Changeset) :
    changes.Turns before after ↔ after = changes.apply before := by
  constructor
  · intro h
    have hplayer : after.player = changes.player?.getD before.player := by
      cases hplayer : changes.player? with
      | none => exact h.keeps hplayer
      | some player => exact h.player player hplayer
    obtain ⟨player, game?, round?, hand?⟩ := after
    cases hplayer
    cases Change.turns_iff.mp h.game
    cases Change.turns_iff.mp h.round
    cases Change.turns_iff.mp h.hand
    rfl
  · rintro rfl
    refine ⟨fun player h => ?_, fun h => ?_, Change.turns_iff.mpr rfl, Change.turns_iff.mpr rfl,
      Change.turns_iff.mpr rfl⟩
    · simp [apply, h]
    · simp [apply, h]

theorem validate_eq_of_kept (changes : Changeset) (stored? : Option Round) :
    changes.validate stored? =
      changes.validate (if changes.round.isKeep then stored? else none) := by
  obtain ⟨player?, game, round, hand⟩ := changes
  cases round <;> rfl

end Changeset

namespace Store

/-- The row of a player after a call, which depends on no other row. -/
def Call.turn (id : PlayerId) (row? : Option Table) : Call → Option Table
  | .insert player =>
    if player.id = id ∧ row?.isNone then
      match player.check with
      | .ok () => some { player }
      | .error _ => none
    else row?
  | .commit player changes =>
    if player = id then
      row?.map fun table =>
        match changes.validate table.round? with
        | .ok () => changes.apply table
        | .error _ => table
    else row?

theorem load_congr {store after : Store} {id : PlayerId}
    (h : after.tables[id]? = store.tables[id]?) : after.load id = store.load id := by
  unfold load
  rw [h]

theorem row_insert (store : Store) (id other : PlayerId) (table : Table) :
    (Store.mk (store.tables.insert id table)).tables[other]? =
      if other = id then some table else store.tables[other]? := by
  rw [Std.TreeMap.getElem?_insert]
  simp only [Std.compare_eq_iff_eq, eq_comm (a := id)]

theorem commit_cases (store : Store) (id : PlayerId) (changes : Changeset) :
    (store.tables[id]? = none ∧ store.commit id changes = .error (.playerNotFound id)) ∨
    ∃ table, store.tables[id]? = some table ∧
      ((∃ violation, changes.validate table.round? = .error violation ∧
        store.commit id changes = .error (.invalid violation)) ∨
      changes.validate table.round? = .ok () ∧ ∃ after, store.commit id changes = .ok after ∧
        ∀ other, after.tables[other]? =
          if other = id then some (changes.apply table) else store.tables[other]?) := by
  unfold commit
  cases hrow : store.tables[id]? with
  | none => exact .inl ⟨rfl, rfl⟩
  | some table =>
    refine .inr ⟨table, rfl, ?_⟩
    cases hvalid : changes.validate table.round? with
    | error violation => exact .inl ⟨violation, rfl, by simp only [hvalid]⟩
    | ok =>
      refine .inr ⟨rfl, ⟨store.tables.insert id (changes.apply table)⟩, by simp only [hvalid], ?_⟩
      exact fun other => row_insert store id other _

theorem insertPlayer_cases (store : Store) (player : Player) :
    (∃ violation, player.check = .error violation ∧
      store.insertPlayer player = .error (.invalid violation)) ∨
    player.check = .ok () ∧
      ((∃ table, store.tables[player.id]? = some table ∧
        store.insertPlayer player = .error (.playerExists player.id)) ∨
      store.tables[player.id]? = none ∧ ∃ after, store.insertPlayer player = .ok after ∧
        ∀ other, after.tables[other]? =
          if other = player.id then some { player } else store.tables[other]?) := by
  unfold insertPlayer
  rw [Std.TreeMap.contains_eq_isSome_getElem?]
  cases hcheck : player.check with
  | error violation => exact .inl ⟨violation, rfl, rfl⟩
  | ok =>
    refine .inr ⟨rfl, ?_⟩
    cases hrow : store.tables[player.id]? with
    | some table => exact .inl ⟨table, rfl, rfl⟩
    | none => exact .inr ⟨rfl, _, rfl, fun other => row_insert store player.id other _⟩

theorem row_after (store : Store) (call : Call) (id : PlayerId) :
    (store.after call).tables[id]? = call.turn id store.tables[id]? := by
  cases call with
  | insert player =>
    simp only [after, Call.turn]
    obtain ⟨violation, hcheck, hinsert⟩ | ⟨hcheck, ⟨table, hrow, hinsert⟩ |
      ⟨hrow, after, hinsert, hrows⟩⟩ := store.insertPlayer_cases player
    · simp only [hinsert, hcheck]
      split
      · next h => exact Option.isNone_iff_eq_none.mp h.2
      · rfl
    · simp only [hinsert]
      refine (if_neg ?_).symm
      rintro ⟨rfl, hnone⟩
      rw [hrow] at hnone
      cases hnone
    · simp only [hinsert, hcheck, hrows]
      by_cases hid : id = player.id
      · simp [hid, hrow]
      · rw [if_neg hid, if_neg fun h => hid h.1.symm]
  | commit player changes =>
    simp only [after, Call.turn]
    obtain ⟨hrow, hcommit⟩ | ⟨table, hrow, ⟨violation, hvalid, hcommit⟩ |
      ⟨hvalid, after, hcommit, hrows⟩⟩ := store.commit_cases player changes
    · simp only [hcommit]
      split
      · next hid => rw [← hid, hrow, Option.map_none]
      · rfl
    · simp only [hcommit]
      split
      · next hid => simp only [← hid, hrow, Option.map_some, hvalid]
      · rfl
    · simp only [hcommit, hrows]
      split
      · next hid => simp only [hid, ↓reduceIte, hrow, Option.map_some, hvalid]
      · next hid => rw [if_neg fun h => hid h.symm]

theorem row_afterAll (store : Store) (calls : List Call) (id : PlayerId) :
    (store.afterAll calls).tables[id]? = calls.foldl (Call.turn id) store.tables[id]? := by
  induction calls generalizing store with
  | nil => rfl
  | cons call calls ih => rw [List.foldl_cons, ← row_after, ← ih]; rfl

theorem load_after_commit_error {store : Store} {id : PlayerId} {changes : Changeset}
    {e : StoreError} (h : store.commit id changes = .error e) (other : PlayerId) :
    (store.after (.commit id changes)).load other = store.load other := by
  simp only [after, h]

theorem load_after_insert_error {store : Store} {player : Player} {e : StoreError}
    (h : store.insertPlayer player = .error e) (other : PlayerId) :
    (store.after (.insert player)).load other = store.load other := by
  simp only [after, h]

/-- A commit is refused for want of a row, and for what its parts violate, and for nothing else;
a player is let in who passes and whose number is free. What is refused leaves all tables as they
are. What is let in turns one table, each part by its own change. -/
theorem calls_exact (store : Store) :
    (∀ id changes,
      (store.commit id changes = .error (.playerNotFound id) ↔ store.tables[id]? = none) ∧
      (∀ table, store.load id = .ok table → ∀ violation,
        store.commit id changes = .error (.invalid violation) ↔
          changes.validate (if changes.round.isKeep then table.round? else none) =
            .error violation) ∧
      (∀ e, store.commit id changes = .error e →
        (e = .playerNotFound id ∨ ∃ violation, e = .invalid violation) ∧
        ∀ other, (store.after (.commit id changes)).load other = store.load other) ∧
      ∀ after, store.commit id changes = .ok after →
        (∃ table stored, store.load id = .ok table ∧ after.load id = .ok stored ∧
          ∀ found, changes.Turns table found ↔ found = stored) ∧
        ∀ other, other ≠ id → after.load other = store.load other) ∧
    (∀ player,
      ((∃ after, store.insertPlayer player = .ok after) ↔
        player.check = .ok () ∧ store.tables[player.id]? = none) ∧
      (∀ e, store.insertPlayer player = .error e →
        ∀ other, (store.after (.insert player)).load other = store.load other) ∧
      ∀ after, store.insertPlayer player = .ok after →
        after.load player.id = .ok { player } ∧
        ∀ other, other ≠ player.id → after.load other = store.load other) ∧
    ∀ calls id, (store.afterAll calls).tables[id]? =
      calls.foldl (Call.turn id) store.tables[id]? := by
  refine ⟨fun id changes => ?_, fun player => ?_, fun calls id => store.row_afterAll calls id⟩
  · obtain ⟨hrow, hcommit⟩ | ⟨table, hrow, ⟨violation, hvalid, hcommit⟩ |
      ⟨hvalid, after, hcommit, hrows⟩⟩ := store.commit_cases id changes
    · have hload (table : Table) : store.load id ≠ .ok table := by simp [load_eq_ok, hrow]
      refine ⟨by simp [hcommit, hrow], fun table htable => absurd htable (hload table),
        fun e he => ⟨.inl ?_, load_after_commit_error he⟩, fun after hafter => ?_⟩
      · exact Except.error.inj (he.symm.trans hcommit)
      · cases hcommit.symm.trans hafter
    · refine ⟨by simp [hcommit, hrow], fun found hfound other => ?_,
        fun e he => ⟨.inr ⟨violation, ?_⟩, load_after_commit_error he⟩, fun after hafter => ?_⟩
      · cases (load_eq_ok.mpr hrow).symm.trans hfound
        rw [← changes.validate_eq_of_kept, hcommit, hvalid]
        simp
      · exact Except.error.inj (he.symm.trans hcommit)
      · cases hcommit.symm.trans hafter
    · refine ⟨by simp [hcommit, hrow], fun found hfound violation => ?_, fun e he => ?_,
        fun after' hafter => ?_⟩
      · cases (load_eq_ok.mpr hrow).symm.trans hfound
        rw [← changes.validate_eq_of_kept, hcommit, hvalid]
        simp
      · cases hcommit.symm.trans he
      · cases hcommit.symm.trans hafter
        refine ⟨⟨table, changes.apply table, load_eq_ok.mpr hrow, load_eq_ok.mpr ?_,
          fun found => changes.turns_iff⟩, fun other hother => load_congr ?_⟩
        · rw [hrows, if_pos rfl]
        · rw [hrows, if_neg hother]
  · obtain ⟨violation, hcheck, hinsert⟩ | ⟨hcheck, ⟨table, hrow, hinsert⟩ |
      ⟨hrow, after, hinsert, hrows⟩⟩ := store.insertPlayer_cases player
    · refine ⟨by simp [hinsert, hcheck], fun e he => load_after_insert_error he, ?_⟩
      rintro after hafter
      cases hinsert.symm.trans hafter
    · refine ⟨by simp [hinsert, hrow], fun e he => load_after_insert_error he, ?_⟩
      rintro after hafter
      cases hinsert.symm.trans hafter
    · refine ⟨by simp [hinsert, hcheck, hrow], fun e he => load_after_insert_error he, ?_⟩
      rintro _ hafter
      cases hinsert.symm.trans hafter
      refine ⟨load_eq_ok.mpr ?_, fun other hother => load_congr ?_⟩
      · rw [hrows, if_pos rfl]
      · rw [hrows, if_neg hother]

theorem calls_exact_raised :
    ∃ table after stored, (empty.afterAll raisedCalls).load 1 = .ok table ∧
      (empty.afterAll raisedCalls).commit 1 { game := .put {}, round := .remove } = .ok after ∧
      after.load 1 = .ok stored ∧ stored.player = table.player ∧ stored.game? = some {} ∧
      stored.round? = none ∧ stored.hand? = table.hand? := by
  have hstored : ((empty.afterAll raisedCalls).commit 1
      { game := .put {}, round := .remove }).toOption.isSome = true := by
    decide +kernel
  obtain ⟨hcommit, -, -⟩ := calls_exact (empty.afterAll raisedCalls)
  obtain ⟨-, -, -, hturn⟩ := hcommit 1 { game := .put {}, round := .remove }
  cases hafter : (empty.afterAll raisedCalls).commit 1 { game := .put {}, round := .remove } with
  | error e => simp [hafter, Except.toOption] at hstored
  | ok after =>
    obtain ⟨⟨table, stored, htable, hload, hunique⟩, -⟩ := hturn after hafter
    obtain ⟨-, hplayer, hgame, hround, hhand⟩ := (hunique stored).mpr rfl
    exact ⟨table, after, stored, htable, rfl, hload, hplayer rfl, Change.turns_iff.mp hgame,
      Change.turns_iff.mp hround, Change.turns_iff.mp hhand⟩

end Store

end BloodStakes
