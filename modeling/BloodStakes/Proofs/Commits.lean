import BloodStakes.Proofs.Run

/-!
What a store lets in. A player that is written must fit under the round that will be stored with
it. A round that is written alone is not held against the player that stays.
-/
namespace BloodStakes

/-- The player's pool lies between zero and the ceiling in force. -/
def Table.Fits (t : Table) : Prop :=
  0 ≤ t.player.bloodPool ∧ t.player.bloodPool ≤ Changeset.ceilingFor t.player t.round?

theorem Player.checkWithin_eq_ok {player : Player} {ceiling : Int}
    (h : player.checkWithin ceiling = .ok ()) :
    0 ≤ player.bloodPool ∧ player.bloodPool ≤ ceiling := by
  unfold checkWithin at h
  split at h
  · cases h
  · split at h
    · cases h
    · split at h
      · cases h
      · omega

namespace Changeset

private theorem checkWithin_of_validate {changes : Changeset} {storedRound? : Option Round}
    (h : changes.validate storedRound? = .ok ()) {player : Player}
    (hplayer : changes.player? = some player) :
    player.checkWithin (ceilingFor player (changes.round.apply storedRound?)) = .ok () := by
  unfold validate at h
  rw [hplayer] at h
  cases hcheck : player.checkWithin (ceilingFor player (changes.round.apply storedRound?)) with
  | ok => rfl
  | error violation =>
    simp only [hcheck] at h
    cases h

theorem apply_fits {changes : Changeset} {table : Table}
    (h : changes.validate table.round? = .ok ()) (hplayer : changes.player?.isSome = true) :
    (changes.apply table).Fits := by
  obtain ⟨player, hplayer⟩ := Option.isSome_iff_exists.mp hplayer
  have hcheck := checkWithin_of_validate h hplayer
  simp only [Table.Fits, apply, hplayer, Option.getD_some]
  exact Player.checkWithin_eq_ok hcheck

end Changeset

namespace Store

/-- What writes to a store. -/
inductive Call where
  | insert (player : Player)
  | commit (player : PlayerId) (changes : Changeset)

/-- The store after a call; one that is refused writes nothing. -/
def after (store : Store) : Call → Store
  | .insert player =>
    match store.insertPlayer player with
    | .ok store => store
    | .error _ => store
  | .commit player changes =>
    match store.commit player changes with
    | .ok store => store
    | .error _ => store

def afterAll (store : Store) (calls : List Call) : Store := calls.foldl after store

theorem after_cases (store : Store) (call : Call) (id : PlayerId) :
    (store.after call).load id = store.load id ∨
      (∃ player, call = .insert player ∧ player.check = .ok () ∧
        (store.after call).load id = .ok { player }) ∨
      ∃ changes table, call = .commit id changes ∧ store.load id = .ok table ∧
        (store.commit id changes).isOk = true ∧ changes.validate table.round? = .ok () ∧
        (store.after call).load id = .ok (changes.apply table) := by
  cases call with
  | insert player =>
    simp only [after]
    split
    · next store' hinsert =>
      obtain ⟨hcheck, -, rfl⟩ := insertPlayer_eq_ok hinsert
      rw [load_insert]
      split
      · exact .inr (.inl ⟨player, rfl, hcheck, rfl⟩)
      · exact .inl rfl
    · exact .inl rfl
  | commit player changes =>
    simp only [after]
    split
    · next store' hcommit =>
      obtain ⟨table, htable, hvalid, rfl⟩ := commit_eq_ok.mp hcommit
      rw [load_insert]
      split
      · next hid =>
        subst hid
        have hload : store.load id = .ok table := load_eq_ok.mpr htable
        exact .inr (.inr ⟨changes, table, rfl, hload, by rw [hcommit]; rfl, hvalid, rfl⟩)
      · exact .inl rfl
    · exact .inl rfl

/-- Whether a commit is let in that leaves the player out and writes a round under which the
player who stays does not fit. -/
def Call.overlooks (store : Store) (id : PlayerId) : Call → Bool
  | .insert _ => false
  | .commit player changes =>
    player = id && (store.commit player changes).isOk && changes.player?.isNone &&
      (store.load id).toOption.any fun table =>
        Changeset.ceilingFor table.player (changes.round.apply table.round?) <
          table.player.bloodPool

/-- Whether any of the calls overlooks the player. -/
def overlooked (id : PlayerId) (store : Store) : List Call → Bool
  | [] => false
  | call :: calls => call.overlooks store id || overlooked id (store.after call) calls

variable {store : Store} {id : PlayerId}

private theorem after_pool_nonneg {call : Call}
    (h : ∀ table, store.load id = .ok table → 0 ≤ table.player.bloodPool) (table : Table)
    (hload : (store.after call).load id = .ok table) : 0 ≤ table.player.bloodPool := by
  obtain hsame | ⟨player, -, hcheck, hnew⟩ | ⟨changes, before, -, hbefore, -, hvalid, hwritten⟩ :=
    store.after_cases call id
  · exact h table (hsame ▸ hload)
  · cases hnew.symm.trans hload
    exact (Player.checkWithin_eq_ok hcheck).1
  · cases hwritten.symm.trans hload
    cases hplayer : changes.player? with
    | none =>
      simp only [Changeset.apply, hplayer, Option.getD_none]
      exact h before hbefore
    | some player => exact (Changeset.apply_fits hvalid (by rw [hplayer]; rfl)).1

private theorem after_fits {call : Call} (hcall : call.overlooks store id = false)
    (h : ∀ table, store.load id = .ok table → table.Fits) (table : Table)
    (hload : (store.after call).load id = .ok table) : table.Fits := by
  obtain hsame | ⟨player, -, hcheck, hnew⟩ |
    ⟨changes, before, rfl, hbefore, hcommit, hvalid, hwritten⟩ := store.after_cases call id
  · exact h table (hsame ▸ hload)
  · cases hnew.symm.trans hload
    exact Player.checkWithin_eq_ok hcheck
  · cases hwritten.symm.trans hload
    cases hplayer : changes.player? with
    | none =>
      simp only [Call.overlooks, hcommit, hplayer, hbefore, Except.toOption, decide_true,
        Bool.true_and, Option.isNone_none, Option.any_some, decide_eq_false_iff_not,
        Int.not_lt] at hcall
      simp only [Table.Fits, Changeset.apply, hplayer, Option.getD_none]
      exact ⟨(h before hbefore).1, hcall⟩
    | some player => exact Changeset.apply_fits hvalid (by rw [hplayer]; rfl)

theorem commit_fits_iff {after : Store} {changes : Changeset} {table : Table}
    (hload : store.load id = .ok table) (hpool : 0 ≤ table.player.bloodPool)
    (h : store.commit id changes = .ok after) :
    ∃ stored, after.load id = .ok stored ∧ (stored.Fits ↔ changes.player?.isSome ∨
      table.player.bloodPool ≤
        Changeset.ceilingFor table.player (changes.round.apply table.round?)) := by
  obtain ⟨found, hfound, hvalid, rfl⟩ := commit_eq_ok.mp h
  cases (load_eq_ok.mpr hfound).symm.trans hload
  refine ⟨changes.apply table, by rw [load_insert, if_pos rfl], ?_⟩
  cases hplayer : changes.player? with
  | none => simp [Table.Fits, Changeset.apply, hplayer, hpool]
  | some player => simp [Changeset.apply_fits hvalid, hplayer]

private theorem afterAll_pool_nonneg (calls : List Call)
    (h : ∀ table, store.load id = .ok table → 0 ≤ table.player.bloodPool) (table : Table)
    (hload : (store.afterAll calls).load id = .ok table) : 0 ≤ table.player.bloodPool := by
  induction calls generalizing store with
  | nil => exact h table hload
  | cons call calls ih => exact ih (after_pool_nonneg h) hload

private theorem fits_of_not_overlooked {calls : List Call}
    (hcalls : overlooked id store calls = false)
    (h : ∀ table, store.load id = .ok table → table.Fits) (table : Table)
    (hload : (store.afterAll calls).load id = .ok table) : table.Fits := by
  induction calls generalizing store with
  | nil => exact h table hload
  | cons call calls ih =>
    obtain ⟨hcall, hcalls⟩ := Bool.or_eq_false_iff.mp hcalls
    exact ih hcalls (after_fits hcall h) hload

/-- Whatever a store has been asked, no stored pool is below zero, and a pool lies above the
ceiling only if a commit has overlooked the player. The next commit leaves a pool that fits if it
writes the player, and else just if the player fits under the round that will be stored. -/
theorem pools_fit (calls : List Call) {table : Table}
    (hload : (empty.afterAll calls).load id = .ok table) :
    0 ≤ table.player.bloodPool ∧
    (overlooked id empty calls = false →
      table.player.bloodPool ≤ Changeset.ceilingFor table.player table.round?) ∧
    ∀ changes after, (empty.afterAll calls).commit id changes = .ok after →
      ∃ stored, after.load id = .ok stored ∧ (stored.Fits ↔ changes.player?.isSome ∨
        table.player.bloodPool ≤
          Changeset.ceilingFor table.player (changes.round.apply table.round?)) := by
  have hnone (found : Table) : empty.load id ≠ .ok found := by simp [load_eq_ok, empty]
  have hpool := afterAll_pool_nonneg calls (fun found h => absurd h (hnone found)) table hload
  refine ⟨hpool, fun hcalls => ?_, fun changes after hcommit => ?_⟩
  · exact (fits_of_not_overlooked hcalls (fun found h => absurd h (hnone found)) table hload).2
  · exact commit_fits_iff hload hpool hcommit

def ada : Player := .ofStarter 1 "Ada" [261, 262, 263] {}

/-- A round with room for that much blood. -/
def roomFor (ceiling : Int) : Round where
  number := 1
  daimon := 1
  daimonPool := 2500
  daimonMaximum := 2500
  ceiling := ceiling
  handsPlayed := 0
  shoe := [261, 262, 263]
  discard := []
  status := .inProgress

/-- A raised ceiling lets the player in, and still does when the player is written again. -/
def raisedCalls : List Call :=
  [.insert ada,
    .commit 1 { player? := some { ada with bloodPool := 6000 }, round := .put (roomFor 6000) },
    .commit 1 { player? := some { ada with bloodPool := 5500 } },
    .commit 1 { player? := some { ada with bloodPool := 5500 }, round := .remove },
    .commit 1 { round := .put (roomFor 7000) }]

theorem pools_fit_raised :
    ∃ table, (empty.afterAll raisedCalls).load 1 = .ok table ∧
      overlooked 1 empty raisedCalls = false ∧ table.player.bloodPool = 5500 ∧
      table.player.bloodPool ≤ Changeset.ceilingFor table.player table.round? := by
  have hstored : ((empty.afterAll raisedCalls).load 1).toOption.any
      (fun table => table.player.bloodPool = 5500) = true := by
    decide +kernel
  obtain ⟨table, hload, hpool⟩ := Service.exists_of_any_toOption hstored
  have hcalls : overlooked 1 empty raisedCalls = false := by decide +kernel
  exact ⟨table, hload, hcalls, of_decide_eq_true hpool, (pools_fit raisedCalls hload).2.1 hcalls⟩

/-- A round that is written alone, with a ceiling below the pool. -/
theorem round_alone_overlooked :
    ∃ table, (empty.afterAll [.insert ada, .commit 1 { round := .put (roomFor 10) }]).load 1 =
        .ok table ∧
      table.player.bloodPool = 5000 ∧
      ¬ table.player.bloodPool ≤ Changeset.ceilingFor table.player table.round? := by
  have hstored : ((empty.afterAll
      [.insert ada, .commit 1 { round := .put (roomFor 10) }]).load 1).toOption.any (fun table =>
        table.player.bloodPool = 5000 &&
          Changeset.ceilingFor table.player table.round? < table.player.bloodPool) = true := by
    decide +kernel
  obtain ⟨table, hload, htable⟩ := Service.exists_of_any_toOption hstored
  simp only [Bool.and_eq_true, decide_eq_true_eq] at htable
  exact ⟨table, hload, htable.1, Int.not_le.mpr htable.2⟩

end Store

end BloodStakes
