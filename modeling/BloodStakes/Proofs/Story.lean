import Mathlib.Data.List.Nodup
import Mathlib.Data.List.Pairwise
import BloodStakes.Catalog.Validation
import BloodStakes.Proofs.Ledger

/-!
The story of a player. In a catalog that has been validated the story has one token for each of
its places at most, so what a player owns is what the story has granted so far, place by place.
-/
namespace BloodStakes

/-- Two tokens that neither share an id nor a place in the story. -/
structure Token.Apart (a b : Token) : Prop where
  id : a.id ≠ b.id
  sequence : ∀ n, a.storySequence? = some n → b.storySequence? ≠ some n

instance : Std.Symm Token.Apart where
  symm _ _ h := ⟨h.id.symm, fun n hb ha => h.sequence n ha hb⟩

namespace Catalog

private theorem pairwise_of_firstFault? {α : Type} {fault? : List α → α → Option CatalogFault}
    {R : α → α → Prop}
    (hfault : ∀ before entry, fault? before entry = none → ∀ earlier ∈ before, R earlier entry)
    {before entries : List α} (h : firstFault? fault? before entries = none) :
    (∀ earlier ∈ before, ∀ entry ∈ entries, R earlier entry) ∧ entries.Pairwise R := by
  induction entries generalizing before with
  | nil => exact ⟨fun _ _ _ hentry => absurd hentry List.not_mem_nil, .nil⟩
  | cons entry entries ih =>
    unfold firstFault? at h
    split at h
    · cases h
    · next hentry =>
      obtain ⟨hlater, hpairwise⟩ := ih h
      refine ⟨fun earlier hearlier => List.forall_mem_cons.mpr ⟨?_, ?_⟩, .cons ?_ hpairwise⟩
      · exact hfault before entry hentry earlier hearlier
      · exact hlater earlier (List.mem_append_left _ hearlier)
      · exact hlater entry (List.mem_append_right _ (List.mem_singleton.mpr rfl))

private theorem apart_of_tokenFault? {before : List Token} {token : Token}
    (h : tokenFault? before token = none) : ∀ earlier ∈ before, earlier.Apart token := by
  intro earlier hearlier
  unfold tokenFault? at h
  split at h
  · cases h
  · next hid =>
    split at h
    · cases h
    · split at h
      · cases h
      · refine ⟨fun hsame => hid (List.any_eq_true.mpr ⟨earlier, hearlier, by simpa using hsame⟩), ?_⟩
        intro n hbefore htoken
        rw [htoken] at h
        dsimp only at h
        split at h
        · cases h
        · next hsequence =>
          exact hsequence (List.any_eq_true.mpr ⟨earlier, hearlier, by simpa using hbefore⟩)

variable {catalog : Catalog}

theorem tokens_apart (h : catalog.validate = .ok ()) : catalog.tokens.Pairwise Token.Apart := by
  have hfault : catalog.fault? = none := by
    unfold validate at h
    split at h
    · cases h
    · assumption
  unfold fault? at hfault
  split at hfault
  · cases hfault
  · split at hfault
    · exact (pairwise_of_firstFault? (fun _ _ h => apart_of_tokenFault? h) hfault).2
    · cases hfault

theorem token_eq_of_id (h : catalog.validate = .ok ()) {a b : Token} (ha : a ∈ catalog.tokens)
    (hb : b ∈ catalog.tokens) (hid : a.id = b.id) : a = b := by
  by_contra hne
  exact ((tokens_apart h).forall ha hb hne).id hid

theorem storyToken?_eq_some_iff (h : catalog.validate = .ok ()) {n : Nat} {token : Token} :
    catalog.storyToken? n = some token ↔
      token ∈ catalog.tokens ∧ token.storySequence? = some n := by
  constructor
  · intro hfound
    exact ⟨List.mem_of_find?_eq_some hfound, by simpa using List.find?_some hfound⟩
  · rintro ⟨hmem, hsequence⟩
    cases hfound : catalog.storyToken? n with
    | none =>
      have hnone := List.find?_eq_none.mp hfound token hmem
      simp [hsequence] at hnone
    | some found =>
      have hmem' := List.mem_of_find?_eq_some hfound
      have hsequence' : found.storySequence? = some n := by simpa using List.find?_some hfound
      congr 1
      by_contra hne
      exact ((tokens_apart h).forall hmem' hmem hne).sequence n hsequence' hsequence

/-- The ids of the tokens the story grants before a place, each place that has none as `none`. -/
def storyBefore (catalog : Catalog) (n : Nat) : List (Option TokenId) :=
  (List.range n).map fun i => (catalog.storyToken? i).map Token.id

theorem storyBefore_succ (n : Nat) : catalog.storyBefore (n + 1) =
    catalog.storyBefore n ++ [(catalog.storyToken? n).map Token.id] := by
  simp [storyBefore, List.range_succ]

theorem storyToken?_inj (h : catalog.validate = .ok ()) {i j : Nat} {id : TokenId}
    (hi : (catalog.storyToken? i).map Token.id = some id)
    (hj : (catalog.storyToken? j).map Token.id = some id) : i = j := by
  obtain ⟨a, ha, hid⟩ := Option.map_eq_some_iff.mp hi
  obtain ⟨b, hb, hid'⟩ := Option.map_eq_some_iff.mp hj
  obtain ⟨hmem, hsequence⟩ := (storyToken?_eq_some_iff h).mp ha
  obtain ⟨hmem', hsequence'⟩ := (storyToken?_eq_some_iff h).mp hb
  cases token_eq_of_id h hmem hmem' (hid.trans hid'.symm)
  exact Option.some.inj (hsequence.symm.trans hsequence')

end Catalog

namespace Player

/-- The player owns the tokens of the story up to where the player stands in it. -/
def FollowsStory (catalog : Catalog) (player : Player) : Prop :=
  player.tokens.map some = catalog.storyBefore player.storyProgression

/-- What sits in a slot is owned. -/
def OwnsEquipped (player : Player) : Prop :=
  ∀ slot ∈ player.loadout.slots, ∀ token, slot.token? = some token → token ∈ player.tokens

variable {catalog : Catalog} {player : Player}

theorem FollowsStory.length_eq (h : player.FollowsStory catalog) :
    player.tokens.length = player.storyProgression := by
  have hlength := congrArg List.length h
  simpa [Catalog.storyBefore] using hlength

theorem FollowsStory.getElem?_eq_some_iff (h : player.FollowsStory catalog)
    (hvalid : catalog.validate = .ok ()) {n : Nat} {id : TokenId} :
    player.tokens[n]? = some id ↔ n < player.storyProgression ∧
      ∃ token ∈ catalog.tokens, token.storySequence? = some n ∧ token.id = id := by
  rcases Nat.lt_or_ge n player.storyProgression with hlt | hge
  · have hplace : player.tokens[n]?.map some = some ((catalog.storyToken? n).map Token.id) := by
      rw [← List.getElem?_map, show player.tokens.map some = _ from h]
      simp [Catalog.storyBefore, List.getElem?_range hlt]
    obtain ⟨owned, howned, hid⟩ := Option.map_eq_some_iff.mp hplace
    simp only [howned, hlt, true_and, Option.some.injEq]
    rw [← Option.some.injEq, hid, Option.map_eq_some_iff]
    simp only [Catalog.storyToken?_eq_some_iff hvalid, and_assoc]
  · have hnone : player.tokens[n]? = none := List.getElem?_eq_none (h.length_eq ▸ hge)
    simp [hnone, Nat.not_lt.mpr hge]

theorem FollowsStory.nodup (h : player.FollowsStory catalog) (hvalid : catalog.validate = .ok ()) :
    player.tokens.Nodup := by
  apply List.Nodup.of_map some
  have hfollows : player.tokens.map some = catalog.storyBefore player.storyProgression := h
  rw [hfollows]
  refine List.Nodup.map_on ?_ List.nodup_range
  intro i hi j hj hsame
  have hsome : (catalog.storyToken? i).map Token.id ∈ player.tokens.map some :=
    hfollows ▸ List.mem_map_of_mem hi
  obtain ⟨id, -, hid⟩ := List.mem_map.mp hsome
  exact Catalog.storyToken?_inj hvalid hid.symm (hsame.symm.trans hid.symm)

theorem FollowsStory.not_mem (h : player.FollowsStory catalog) (hvalid : catalog.validate = .ok ())
    {token : Token} (htoken : catalog.storyToken? player.storyProgression = some token) :
    token.id ∉ player.tokens := by
  intro hmem
  have hfollows : player.tokens.map some = catalog.storyBefore player.storyProgression := h
  have hsome : some token.id ∈ catalog.storyBefore player.storyProgression :=
    hfollows ▸ List.mem_map_of_mem hmem
  obtain ⟨i, hi, hid⟩ := List.mem_map.mp hsome
  have hsame := Catalog.storyToken?_inj hvalid hid (by rw [htoken]; rfl)
  exact absurd (List.mem_range.mp hi) (by omega)

theorem FollowsStory.granted (h : player.FollowsStory catalog) (hvalid : catalog.validate = .ok ())
    {token : Token} (htoken : catalog.storyToken? player.storyProgression = some token) :
    player.grantToken token.id = { player with tokens := player.tokens ++ [token.id] } ∧
      (player.tokens ++ [token.id]).map some =
        catalog.storyBefore (player.storyProgression + 1) := by
  have hnew := h.not_mem hvalid htoken
  have hfollows : player.tokens.map some = catalog.storyBefore player.storyProgression := h
  refine ⟨?_, ?_⟩
  · simp [grantToken, ownsToken, hnew]
  · rw [Catalog.storyBefore_succ, htoken, List.map_append, hfollows]
    rfl

end Player

theorem Loadout.mem_setToken {id : SlotId} {token? : Option TokenId} {slots : List Slot}
    {slot : Slot} (h : slot ∈ setToken id token? slots) : slot ∈ slots ∨ slot.token? = token? := by
  induction slots with
  | nil => exact .inl h
  | cons first slots ih =>
    unfold setToken at h
    split at h
    · obtain rfl | h := List.mem_cons.mp h
      · exact .inr rfl
      · exact .inl (List.mem_cons_of_mem _ h)
    · obtain rfl | h := List.mem_cons.mp h
      · exact .inl List.mem_cons_self
      · exact (ih h).imp_left (List.mem_cons_of_mem _)

theorem Loadout.full_empty : ∀ slot ∈ Loadout.full.slots, slot.token? = none := by decide

theorem Player.equipToken_owned {player player' : Player} {slot : SlotId} {token : TokenId}
    (h : player.equipToken slot token = .ok player') :
    token ∈ player.tokens ∧ player'.loadout.slots =
      Loadout.setToken slot (some token) player.loadout.slots := by
  unfold equipToken at h
  split at h
  · next howned =>
    refine ⟨by simpa [ownsToken] using howned, ?_⟩
    split at h
    · next loadout hequip =>
      cases h
      unfold Loadout.equip at hequip
      split at hequip
      · cases hequip
      · split at hequip
        · cases hequip
        · cases hequip
          rfl
    · cases h
  · cases h

theorem Player.OwnsEquipped.equipToken {player player' : Player} {slot : SlotId} {token : TokenId}
    (hs : player.OwnsEquipped) (h : player.equipToken slot token = .ok player') :
    player'.OwnsEquipped := by
  obtain ⟨howned, hslots⟩ := equipToken_owned h
  obtain ⟨loadout, rfl⟩ := equipToken_eq_ok h
  intro other hother held hheld
  rw [hslots] at hother
  obtain hbefore | hset := Loadout.mem_setToken hother
  · exact hs other hbefore held hheld
  · cases hset.symm.trans hheld
    exact howned

/-- The tokens of a player, and how far the story has come. -/
def Player.possessions (player : Player) : List TokenId × Nat × Loadout :=
  (player.tokens, player.storyProgression, player.loadout)

def Table.rewardClaimed? (t : Table) : Option Bool := t.round?.map Round.rewardClaimed

section
variable {house : House} {s s' t : Session} {request : Request}

theorem Session.possessions_of_steady (h : s'.table.steady = s.table.steady) :
    s'.table.player.possessions = s.table.player.possessions ∧
      s'.table.rewardClaimed? = s.table.rewardClaimed? := by
  have hplayer := congrArg (fun t : Table => t.player.possessions) h
  have hround := congrArg (fun t : Table => t.round?.map Round.rewardClaimed) h
  refine ⟨hplayer, ?_⟩
  simpa [Table.steady, Table.rewardClaimed?, Function.comp_def] using hround

theorem Session.Concludes.possessions (h : s.Concludes s') :
    s'.table.player.possessions = s.table.player.possessions ∧
      s'.table.rewardClaimed? = s.table.rewardClaimed? := by
  obtain ⟨t, status, hplay, -, hclose⟩ := h.closes
  obtain ⟨hplayer, hround⟩ := Session.possessions_of_steady hplay.steady
  cases hclose with
  | intro hhand hplayerRanks hdaimonRanks =>
    refine ⟨hplayer, ?_⟩
    rw [← hround]
    simp [Table.rewardClaimed?, closeHand, Function.comp_def]

/-- Only putting a token into a slot changes what a player has. -/
def Player.Rearranges (player player' : Player) : Prop :=
  player'.possessions = player.possessions ∨
    ∃ slot token placed, player.equipToken slot token = .ok placed ∧
      player'.possessions = placed.possessions

theorem Enters.possessions (h : Enters house s request t) :
    s.table.player.Rearranges t.table.player ∧
      t.table.rewardClaimed? = s.table.rewardClaimed? := by
  cases h with
  | startHand hround hopen hidle hstake =>
    refine ⟨.inl rfl, ?_⟩
    unfold Table.rewardClaimed?
    rw [hround]
    rfl
  | move hmove hround hhand => exact ⟨.inl rfl, rfl⟩
  | equipToken hplayer hround hhand => exact ⟨.inr ⟨_, _, _, hplayer, rfl⟩, rfl⟩

theorem Player.Rearranges.congr {player player' last : Player} (h : player.Rearranges player')
    (hsame : last.possessions = player'.possessions) : player.Rearranges last := by
  unfold Rearranges at h ⊢
  rwa [hsame]

/-- No request but a claim changes what has been granted, and whether the reward of a round has
been claimed, while the round is on the table. -/
theorem Transition.possessions (h : Transition house s request s')
    (hclaim : request ≠ .claimStoryToken) :
    s.table.player.Rearranges s'.table.player ∧
      (request = .startGame ∧ s'.table.rewardClaimed? = none ∨
        request = .startRound ∧ s'.table.rewardClaimed? = some false ∨
        request ≠ .startGame ∧ request ≠ .startRound ∧
          s'.table.rewardClaimed? = s.table.rewardClaimed?) := by
  cases h with
  | startGame hidle => exact ⟨.inl rfl, .inl ⟨rfl, rfl⟩⟩
  | startRound hidle hgame hopen hdaimon ht hround hshoe hfire =>
    obtain ⟨hplayer, hreward⟩ := Session.possessions_of_steady hfire.bleeds.steady
    rw [ht] at hround
    cases hround
    rw [ht] at hplayer
    exact ⟨.inl hplayer, .inr (.inl ⟨rfl, hreward⟩)⟩
  | closed henter hbegin h =>
    obtain ⟨hplayer, hreward⟩ := henter.possessions
    obtain ⟨hplayer', hreward'⟩ := Session.possessions_of_steady hbegin.bleeds.steady
    obtain ⟨hplayer'', hreward''⟩ := h.possessions
    obtain ⟨hgame, hround⟩ := henter.ne_opening
    exact ⟨hplayer.congr (hplayer''.trans hplayer'),
      .inr (.inr ⟨hgame, hround, hreward''.trans (hreward'.trans hreward)⟩)⟩
  | opened henter hbegin hgoing hdeal =>
    have hplay := henter.playsOn_opened hbegin hgoing hdeal
    obtain ⟨hplayer, hreward⟩ := henter.possessions
    obtain ⟨hplayer', hreward'⟩ :=
      Session.possessions_of_steady (hplay.steady.trans hbegin.bleeds.steady)
    exact ⟨hplayer.congr hplayer', .inr (.inr ⟨nofun, nofun, hreward'.trans hreward⟩)⟩
  | drawn henter hdeal hhand hranks hbust hfire hgoing =>
    have hplay := henter.playsOn_drawn hdeal hfire
    obtain ⟨hplayer, hreward⟩ := Session.possessions_of_steady hplay.steady
    exact ⟨.inl hplayer, .inr (.inr ⟨nofun, nofun, hreward⟩)⟩
  | equipped hplayer hfire hidle hgoing =>
    obtain ⟨hplayer', hreward⟩ := Session.possessions_of_steady hfire.bleeds.steady
    exact ⟨.inr ⟨_, _, _, hplayer, hplayer'⟩, .inr (.inr ⟨nofun, nofun, hreward⟩)⟩
  | deckAssigned hranks hplayer =>
    obtain ⟨-, rfl⟩ := Player.assignDeck_eq_ok hplayer
    exact ⟨.inl rfl, .inr (.inr ⟨nofun, nofun, rfl⟩)⟩
  | rewardClaimed => exact absurd rfl hclaim

theorem Player.Rearranges.keeps {catalog : Catalog} {player player' : Player}
    (h : player.Rearranges player') (hfollows : player.FollowsStory catalog)
    (howned : player.OwnsEquipped) :
    player'.FollowsStory catalog ∧ player'.OwnsEquipped ∧
      player'.storyProgression = player.storyProgression := by
  have hkept {last : Player} (hsame : player'.possessions = last.possessions)
      (hfollows : last.FollowsStory catalog) (howned : last.OwnsEquipped) :
      player'.FollowsStory catalog ∧ player'.OwnsEquipped ∧
        player'.storyProgression = last.storyProgression := by
    simp only [possessions, Prod.mk.injEq] at hsame
    obtain ⟨htokens, hprogression, hloadout⟩ := hsame
    unfold FollowsStory OwnsEquipped
    rw [htokens, hprogression, hloadout]
    exact ⟨hfollows, howned, rfl⟩
  obtain hsame | ⟨slot, token, placed, hplaced, hsame⟩ := h
  · exact hkept hsame hfollows howned
  · have howned' := howned.equipToken hplaced
    obtain ⟨loadout, hloadout⟩ := Player.equipToken_eq_ok hplaced
    have hfollows' : placed.FollowsStory catalog := by
      rw [hloadout]
      exact hfollows
    have hsame' : placed.storyProgression = player.storyProgression := by rw [hloadout]
    obtain ⟨hfollows, howned, hprogression⟩ := hkept hsame hfollows' howned'
    exact ⟨hfollows, howned, hprogression.trans hsame'⟩

end

/-- The token that was claimed, if any. -/
def Grant.claim? (grant : Grant) : Option TokenId :=
  match grant.request, grant.report.reply with
  | .claimStoryToken, .token token? => token?
  | _, _ => none

/-- The tokens that were claimed, the latest first. -/
def claimsOf (grants : List Grant) : List TokenId := grants.filterMap Grant.claim?

theorem claimsOf_cons (grant : Grant) (grants : List Grant) :
    claimsOf (grant :: grants) = grant.claim?.toList ++ claimsOf grants := by
  unfold claimsOf
  cases h : grant.claim? <;> simp [h]

/-- A token is claimed in a round that has been won, and is one step of the story. -/
def Grant.Progresses (grant : Grant) : Prop :=
  ∀ token, grant.claim? = some token →
    (∃ round, grant.before.round? = some round ∧ round.status = .won ∧
      round.rewardClaimed = false) ∧
    grant.report.table.player.storyProgression = grant.before.player.storyProgression + 1

/-- How a player stands in the story, after everything granted so far. -/
structure Story (house : House) (history : List Grant) (t : Table) : Prop where
  follows : t.player.FollowsStory house.catalog
  owned : t.player.OwnsEquipped
  won : ∀ round, t.round? = some round → round.rewardClaimed = true → round.status = .won
  once : ∀ earlier, earlier <:+ history → (claimsOf (currentRound earlier)).length ≤ 1
  unclaimed : ∀ round, t.round? = some round → round.rewardClaimed = false →
    claimsOf (currentRound history) = []
  progresses : ∀ grant ∈ history, grant.Progresses

theorem Player.ofStarter_possessions (id : PlayerId) (username : String) (isGuest : Bool)
    (starter : List CardId) (rules : Rules) :
    { ofStarter id username starter rules with isGuest }.possessions = ([], 0, .full) := rfl

private theorem story_new {house : House} {player : Player} (h : player.IsNew house.rules) :
    Story house [] { player } := by
  have hpossessions : player.possessions = ([], 0, .full) := by
    obtain ⟨id, username, isGuest, rfl⟩ := h
    exact Player.ofStarter_possessions _ _ _ _ _
  simp only [Player.possessions, Prod.mk.injEq] at hpossessions
  obtain ⟨htokens, hprogression, hloadout⟩ := hpossessions
  refine ⟨?_, fun slot hslot token htoken => ?_, nofun, fun earlier hearlier => ?_, nofun,
    List.forall_mem_nil _⟩
  · simp [Player.FollowsStory, htokens, hprogression, Catalog.storyBefore]
  · rw [hloadout] at hslot
    cases (Loadout.full_empty slot hslot).symm.trans htoken
  · rw [List.suffix_nil.mp hearlier]
    exact Nat.zero_le 1

section
variable {house : House} {history : List Grant} {grant : Grant}

theorem Story.once_cons (hs : Story house history grant.before)
    (h : (claimsOf (currentRound (grant :: history))).length ≤ 1) :
    ∀ earlier, earlier <:+ grant :: history → (claimsOf (currentRound earlier)).length ≤ 1 := by
  intro earlier hearlier
  obtain rfl | hearlier := List.suffix_cons_iff.mp hearlier
  · exact h
  · exact hs.once earlier hearlier

theorem Story.claimed (hvalid : house.catalog.validate = .ok ()) {rng : Rng} {s' : Session}
    {token? : Option TokenId} (hs : Story house history grant.before)
    (hrequest : grant.request = .claimStoryToken)
    (hrun : (Play.claimStoryToken house.catalog).run { table := grant.before, rng } =
      .ok token? s')
    (hreply : grant.report.reply = .token token?) (htable : grant.report.table = s'.table) :
    Story house (grant :: history) grant.report.table := by
  have hclaim : grant.claim? = token? := by simp [Grant.claim?, hrequest, hreply]
  obtain ⟨round, hround, hwon, hunclaimed, hcases⟩ := Play.claimStoryToken_cases hrun
  -- so far nothing has been claimed in this round
  have hclaims : claimsOf (currentRound (grant :: history)) = token?.toList := by
    rw [currentRound_cons (by rw [hrequest]; nofun), claimsOf_cons, hclaim,
      hs.unclaimed round hround hunclaimed, List.append_nil]
  have hround' : grant.report.table.round? = some { round with rewardClaimed := true } := by
    rw [htable]
    obtain ⟨-, rfl⟩ | ⟨token, -, -, rfl⟩ := hcases <;> rfl
  have hplayer : grant.report.table.player.FollowsStory house.catalog ∧
      grant.report.table.player.OwnsEquipped ∧
      ∀ token, token? = some token → grant.report.table.player.storyProgression =
        grant.before.player.storyProgression + 1 := by
    rw [htable]
    obtain ⟨rfl, rfl⟩ | ⟨token, htoken, rfl, rfl⟩ := hcases
    · exact ⟨hs.follows, hs.owned, nofun⟩
    · obtain ⟨hgrant, hfollows⟩ := hs.follows.granted hvalid htoken
      simp only [Session.grantStoryToken, Session.emit_table, Session.putPlayer_table,
        Session.putRound_table, hgrant]
      refine ⟨hfollows, fun slot hslot held hheld => ?_, fun _ _ => trivial⟩
      exact List.mem_append_left _ (hs.owned slot hslot held hheld)
  obtain ⟨hfollows, howned, hprogression⟩ := hplayer
  refine ⟨hfollows, howned, ?_, ?_, ?_, List.forall_mem_cons.mpr ⟨?_, hs.progresses⟩⟩
  · intro last hlast _
    cases hround'.symm.trans hlast
    exact hwon
  · exact hs.once_cons (hclaims ▸ Option.length_toList_le)
  · intro last hlast hlater
    cases hround'.symm.trans hlast
    cases hlater
  · intro token htoken
    rw [hclaim] at htoken
    exact ⟨⟨round, hround, hwon, hunclaimed⟩, hprogression token htoken⟩

theorem Story.kept {rng : Rng} {s' : Session} (hs : Story house history grant.before)
    (h : Transition house { table := grant.before, rng } grant.request s')
    (hclaim : grant.request ≠ .claimStoryToken) (htable : grant.report.table = s'.table) :
    Story house (grant :: history) grant.report.table := by
  have hnone : grant.claim? = none := by
    unfold Grant.claim?
    split
    · next hrequest _ => exact absurd hrequest hclaim
    · rfl
  obtain ⟨hplayer, hreward⟩ := h.possessions hclaim
  obtain ⟨hfollows, howned, -⟩ := hplayer.keeps hs.follows hs.owned
  have hprogresses : ∀ last ∈ grant :: history, last.Progresses := by
    refine List.forall_mem_cons.mpr ⟨fun token htoken => ?_, hs.progresses⟩
    rw [hnone] at htoken
    cases htoken
  have hsame (hround : grant.request ≠ .startRound) :
      claimsOf (currentRound (grant :: history)) = claimsOf (currentRound history) := by
    rw [currentRound_cons hround, claimsOf_cons, hnone]
    rfl
  have hclaimed (round : Round) (hround : s'.table.round? = some round) :
      s'.table.rewardClaimed? = some round.rewardClaimed := by
    simp [Table.rewardClaimed?, hround]
  rw [htable]
  obtain ⟨hgame, hreward⟩ | ⟨hround, hreward⟩ | ⟨hgame, hround, hreward⟩ := hreward
  · -- no round is left on the table
    have hnone (round : Round) : s'.table.round? ≠ some round := by
      intro hround
      cases hreward.symm.trans (hclaimed round hround)
    have honce := hsame (by rw [hgame]; nofun) ▸ hs.once history List.suffix_rfl
    exact ⟨hfollows, howned, fun round hround => absurd hround (hnone round),
      hs.once_cons honce, fun round hround => absurd hround (hnone round), hprogresses⟩
  · have hnone : claimsOf (currentRound (grant :: history)) = [] := by
      rw [currentRound_startRound hround]
      rfl
    have honce := hs.once_cons (by rw [hnone]; exact Nat.zero_le 1)
    refine ⟨hfollows, howned, fun round hround hlater => ?_, honce, fun _ _ _ => hnone, hprogresses⟩
    have hreward := Option.some.inj (hreward.symm.trans (hclaimed round hround))
    rw [hlater] at hreward
    cases hreward
  · have hbefore (round : Round) (hround : s'.table.round? = some round) :
        ∃ before, grant.before.round? = some before ∧
          before.rewardClaimed = round.rewardClaimed :=
      Option.map_eq_some_iff.mp (hreward.symm.trans (hclaimed round hround))
    have honce := hs.once_cons (hsame hround ▸ hs.once history List.suffix_rfl)
    refine ⟨hfollows, howned, fun round hafter hlater => ?_, honce, fun round hafter hlater => ?_,
      hprogresses⟩
    · -- a round that was won is over, so it stays won
      obtain ⟨before, hbefore, hsame⟩ := hbefore round hafter
      have hwon := hs.won before hbefore (hsame.trans hlater)
      obtain hstanding | ⟨_, -, hopen, -⟩ := h.advances hgame hround
      · have hstatus := congrArg Standing.round? hstanding
        simpa [Table.standing, hafter, hbefore, hwon] using hstatus
      · simp [Table.standing, hbefore, hwon] at hopen
    · obtain ⟨before, hbefore, hreward⟩ := hbefore round hafter
      rw [hsame hround]
      exact hs.unclaimed before hbefore (hreward.trans hlater)

theorem Grant.Holds.story (hvalid : house.catalog.validate = .ok ()) (h : grant.Holds house)
    (hs : Story house history grant.before) :
    Story house (grant :: history) grant.report.table := by
  obtain ⟨rng, s', hrun, htable, -⟩ := h
  by_cases hclaim : grant.request = .claimStoryToken
  · rw [hclaim] at hrun
    obtain ⟨token?, hrun, hreply⟩ := Play.bind_pure_eq_ok.mp hrun
    exact hs.claimed hvalid hclaim hrun hreply.symm htable
  · exact hs.kept (Play.request_transition hrun) hclaim htable

end

/-- In every run on a validated catalog a player owns the tokens of the story up to where the
player stands in it, each at its place and none twice, and only these sit in the player's slots.
Every token was claimed in a round that had been won, at most one of them in any round, and took
the story one place further; a round whose reward has been claimed has been won. -/
theorem Service.Run.story_gapless {house : House} (hvalid : house.catalog.validate = .ok ())
    {service : Service} {log : List Grant} (h : service.Run house log) {player : PlayerId}
    {table : Table} (hload : service.store.load player = .ok table) :
    (table.player.tokens.length = table.player.storyProgression ∧
      table.player.tokens.Nodup ∧
      ∀ n id, table.player.tokens[n]? = some id ↔ n < table.player.storyProgression ∧
        ∃ token ∈ house.catalog.tokens, token.storySequence? = some n ∧ token.id = id) ∧
    (∀ grant ∈ historyOf player log, grant.Progresses) ∧
    (∀ earlier, earlier <:+ historyOf player log →
      (claimsOf (currentRound earlier)).length ≤ 1) ∧
    (∀ round, table.round? = some round → round.rewardClaimed = true → round.status = .won) ∧
    ∀ slot ∈ table.player.loadout.slots, ∀ token, slot.token? = some token →
      token ∈ table.player.tokens := by
  have hstory : Story house (historyOf player log) table := by
    refine Run.holds (fun player hnew => story_new hnew) ?_ h hload
    exact fun _ _ hbefore hgrant => hgrant.story hvalid hbefore
  have hfollows := hstory.follows
  exact ⟨⟨hfollows.length_eq, hfollows.nodup hvalid,
    fun _ _ => hfollows.getElem?_eq_some_iff hvalid⟩, hstory.progresses, hstory.once, hstory.won,
    hstory.owned⟩

namespace Service

/-- The small house with one token in its story. -/
def storyHouse : House :=
  { smallHouse with
    catalog.tokens := [{
      id := 5
      name := "Bell"
      rune := "b"
      description := ""
      storySequence? := some 0
      inscribed := .none
      oathbound := .none
      offering := .none }] }

/-- The first hand wins the round; the token of the story is claimed and equipped. -/
def storyRun : Service × List Grant :=
  [.startGame, .startRound, .startHand, .claimStoryToken, .equipToken 1 5].foldl (record 1)
    ((createPlayer { house := storyHouse, seed := 7 } "Ada").2, [])

private theorem storyRun_run : storyRun.1.Run storyHouse storyRun.2 :=
  Run.recordAll (.playerCreated (.opened 7 0 1) "Ada") 1 _

theorem Run.story_gapless_storyRun :
    storyHouse.catalog.validate = .ok () ∧
      ∃ table, storyRun.1.store.load 1 = .ok table ∧ table.player.storyProgression = 1 ∧
        claimsOf (currentRound (historyOf 1 storyRun.2)) = [5] ∧
        table.player.tokens.length = 1 ∧ table.player.tokens[0]? = some 5 ∧
        ∀ grant ∈ historyOf 1 storyRun.2, grant.Progresses := by
  have hvalid : storyHouse.catalog.validate = .ok () := by decide +kernel
  have hstored : (storyRun.1.store.load 1).toOption.any
      (fun table => table.player.storyProgression = 1) = true := by
    decide +kernel
  have hclaims : claimsOf (currentRound (historyOf 1 storyRun.2)) = [5] := by decide +kernel
  obtain ⟨table, hload, hprogression⟩ := exists_of_any_toOption hstored
  have hprogression : table.player.storyProgression = 1 := by simpa using hprogression
  obtain ⟨⟨hlength, -, hplaces⟩, hprogresses, -⟩ := story_gapless hvalid storyRun_run hload
  rw [hprogression] at hlength
  have hfirst := (hplaces 0 5).mpr ⟨by omega, _, List.mem_singleton.mpr rfl, rfl, rfl⟩
  exact ⟨hvalid, table, hload, hprogression, hclaims, hlength, hfirst, hprogresses⟩

end Service

end BloodStakes
