import Mathlib.Data.List.Nodup
import BloodStakes.Proofs.Printed
import BloodStakes.Proofs.Updating

/-!
Loadouts. Slots are numbered from 1 in the order in which they were added and are never taken
away, so a number leads to one slot, and what is put there changes no other. Everything that can
be asked of a player or of a session only ever makes such a loadout of such a loadout.
-/
namespace BloodStakes

/-- The slot with `token?` in it, if it is the one numbered `id`. -/
def Slot.given (id : SlotId) (token? : Option TokenId) (slot : Slot) : Slot :=
  if slot.id = id then { slot with token? } else slot

@[simp] theorem Slot.given_id (id : SlotId) (token? : Option TokenId) (slot : Slot) :
    (slot.given id token?).id = slot.id := by
  unfold given
  split <;> rfl

@[simp] theorem Slot.given_slotType (id : SlotId) (token? : Option TokenId) (slot : Slot) :
    (slot.given id token?).slotType = slot.slotType := by
  unfold given
  split <;> rfl

namespace Loadout

/-- The loadout with `token?` in the slots numbered `id`, all others as they are. -/
def given (id : SlotId) (token? : Option TokenId) (loadout : Loadout) : Loadout :=
  ⟨loadout.slots.map (Slot.given id token?)⟩

/-- A slot has the number `id`, and `token` is in no slot with another. -/
structure Admits (loadout : Loadout) (id : SlotId) (token : TokenId) : Prop where
  slot : ∃ slot ∈ loadout.slots, slot.id = id
  free : ∀ slot ∈ loadout.slots, slot.token? = some token → slot.id = id

/-- What calls can make of a full or an empty loadout; one that is refused makes nothing. -/
inductive Reached : Loadout → Prop
  | full : Reached .full
  | empty : Reached {}
  | addSlot {loadout loadout' : Loadout} {slotType : SlotType} {id : SlotId}
      (h : Reached loadout) (hadd : loadout.addSlot slotType = .ok (id, loadout')) :
      Reached loadout'
  | equip {loadout loadout' : Loadout} {id : SlotId} {token : TokenId}
      (h : Reached loadout) (hequip : loadout.equip id token = .ok loadout') : Reached loadout'
  | unequip {loadout loadout' : Loadout} {id : SlotId} {held? : Option TokenId}
      (h : Reached loadout) (hunequip : loadout.unequip id = .ok (held?, loadout')) :
      Reached loadout'

/-- Slots are numbered in order, no type has too many, and no token is in two of them. -/
structure WellFormed (loadout : Loadout) : Prop where
  numbered : loadout.slots.map Slot.id = List.range' 1 loadout.slots.length
  limited : ∀ slotType, loadout.count slotType ≤ slotType.limit
  apart : (loadout.slots.filterMap Slot.token?).Nodup

section
variable {loadout loadout' : Loadout} {id : SlotId} {token : TokenId} {token? : Option TokenId}

theorem WellFormed.ids_nodup (h : loadout.WellFormed) : (loadout.slots.map Slot.id).Nodup :=
  h.numbered ▸ List.nodup_range'

theorem setToken_eq_map {slots : List Slot} (h : (slots.map Slot.id).Nodup) :
    setToken id token? slots = slots.map (Slot.given id token?) := by
  induction slots with
  | nil => rfl
  | cons slot slots ih =>
    obtain ⟨hfirst, hrest⟩ := List.nodup_cons.mp h
    rw [setToken, List.map_cons, Slot.given]
    split
    · next hid =>
      have hothers : ∀ other ∈ slots, other.given id token? = other := by
        intro other hother
        unfold Slot.given
        refine if_neg fun hsame => hfirst ?_
        exact List.mem_map.mpr ⟨other, hother, hsame.trans hid.symm⟩
      rw [List.map_congr_left hothers, List.map_id']
    · rw [ih hrest]

theorem slot?_eq_some_iff (h : (loadout.slots.map Slot.id).Nodup) {slot : Slot} :
    loadout.slot? id = some slot ↔ slot ∈ loadout.slots ∧ slot.id = id := by
  constructor
  · intro hfound
    exact ⟨List.mem_of_find?_eq_some hfound, by simpa using List.find?_some hfound⟩
  · rintro ⟨hmem, hid⟩
    cases hfound : loadout.slot? id with
    | none =>
      have hnone := List.find?_eq_none.mp hfound slot hmem
      simp [hid] at hnone
    | some found =>
      have hmem' := List.mem_of_find?_eq_some hfound
      have hid' : found.id = id := by simpa using List.find?_some hfound
      rw [List.inj_on_of_nodup_map h hmem' hmem (hid'.trans hid.symm)]

theorem equip_eq_ok_iff (h : (loadout.slots.map Slot.id).Nodup) :
    loadout.equip id token = .ok loadout' ↔
      loadout.Admits id token ∧ loadout' = loadout.given id (some token) := by
  unfold equip
  split
  · next other hother =>
    have hmem := List.mem_of_find?_eq_some hother
    have htaken : other.id ≠ id ∧ other.token? = some token := by
      simpa using List.find?_some hother
    refine ⟨nofun, fun ⟨hadmits, _⟩ => ?_⟩
    exact absurd (hadmits.free other hmem htaken.2) htaken.1
  · next hfree =>
    have hfree : ∀ slot ∈ loadout.slots, slot.token? = some token → slot.id = id := by
      intro slot hslot htoken
      by_contra hid
      have hnone := List.find?_eq_none.mp hfree slot hslot
      simp [hid, htoken] at hnone
    cases hslot : loadout.slot? id with
    | none =>
      refine ⟨nofun, fun ⟨hadmits, _⟩ => ?_⟩
      obtain ⟨slot, hmem, hid⟩ := hadmits.slot
      rw [(slot?_eq_some_iff h).mpr ⟨hmem, hid⟩] at hslot
      cases hslot
    | some slot =>
      have hadmits : loadout.Admits id token :=
        ⟨⟨slot, (slot?_eq_some_iff h).mp hslot⟩, hfree⟩
      simp only [Except.ok.injEq, setToken_eq_map h, hadmits, true_and]
      exact eq_comm

theorem unequip_eq_ok_iff (h : (loadout.slots.map Slot.id).Nodup) :
    loadout.unequip id = .ok (token?, loadout') ↔
      (∃ slot ∈ loadout.slots, slot.id = id ∧ slot.token? = token?) ∧
        loadout' = loadout.given id none := by
  unfold unequip
  cases hslot : loadout.slot? id with
  | none =>
    refine ⟨nofun, ?_⟩
    rintro ⟨⟨slot, hmem, hid, -⟩, -⟩
    rw [(slot?_eq_some_iff h).mpr ⟨hmem, hid⟩] at hslot
    cases hslot
  | some slot =>
    obtain ⟨hmem, hid⟩ := (slot?_eq_some_iff h).mp hslot
    simp only [Except.ok.injEq, Prod.mk.injEq, setToken_eq_map h]
    constructor
    · rintro ⟨rfl, rfl⟩
      exact ⟨⟨slot, hmem, hid, rfl⟩, rfl⟩
    · rintro ⟨⟨other, hother, hid', rfl⟩, rfl⟩
      rw [List.inj_on_of_nodup_map h hmem hother (hid.trans hid'.symm)]
      exact ⟨rfl, rfl⟩

private theorem foldl_max_range' (n : Nat) : (List.range' 1 n).foldl max 0 = n := by
  induction n with
  | zero => rfl
  | succ n ih => rw [List.range'_1_concat, List.foldl_append, ih]; simp; omega

theorem WellFormed.nextId_eq (h : loadout.WellFormed) :
    loadout.nextId = loadout.slots.length + 1 := by
  rw [nextId, h.numbered, foldl_max_range']

theorem addSlot_eq_ok_iff {slotType : SlotType} (h : loadout.WellFormed) :
    loadout.addSlot slotType = .ok (id, loadout') ↔
      loadout.count slotType < slotType.limit ∧ id = loadout.slots.length + 1 ∧
        loadout' = ⟨loadout.slots ++ [{ id := id, slotType := slotType }]⟩ := by
  unfold addSlot
  split
  · next hfull => exact ⟨nofun, fun ⟨hroom, _⟩ => absurd hfull (Nat.not_le.mpr hroom)⟩
  · next hroom =>
    simp only [Nat.not_le.mp hroom, true_and, h.nextId_eq, Except.ok.injEq, Prod.mk.injEq]
    constructor
    · rintro ⟨rfl, rfl⟩
      exact ⟨rfl, rfl⟩
    · rintro ⟨rfl, rfl⟩
      exact ⟨rfl, rfl⟩

theorem WellFormed.given (h : loadout.WellFormed)
    (hfree : ∀ slot ∈ loadout.slots, ∀ token, token? = some token →
      slot.token? = some token → slot.id = id) : (loadout.given id token?).WellFormed where
  numbered := by
    simpa [Loadout.given, Function.comp_def] using h.numbered
  limited slotType := by
    simpa [Loadout.given, count, List.countP_map, Function.comp_def] using h.limited slotType
  apart := by
    have hids := List.pairwise_map.mp h.ids_nodup
    have hapart := List.pairwise_filterMap.mp h.apart
    refine List.pairwise_filterMap.mpr (List.pairwise_map.mpr ?_)
    refine (hids.and hapart).imp_of_mem fun {a b} ha hb ⟨hne, hab⟩ held hheld held' hheld' => ?_
    rintro rfl
    unfold Slot.given at hheld hheld'
    split at hheld
    · next hid =>
      rw [if_neg fun hid' => hne (hid.trans hid'.symm)] at hheld'
      exact hne (hid.trans (hfree b hb held hheld hheld').symm)
    · next hid =>
      split at hheld'
      · exact hid (hfree a ha held hheld' hheld)
      · exact hab held hheld held hheld' rfl

theorem WellFormed.addSlot (h : loadout.WellFormed) {slotType : SlotType}
    (hroom : loadout.count slotType < slotType.limit) :
    WellFormed ⟨loadout.slots ++ [{ id := loadout.slots.length + 1, slotType := slotType }]⟩ where
  numbered := by
    rw [List.map_append, h.numbered, List.length_append, List.length_singleton,
      List.range'_1_concat, Nat.add_comm 1]
    rfl
  limited other := by
    have hother := h.limited other
    unfold count at hroom hother ⊢
    rw [List.countP_append, List.countP_singleton]
    split
    · next hsame =>
      have hsame : slotType = other := by simpa using hsame
      rw [← hsame]
      omega
    · exact hother
  apart := by
    simpa using h.apart

theorem Reached.wellFormed (h : loadout.Reached) : loadout.WellFormed := by
  induction h with
  | full => exact ⟨by decide, fun slotType => by cases slotType <;> decide, by decide⟩
  | empty => exact ⟨rfl, fun _ => Nat.zero_le _, List.nodup_nil⟩
  | addSlot _ hadd ih =>
    obtain ⟨hroom, rfl, rfl⟩ := (addSlot_eq_ok_iff ih).mp hadd
    exact ih.addSlot hroom
  | equip _ hequip ih =>
    obtain ⟨hadmits, rfl⟩ := (equip_eq_ok_iff ih.ids_nodup).mp hequip
    exact ih.given fun slot hslot token htoken hheld =>
      hadmits.free slot hslot (hheld.trans htoken.symm)
  | unequip _ hunequip ih =>
    obtain ⟨-, rfl⟩ := (unequip_eq_ok_iff ih.ids_nodup).mp hunequip
    exact ih.given fun _ _ _ => nofun

end

end Loadout

theorem Player.equipToken_eq_ok_iff {player player' : Player} {id : SlotId} {token : TokenId} :
    player.equipToken id token = .ok player' ↔ token ∈ player.tokens ∧
      ∃ loadout, player.loadout.equip id token = .ok loadout ∧
        player' = { player with loadout } := by
  unfold equipToken ownsToken
  simp only [List.contains_iff_mem]
  split
  · next howned =>
    cases player.loadout.equip id token with
    | ok loadout => simp [howned, eq_comm]
    | error e => simp
  · next hforeign => simp [hforeign]

theorem Session.Deed.reached {house : House} {s s' : Session} (h : s.Deed house s')
    (hs : s.table.player.loadout.Reached) : s'.table.player.loadout.Reached := by
  have hkept {t u : Session} (hsame : u.table.bloodless = t.table.bloodless)
      (ht : t.table.player.loadout.Reached) : u.table.player.loadout.Reached := by
    have hloadout : u.table.player.loadout = t.table.player.loadout :=
      congrArg (·.player.loadout) hsame
    rwa [hloadout]
  cases h with
  | blood h => exact hkept h.bloodless.1 hs
  | settle => exact hkept s.settleRound_bloodless hs
  | maximum multiplier hround =>
    unfold scaleCeiling putCeiling
    rw [hround]
    exact hkept (settleRound_bloodless _) hs
  | equipToken hplayer =>
    obtain ⟨-, loadout, hequip, rfl⟩ := Player.equipToken_eq_ok_iff.mp hplayer
    exact hs.equip hequip
  | assignDeck hplayer =>
    obtain ⟨-, rfl⟩ := Player.assignDeck_eq_ok hplayer
    exact hs
  | grantToken token =>
    obtain ⟨tokens, hgrant⟩ := Player.grantToken_cases s.table.player token
    simpa only [grantStoryToken, emit_table, putPlayer_table, hgrant] using hs
  | _ => exact hs

theorem Session.Updates.reached {house : House} {s s' : Session} (h : s.Updates house s')
    (hs : s.table.player.loadout.Reached) : s'.table.player.loadout.Reached := by
  induction h with
  | refl => exact hs
  | tail _ step ih =>
    cases step with
    | deed h => exact h.reached ih
    | openGame => exact ih
    | openRound => exact ih

theorem unprinted_of_ranksOf {cards : List CardId} {e : UnknownCard}
    (h : ranksOf cards = .error e) : e.id ∈ cards ∧ ¬ Face.IsPrinted e.id := by
  induction cards with
  | nil => cases h
  | cons card cards ih =>
    unfold ranksOf at h
    split at h
    · next hface =>
      cases h
      exact ⟨List.mem_cons_self, by simp [Face.IsPrinted, hface]⟩
    · split at h
      · cases h
      · next hrest =>
        obtain ⟨hmem, hunprinted⟩ := ih (hrest.trans h)
        exact ⟨List.mem_cons_of_mem _ hmem, hunprinted⟩

namespace Play

open Session

variable {s : Session}

theorem closeByRound_cases {hand : Hand} (hhand : s.table.hand? = some hand) :
    (∃ status s', closeByRound.run s = .ok status s' ∧ s'.table.player = s.table.player) ∨
      ∃ card ∈ hand.cards, ¬ Face.IsPrinted card ∧
        closeByRound.run s = .error (.unknownCard ⟨card⟩) s := by
  simp only [closeByRound, finishHand, run_bind, run_get, run_hand, hhand, run_ranks]
  cases hplayer : ranksOf hand.playerCards with
  | error e =>
    obtain ⟨hmem, hunprinted⟩ := unprinted_of_ranksOf hplayer
    exact .inr ⟨e.id, List.mem_append_left _ hmem, hunprinted, rfl⟩
  | ok playerRanks =>
    cases hdaimon : ranksOf hand.daimonCards with
    | error e =>
      obtain ⟨hmem, hunprinted⟩ := unprinted_of_ranksOf hdaimon
      exact .inr ⟨e.id, List.mem_append_right _ hmem, hunprinted, rfl⟩
    | ok daimonRanks => exact .inl ⟨_, _, rfl, rfl⟩

/-- What is left of an equip once the token is in its slot during a round. -/
def fireEquipped (house : House) (token : TokenId) (slotType : SlotType) :
    Play (List EffectLog) := do
  let logs ← ofStep fun s => s.fireSlot house.catalog token slotType .onEquip
  let s ← get
  if s.roundTerminal ∧ s.handInProgress then do
    let _ ← closeByRound
    return logs
  else return logs

theorem fireEquipped_cases (house : House) (token : TokenId) (slotType : SlotType) (s : Session) :
    ∃ t, t.table.player.loadout = s.table.player.loadout ∧
      ((∃ logs, (fireEquipped house token slotType).run s = .ok logs t) ∨
        ∃ hand card, s.table.hand? = some hand ∧ hand.isInProgress = true ∧ card ∈ hand.cards ∧
          ¬ Face.IsPrinted card ∧
          (fireEquipped house token slotType).run s = .error (.unknownCard ⟨card⟩) t) := by
  have hflows := fireSlot_flows s house.catalog token slotType .onEquip
  obtain ⟨t, logs, hfired⟩ : ∃ t logs,
      s.fireSlot house.catalog token slotType .onEquip = (t, logs) := ⟨_, _, rfl⟩
  rw [hfired] at hflows
  have hrun : (ofStep fun s => s.fireSlot house.catalog token slotType .onEquip).run s =
      .ok logs t := ofStep_eq_ok.mpr hfired
  have hloadout : t.table.player.loadout = s.table.player.loadout :=
    congrArg (·.player.loadout) hflows.bleeds.bloodless.1
  simp only [fireEquipped, run_bind, hrun, run_get]
  split
  · next hover =>
    obtain ⟨hand, hhand, hopen⟩ := Option.any_eq_true _ _ |>.mp hover.2
    obtain ⟨pot, hbefore⟩ := hflows.bleeds.exists_hand hhand
    rw [run_bind]
    obtain ⟨status, u, hclose, hplayer⟩ | ⟨card, hcard, hunprinted, hclose⟩ :=
      closeByRound_cases hhand
    · rw [hclose]
      exact ⟨u, hplayer ▸ hloadout, .inl ⟨logs, rfl⟩⟩
    · rw [hclose]
      exact ⟨t, hloadout, .inr ⟨_, card, hbefore, hopen, hcard, hunprinted, rfl⟩⟩
  · exact ⟨t, hloadout, .inl ⟨logs, rfl⟩⟩

theorem equipToken_cases (house : House) (slot : SlotId) (token : TokenId) (s : Session) :
    (∃ e, (equipToken house slot token).run s = .error e s ∧
      ((house.catalog.token? token).isSome →
        ∀ player, s.table.player.equipToken slot token ≠ .ok player)) ∨
    (house.catalog.token? token).isSome ∧ ∃ player t,
      s.table.player.equipToken slot token = .ok player ∧
      t.table.player.loadout = player.loadout ∧
      ((∃ logs, (equipToken house slot token).run s = .ok logs t) ∨
        ∃ hand card, s.table.hand? = some hand ∧ hand.isInProgress = true ∧
          card ∈ hand.cards ∧ ¬ Face.IsPrinted card ∧
          (equipToken house slot token).run s = .error (.unknownCard ⟨card⟩) t) := by
  unfold equipToken
  rw [run_bind, run_refuseIf]
  cases hknown : house.catalog.token? token with
  | none => exact .inl ⟨_, rfl, nofun⟩
  | some entry =>
    simp only [Option.isNone_some, Bool.false_eq_true, ↓reduceIte, run_bind, run_get]
    cases hslot : s.table.player.loadout.slot? slot with
    | none =>
      refine .inl ⟨_, rfl, fun _ player hplayer => ?_⟩
      obtain ⟨-, loadout, hequip, -⟩ := Player.equipToken_eq_ok_iff.mp hplayer
      simp only [Loadout.equip, hslot] at hequip
      split at hequip <;> cases hequip
    | some place =>
      simp only [run_bind]
      cases hplayer : s.table.player.equipToken slot token with
      | error e => exact .inl ⟨_, rfl, fun _ _ => nofun⟩
      | ok player =>
        refine .inr ⟨rfl, player, ?_⟩
        simp only [ofExcept, run_pure, run_modify, run_get, true_and]
        split
        · exact fireEquipped_cases house token place.slotType (s.putPlayer player)
        · exact ⟨_, rfl, .inl ⟨_, rfl⟩⟩

end Play

/-- What it takes to place a token during play: it is known, owned, and in no other slot. -/
structure Session.Admits (house : House) (s : Session) (id : SlotId) (token : TokenId) : Prop where
  known : (house.catalog.token? token).isSome = true
  owned : token ∈ s.table.player.tokens
  loadout : s.table.player.loadout.Admits id token

theorem Session.Admits.iff_equipToken {house : House} {s : Session} {id : SlotId}
    {token : TokenId} (h : (s.table.player.loadout.slots.map Slot.id).Nodup) :
    s.Admits house id token ↔ (house.catalog.token? token).isSome = true ∧
      ∃ player, s.table.player.equipToken id token = .ok player := by
  simp only [Player.equipToken_eq_ok_iff, Loadout.equip_eq_ok_iff h]
  constructor
  · exact fun ⟨hknown, howned, hadmits⟩ => ⟨hknown, _, howned, _, ⟨hadmits, rfl⟩, rfl⟩
  · exact fun ⟨hknown, _, howned, _, ⟨hadmits, _⟩, _⟩ => ⟨hknown, howned, hadmits⟩

/-- A loadout that was made by calls from a full or an empty one has distinct numbers, no more
slots of a type than its limit, and no token in two slots. A token is placed exactly if the slot
is there and no other slot holds the token, of which a player also has to be the owner and the
house to know of; then its slot holds it and nothing else is changed. Sessions only ever come to
such loadouts. A play that is refused has placed no token, unless what stops it is a card without
a rank in the hand that the placed token has ended. -/
theorem Loadout.Reached.slots_kept {loadout : Loadout} (h : loadout.Reached) :
    ((loadout.slots.map Slot.id).Nodup ∧
      (∀ slotType, loadout.count slotType ≤ slotType.limit) ∧
      (loadout.slots.filterMap Slot.token?).Nodup) ∧
    (∀ slotType id loadout', loadout.addSlot slotType = .ok (id, loadout') ↔
      loadout.count slotType < slotType.limit ∧ id = loadout.slots.length + 1 ∧
        loadout' = ⟨loadout.slots ++ [{ id := id, slotType := slotType }]⟩) ∧
    (∀ id token loadout', loadout.equip id token = .ok loadout' ↔
      loadout.Admits id token ∧ loadout' = loadout.given id (some token)) ∧
    (∀ id held? loadout', loadout.unequip id = .ok (held?, loadout') ↔
      (∃ slot ∈ loadout.slots, slot.id = id ∧ slot.token? = held?) ∧
        loadout' = loadout.given id none) ∧
    (∀ player : Player, player.loadout = loadout → ∀ id token player',
      player.equipToken id token = .ok player' ↔ token ∈ player.tokens ∧
        loadout.Admits id token ∧
        player' = { player with loadout := loadout.given id (some token) }) ∧
    ∀ (house : House) (s : Session), s.table.player.loadout = loadout →
      (∀ operations, (s.afterAll house operations).table.player.loadout.Reached) ∧
      ∀ id token,
        (¬ s.Admits house id token → ∃ e, (Play.equipToken house id token).run s = .error e s) ∧
        (s.Admits house id token → ∃ s',
          s'.table.player.loadout = loadout.given id (some token) ∧
          ((∃ logs, (Play.equipToken house id token).run s = .ok logs s') ∨
            ∃ hand card, s.table.hand? = some hand ∧ hand.isInProgress = true ∧
              card ∈ hand.cards ∧ ¬ Face.IsPrinted card ∧
              (Play.equipToken house id token).run s = .error (.unknownCard ⟨card⟩) s')) := by
  have hformed := h.wellFormed
  have hids := hformed.ids_nodup
  have hplayer (player : Player) (hloadout : player.loadout = loadout) (id : SlotId)
      (token : TokenId) (player' : Player) : player.equipToken id token = .ok player' ↔
        token ∈ player.tokens ∧ loadout.Admits id token ∧
          player' = { player with loadout := loadout.given id (some token) } := by
    simp only [Player.equipToken_eq_ok_iff, hloadout, equip_eq_ok_iff hids, and_assoc,
      exists_and_left, exists_eq_left]
  refine ⟨⟨hids, hformed.limited, hformed.apart⟩, fun _ _ _ => addSlot_eq_ok_iff hformed,
    fun _ _ _ => equip_eq_ok_iff hids, fun _ _ _ => unequip_eq_ok_iff hids, hplayer, ?_⟩
  rintro house s hloadout
  refine ⟨fun operations => (s.afterAll_updates operations).reached (hloadout ▸ h), ?_⟩
  intro id token
  rw [Session.Admits.iff_equipToken (hloadout ▸ hids)]
  obtain ⟨e, hrun, hrefused⟩ | ⟨hknown, player, t, hequip, ht, hrun⟩ :=
    Play.equipToken_cases house id token s
  · refine ⟨fun _ => ⟨e, hrun⟩, fun ⟨hknown, player, hequip⟩ => ?_⟩
    exact absurd hequip (hrefused hknown player)
  · refine ⟨fun hnot => absurd ⟨hknown, player, hequip⟩ hnot, fun _ => ⟨t, ?_, hrun⟩⟩
    obtain ⟨-, -, rfl⟩ := (hplayer _ hloadout _ _ _).mp hequip
    exact ht

/-- A house with one token, which kills any daimon when it is placed in an inscribed slot. -/
def knellHouse : House where
  catalog := {
    tokens := [{
      id := 5
      name := "Knell"
      rune := "k"
      description := ""
      inscribed := {
        kindId := EffectKind.damageDaimon.id
        bundle := .ofList [(.daimonHealth, ⟨-1, .onEquip⟩)] }
      oathbound := .none
      offering := .none }] }

/-- A hand with one card in a round that the token of the house would end. -/
def knellSession (card : CardId) : Session where
  table := {
    player := {
      id := 1
      username := "Ada"
      bloodPool := 10
      maxBloodPool := 10
      cards := []
      deck := []
      tokens := [5]
      loadout := .full }
    game? := some { roundsPlayed := 1 }
    round? := some {
      number := 1
      daimon := 1
      daimonPool := 8
      daimonMaximum := 10
      ceiling := 10
      handsPlayed := 1
      shoe := []
      discard := []
      status := .inProgress }
    hand? := some { pot := 2, playerCards := [card] } }
  rng := .ofSeed 7

theorem Loadout.Reached.slots_kept_knell :
    (knellSession 261).table.player.loadout.Reached ∧
      (knellSession 261).Admits knellHouse 1 5 ∧
      ∃ s', s'.table.player.loadout = Loadout.full.given 1 (some 5) ∧
        ∃ logs, (Play.equipToken knellHouse 1 5).run (knellSession 261) = .ok logs s' := by
  have hadmits : (knellSession 261).Admits knellHouse 1 5 :=
    ⟨by decide, by decide, ⟨by decide, by decide⟩⟩
  obtain ⟨-, -, -, -, -, hsession⟩ := slots_kept .full
  obtain ⟨s', hloadout, hrun⟩ := ((hsession knellHouse (knellSession 261) rfl).2 1 5).2 hadmits
  refine ⟨.full, hadmits, s', hloadout, hrun.resolve_right ?_⟩
  rintro ⟨hand, card, ⟨⟩, -, hcard, hunprinted, -⟩
  cases List.mem_singleton.mp hcard
  exact hunprinted (by decide)

/-- A token that is not owned is refused though no slot holds it. With a card without a rank in
the hand, the token is placed and the play is refused. -/
theorem Play.equipToken_placed_and_refused :
    (Loadout.full.Admits 2 6 ∧
      (knellSession 999).table.player.equipToken 2 6 = .error (.notOwned 6)) ∧
    ∃ s', (Play.equipToken knellHouse 1 5).run (knellSession 999) =
        .error (.unknownCard ⟨999⟩) s' ∧
      s'.table.player.loadout ≠ (knellSession 999).table.player.loadout := by
  refine ⟨⟨⟨by decide, by decide⟩, by decide⟩, ?_⟩
  have hrun : (match (Play.equipToken knellHouse 1 5).run (knellSession 999) with
      | .ok _ _ => false
      | .error e s' => e = .unknownCard ⟨999⟩ ∧
        s'.table.player.loadout ≠ (knellSession 999).table.player.loadout) = true := by
    decide +kernel
  split at hrun
  · cases hrun
  · next e s' herror =>
    obtain ⟨rfl, hloadout⟩ := of_decide_eq_true hrun
    exact ⟨s', herror, hloadout⟩

end BloodStakes
