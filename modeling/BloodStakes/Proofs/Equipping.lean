import BloodStakes.Proofs.Firing
import BloodStakes.Proofs.Refusals
import BloodStakes.Proofs.Tutorial

/-!
Equipping again. A slot takes the token that it holds once more, and the loadout stays as it is.
The effect of the slot answers to the call, not to the placement: in a round it fires each time.
-/
namespace BloodStakes

namespace Loadout

variable {loadout loadout' : Loadout} {id : SlotId} {token : TokenId}

private theorem find?_setToken_self (id : SlotId) (token? : Option TokenId) (slots : List Slot) :
    (setToken id token? slots).find? (·.id = id) =
      (slots.find? (·.id = id)).map ({ · with token? }) := by
  induction slots with
  | nil => rfl
  | cons slot slots ih => by_cases h : slot.id = id <;> simp [setToken, h, ih]

private theorem find?_setToken_other (id : SlotId) (token? : Option TokenId) (token : TokenId)
    (slots : List Slot) :
    (setToken id token? slots).find? (fun slot => slot.id ≠ id ∧ slot.token? = some token) =
      slots.find? fun slot => slot.id ≠ id ∧ slot.token? = some token := by
  induction slots with
  | nil => rfl
  | cons slot slots ih =>
    unfold setToken
    split
    · next h => simp [h]
    · rw [List.find?_cons, List.find?_cons, ih]

private theorem setToken_setToken (id : SlotId) (token? : Option TokenId) (slots : List Slot) :
    setToken id token? (setToken id token? slots) = setToken id token? slots := by
  induction slots with
  | nil => rfl
  | cons slot slots ih => by_cases h : slot.id = id <;> simp [setToken, h, ih]

private theorem equip_again (h : loadout.equip id token = .ok loadout') :
    loadout'.equip id token = .ok loadout' ∧ ∃ place, loadout.slot? id = some place ∧
      loadout'.slot? id = some { place with token? := some token } := by
  unfold equip at h
  split at h
  · cases h
  · next hfree =>
    split at h
    · cases h
    · next place hplace =>
      cases h
      have hheld : slot? ⟨setToken id (some token) loadout.slots⟩ id =
          some { place with token? := some token } := by
        rw [slot?, find?_setToken_self]
        exact congrArg (Option.map _) hplace
      refine ⟨?_, place, hplace, hheld⟩
      unfold equip
      rw [find?_setToken_other, hfree]
      simp only [hheld, setToken_setToken]

end Loadout

theorem Player.equipToken_self {player placed player' : Player} {id : SlotId} {token : TokenId}
    (h : player.equipToken id token = .ok placed) {bloodPool : Int} {tutorialFinished : Bool}
    (hplayer : player' = { placed with bloodPool, tutorialFinished }) :
    player'.equipToken id token = .ok player' ∧ ∃ place, player.loadout.slot? id = some place ∧
      player'.loadout.slot? id = some { place with token? := some token } := by
  obtain ⟨howned, loadout, hequip, rfl⟩ := equipToken_eq_ok_iff.mp h
  obtain ⟨hagain, hplace⟩ := Loadout.equip_again hequip
  subst hplayer
  exact ⟨equipToken_eq_ok_iff.mpr ⟨howned, loadout, hagain, rfl⟩, hplace⟩

/-- Whether the action can change a pool, a maximum or the pot; the others only tell something. -/
def Action.movesBlood : Action → Bool
  | .showCardCount | .showNextCardCount | .showNextCard | .nothing => false
  | _ => true

namespace Session

variable {s : Session}

private theorem perform_of_not_movesBlood {action : Action} (h : action.movesBlood = false)
    (s : Session) (value : Float) : (s.perform action value).1 = s := by
  cases action with
  | showCardCount => rfl
  | showNextCardCount | showNextCard =>
    unfold perform
    dsimp only
    split <;> rfl
  | nothing => rfl
  | _ => cases h

private theorem fireActions_table {source : EffectSource} {bundle : Bundle} {phase : Phase}
    {actions : List Action}
    (h : ∀ action ∈ actions, (bundle.lookup action).any (·.phase = phase) = true →
      action.movesBlood = false) (s : Session) :
    (fireActions source bundle phase actions s).1.table = s.table := by
  induction actions generalizing s with
  | nil => rfl
  | cons action actions ih =>
    have hrest := ih fun action haction => h action (List.mem_cons_of_mem _ haction)
    unfold fireActions
    cases hvalue : bundle.valueOn action phase with
    | none => exact hrest s
    | some value =>
      have hdue : (bundle.lookup action).any (·.phase = phase) = true := by
        rw [← isSome_valueOn, hvalue, Option.isSome_some]
      have hkept := perform_of_not_movesBlood (h action List.mem_cons_self hdue) s value
      refine (hrest _).trans ?_
      rw [hkept]
      rfl

private theorem fire_table {effect : Effect} {phase : Phase}
    (h : ∀ action ∈ effect.due phase, action.movesBlood = false) (s : Session)
    (source : EffectSource) : (s.fire source effect phase).1.table = s.table :=
  fireActions_table (fun action haction hdue =>
    h action (List.mem_filter.mpr ⟨haction, by simpa using hdue⟩)) s

end Session

namespace Play

open Session

variable {house : House} {slot : SlotId} {token : TokenId} {s s' : Session}

/-- A token that is in its slot fires there while a round is in progress. -/
def answerEquip (house : House) (token : TokenId) (slotType : SlotType) :
    Play (List EffectLog) := do
  if (← get).roundInProgress then fireEquipped house token slotType else return []

theorem run_equipToken (house : House) (slot : SlotId) (token : TokenId) (s : Session) :
    (equipToken house slot token).run s =
      match house.catalog.token? token, s.table.player.loadout.slot? slot,
        s.table.player.equipToken slot token with
      | none, _, _ => .error (.unknownToken token) s
      | some _, none, _ => .error (.unknownSlot slot) s
      | some _, some _, .error e => .error (.loadout e) s
      | some _, some place, .ok player =>
        (answerEquip house token place.slotType).run (s.putPlayer player) := by
  unfold equipToken
  rw [run_bind, run_refuseIf]
  cases house.catalog.token? token with
  | none => rfl
  | some entry =>
    simp only [Option.isNone_some, Bool.false_eq_true, ↓reduceIte, run_bind, run_get]
    cases s.table.player.loadout.slot? slot with
    | none => rfl
    | some place =>
      simp only [run_bind]
      cases s.table.player.equipToken slot token <;> rfl

private theorem closeByRound_player {status : HandStatus} (hhand : s.handInProgress = true)
    (h : closeByRound.run s = .ok status s') : s'.table.player = s.table.player := by
  obtain ⟨hand, hhand, -⟩ := s.handInProgress_iff.mp hhand
  obtain ⟨_, t, hclose, hplayer⟩ | ⟨_, -, -, hclose⟩ := closeByRound_cases hhand
  · rw [hclose] at h
    cases h
    exact hplayer
  · rw [hclose] at h
    cases h

theorem fireSlot_eq_fire {entry : Token} (hknown : house.catalog.token? token = some entry)
    (slotType : SlotType) (phase : Phase) : s.fireSlot house.catalog token slotType phase =
      s.fire (.token token) (entry.effectFor slotType) phase := by
  simp [fireSlot, hknown]

theorem answerEquip_eq_ok {slotType : SlotType} {entry : Token} {logs : List EffectLog}
    (hknown : house.catalog.token? token = some entry)
    (h : (answerEquip house token slotType).run s = .ok logs s') :
    logs.map EffectLog.action =
        (if s.roundInProgress then (entry.effectFor slotType).due .onEquip else []) ∧
      ∃ bloodPool tutorialFinished,
        s'.table.player = { s.table.player with bloodPool, tutorialFinished } := by
  simp only [answerEquip, bind_eq_ok, get_eq_ok, and_assoc, exists_and_left, exists_eq_left] at h
  split at h
  · next hround =>
    simp only [fireEquipped, bind_eq_ok, ofStep_eq_ok, get_eq_ok, fireSlot_eq_fire hknown,
      and_assoc, exists_and_left, exists_eq_left] at h
    obtain ⟨fired, t, hfired, h⟩ := h
    have hactions := s.fire_actions (.token token) (entry.effectFor slotType) .onEquip
    have hflows := s.fire_flows (.token token) (entry.effectFor slotType) .onEquip
    rw [hfired] at hactions hflows
    obtain ⟨bloodPool, tutorialFinished, hplayer⟩ := hflows.bleeds.framed.player
    rw [if_pos hround]
    split at h
    · next hover =>
      obtain ⟨_, u, hclose, h⟩ := bind_eq_ok.mp h
      obtain ⟨rfl, rfl⟩ := pure_eq_ok.mp h
      exact ⟨hactions, _, _, (closeByRound_player hover.2 hclose).trans hplayer⟩
    · obtain ⟨rfl, rfl⟩ := pure_eq_ok.mp h
      exact ⟨hactions, _, _, hplayer⟩
  · next hround =>
    obtain ⟨rfl, rfl⟩ := pure_eq_ok.mp h
    exact ⟨(if_neg hround).symm, _, _, rfl⟩

theorem equipToken_eq_ok {logs : List EffectLog}
    (h : (equipToken house slot token).run s = .ok logs s') :
    ∃ entry place, house.catalog.token? token = some entry ∧
      s'.table.player.loadout.slot? slot = some place ∧ place.token? = some token ∧
      logs.map EffectLog.action =
        (if s.roundInProgress then (entry.effectFor place.slotType).due .onEquip else []) ∧
      (equipToken house slot token).run s' =
        (answerEquip house token place.slotType).run (s'.putPlayer s'.table.player) := by
  rw [run_equipToken] at h
  split at h
  · cases h
  · cases h
  · cases h
  · next entry place player hknown hslot hplayer =>
    obtain ⟨hlogs, bloodPool, tutorialFinished, hafter⟩ := answerEquip_eq_ok hknown h
    obtain ⟨hagain, place', hplace', hheld⟩ := Player.equipToken_self hplayer hafter
    cases hslot.symm.trans hplace'
    -- the second call finds the token, the slot and the player as the first has left them
    refine ⟨entry, _, hknown, hheld, rfl, hlogs, ?_⟩
    rw [run_equipToken, hknown, hheld, hagain]

theorem answerEquip_idle {slotType : SlotType} (h : s.roundInProgress = false) :
    (answerEquip house token slotType).run s = .ok [] s := by
  simp [answerEquip, h]

private theorem answerEquip_told {slotType : SlotType} {entry : Token}
    (hknown : house.catalog.token? token = some entry)
    (h : ∀ action ∈ (entry.effectFor slotType).due .onEquip, action.movesBlood = false) :
    ∃ logs s', (answerEquip house token slotType).run s = .ok logs s' ∧ s'.table = s.table := by
  cases hround : s.roundInProgress with
  | false => exact ⟨_, _, answerEquip_idle hround, rfl⟩
  | true =>
    obtain ⟨t, logs, hfired⟩ : ∃ t logs,
        s.fireSlot house.catalog token slotType .onEquip = (t, logs) := ⟨_, _, rfl⟩
    have htable : t.table = s.table := by
      have hkept := fire_table h s (.token token)
      rwa [← fireSlot_eq_fire hknown, hfired] at hkept
    have hgoing : t.roundTerminal = false := by
      obtain ⟨round, hround, hopen⟩ := s.roundInProgress_iff.mp hround
      simp_all [roundTerminal, Round.isTerminal, Round.isInProgress]
    have hrun : (ofStep fun s => s.fireSlot house.catalog token slotType .onEquip).run s =
        .ok logs t := ofStep_eq_ok.mpr hfired
    refine ⟨logs, t, ?_, htable⟩
    simp [answerEquip, fireEquipped, hround, hrun, hgoing]

private theorem answerEquip_firm {slotType : SlotType} : Firm
    (answerEquip house token slotType) s := by
  refine .get_bind ?_
  split
  · obtain ⟨t, -, ⟨logs, hrun⟩ | ⟨_, _, -, -, -, -, hrun⟩⟩ :=
      fireEquipped_cases house token slotType s
    · exact refuses_of_ok hrun
    · exact refuses_of_error hrun rfl
  · exact refuses_pure _

/-- Equipping once more what has been equipped. The slot holds the token, and of the player only
the blood can change. Without a round in progress nothing changes at all. In a round the effect of
the slot fires with every call, so the table stays as it is if all that is due only tells
something. Only a card without a rank can have the second call refused. -/
theorem equipToken_again {logs : List EffectLog} {s₁ : Session}
    (h : (equipToken house slot token).run s = .ok logs s₁) :
    ∃ entry place, house.catalog.token? token = some entry ∧
      s₁.table.player.loadout.slot? slot = some place ∧ place.token? = some token ∧
      logs.map EffectLog.action =
        (if s.roundInProgress then (entry.effectFor place.slotType).due .onEquip else []) ∧
      (s₁.roundInProgress = false →
        ∃ s₂, (equipToken house slot token).run s₁ = .ok [] s₂ ∧ s₁.Alike s₂) ∧
      ((∀ action ∈ (entry.effectFor place.slotType).due .onEquip, action.movesBlood = false) →
        ∃ again s₂, (equipToken house slot token).run s₁ = .ok again s₂ ∧
          s₂.table = s₁.table) ∧
      (∀ again s₂, (equipToken house slot token).run s₁ = .ok again s₂ →
        again.map EffectLog.action =
            (if s₁.roundInProgress then (entry.effectFor place.slotType).due .onEquip else []) ∧
          ∃ bloodPool tutorialFinished,
            s₂.table.player = { s₁.table.player with bloodPool, tutorialFinished }) ∧
      ∀ e s₂, (equipToken house slot token).run s₁ = .error e s₂ → e.isUnknownCard = true := by
  obtain ⟨entry, place, hknown, hplace, hheld, hlogs, hagain⟩ := equipToken_eq_ok h
  refine ⟨entry, place, hknown, hplace, hheld, hlogs, ?_⟩
  rw [hagain]
  refine ⟨fun hidle => ?_, fun htold => ?_, fun again s₂ hrun => ?_, fun e s₂ hrun => ?_⟩
  · exact ⟨_, answerEquip_idle hidle, rfl, rfl, rfl⟩
  · exact answerEquip_told hknown htold
  · have hfired := answerEquip_eq_ok hknown hrun
    exact hfired
  · exact answerEquip_firm e s₂ hrun

/-- A house with one token, which takes a quarter from any daimon when it is placed in an inscribed
slot. -/
def tollHouse : House where
  catalog := {
    tokens := [{
      id := 5
      name := "Toll"
      rune := "t"
      description := ""
      inscribed := {
        kindId := EffectKind.damageDaimon.id
        bundle := .ofList [(.daimonHealth, ⟨-0.25, .onEquip⟩)] }
      oathbound := .none
      offering := .none }] }

theorem tollHouse_leaves :
    Play.leaves (equipToken tollHouse 1 5) (knellSession 261) (fun s₁ =>
      s₁.roundInProgress && (s₁.table.round?.map Round.daimonPool == some 6) &&
        Play.leaves (equipToken tollHouse 1 5) s₁ fun s₂ =>
          s₂.table.round?.map Round.daimonPool == some 4) = true := by
  decide +kernel

/-- The token fires at the second call what it fired at the first. -/
theorem equipToken_again_toll :
    ∃ logs s₁ again s₂, (equipToken tollHouse 1 5).run (knellSession 261) = .ok logs s₁ ∧
      (equipToken tollHouse 1 5).run s₁ = .ok again s₂ ∧
      again.map EffectLog.action = logs.map EffectLog.action := by
  obtain ⟨logs, s₁, hfirst, h⟩ := Play.exists_of_leaves tollHouse_leaves
  simp only [Bool.and_eq_true] at h
  obtain ⟨⟨hround, -⟩, h⟩ := h
  obtain ⟨again, s₂, hsecond, -⟩ := Play.exists_of_leaves h
  obtain ⟨entry, place, -, -, -, hlogs, -, -, hagain, -⟩ := equipToken_again hfirst
  have hactions := (hagain again s₂ hsecond).1
  rw [if_pos hround] at hactions
  exact ⟨logs, s₁, again, s₂, hfirst, hsecond, hactions.trans hlogs.symm⟩

/-- The daimon has eight, then six, and after the second call four. -/
theorem equipToken_fires_again :
    ∃ logs s₁ again s₂, (equipToken tollHouse 1 5).run (knellSession 261) = .ok logs s₁ ∧
      (equipToken tollHouse 1 5).run s₁ = .ok again s₂ ∧
      s₁.table.round?.map Round.daimonPool = some 6 ∧
      s₂.table.round?.map Round.daimonPool = some 4 ∧ s₂.table ≠ s₁.table := by
  obtain ⟨logs, s₁, hfirst, h⟩ := Play.exists_of_leaves tollHouse_leaves
  simp only [Bool.and_eq_true] at h
  obtain ⟨⟨-, hsix⟩, h⟩ := h
  obtain ⟨again, s₂, hsecond, hfour⟩ := Play.exists_of_leaves h
  refine ⟨logs, s₁, again, s₂, hfirst, hsecond, eq_of_beq hsix, eq_of_beq hfour, fun hsame => ?_⟩
  rw [hsame, eq_of_beq hsix] at hfour
  cases hfour

end Play

end BloodStakes
