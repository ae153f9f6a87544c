import Mathlib.Data.List.Nodup
import BloodStakes.Catalog.Validation
import BloodStakes.Proofs.Framing

/-!
What fires. An effect fires those actions of its kind whose entries wait for the moment, each once
and in their order; a moment of the table lets the token fire, then the daimon, then the player's
cards. What fires is settled beforehand: no effect can call off another or add to it.
-/
namespace BloodStakes

/-- An effect entry that fires: whose it is, the phase it waited for, and what it acts on. -/
structure Firing where
  source : EffectSource
  phase : Phase
  action : Action
  deriving DecidableEq, Repr

def EffectLog.firing (log : EffectLog) : Firing := ⟨log.source, log.phase, log.action⟩

namespace Effect

/-- The actions of the effect that wait for the phase. -/
def due (effect : Effect) (phase : Phase) : List Action :=
  (actionsOf effect.kindId).filter fun action =>
    (effect.bundle.lookup action).any (·.phase = phase)

def firings (effect : Effect) (source : EffectSource) (phase : Phase) : List Firing :=
  (effect.due phase).map fun action => ⟨source, phase, action⟩

/-- What fires on the phase of effects that are asked one after the other. -/
def firingsOf (effects : List (EffectSource × Effect)) (phase : Phase) : List Firing :=
  effects.flatMap fun (source, effect) => effect.firings source phase

@[simp] theorem firingsOf_nil (phase : Phase) : firingsOf [] phase = [] := rfl

@[simp] theorem firingsOf_cons (source : EffectSource) (effect : Effect)
    (effects : List (EffectSource × Effect)) (phase : Phase) :
    firingsOf ((source, effect) :: effects) phase =
      effect.firings source phase ++ firingsOf effects phase := rfl

theorem firingsOf_append (effects more : List (EffectSource × Effect)) (phase : Phase) :
    firingsOf (effects ++ more) phase = firingsOf effects phase ++ firingsOf more phase :=
  List.flatMap_append

end Effect

theorem Action.mem_all (action : Action) : action ∈ Action.all := by
  cases action <;> decide

theorem EffectKind.actions_nodup (kind : EffectKind) : kind.actions.Nodup := by
  cases kind <;> decide

theorem Bundle.mem_toList_iff {bundle : Bundle} {action : Action} {entry : Entry} :
    (action, entry) ∈ bundle.toList ↔ bundle.lookup action = some entry := by
  simp [Bundle.toList, Action.mem_all]

/-- The actions that have an entry, as far as it waits for the phase. -/
def Bundle.gated (bundle : Bundle) (phase : Phase) : List Action :=
  (bundle.toList.filter fun (_, entry) => entry.phase = phase).map Prod.fst

theorem Bundle.mem_gated_iff {bundle : Bundle} {phase : Phase} {action : Action} :
    action ∈ bundle.gated phase ↔ (bundle.lookup action).any (·.phase = phase) = true := by
  simp [Bundle.gated, Bundle.mem_toList_iff, Option.any_eq_true]

theorem Bundle.toList_fst (bundle : Bundle) :
    bundle.toList.map Prod.fst = Action.all.filter fun action => (bundle.lookup action).isSome := by
  unfold toList
  induction Action.all with
  | nil => rfl
  | cons action actions ih => cases h : bundle.lookup action <;> simp [h, ih]

theorem Bundle.gated_nodup (bundle : Bundle) (phase : Phase) : (bundle.gated phase).Nodup := by
  have hactions : (bundle.toList.map Prod.fst).Nodup := by
    rw [toList_fst]
    exact List.Nodup.filter _ (by decide)
  exact hactions.sublist (List.filter_sublist.map Prod.fst)

theorem Effect.due_nodup (effect : Effect) (phase : Phase) : (effect.due phase).Nodup := by
  refine List.Nodup.filter _ ?_
  unfold Effect.actionsOf
  cases EffectKind.ofId? effect.kindId with
  | none => exact List.nodup_nil
  | some kind => exact kind.actions_nodup

theorem Effect.due_eq_nil {effect : Effect} {phase : Phase}
    (h : ∀ action ∈ Effect.actionsOf effect.kindId, ∀ entry,
      effect.bundle.lookup action = some entry → entry.phase ≠ phase) : effect.due phase = [] := by
  refine List.filter_eq_nil_iff.mpr fun action haction hdue => ?_
  obtain ⟨entry, hentry, hphase⟩ := Option.any_eq_true _ _ |>.mp hdue
  exact h action haction entry hentry (of_decide_eq_true hphase)

/-- A valid effect uses only the actions of its kind, so it fires whatever it has an entry for. -/
theorem Effect.due_perm_gated {owner : EffectOwner} {effect : Effect}
    (h : Catalog.effectFault? owner effect = .none) (phase : Phase) :
    (effect.due phase).Perm (effect.bundle.gated phase) := by
  refine (List.perm_ext_iff_of_nodup (effect.due_nodup phase)
    (effect.bundle.gated_nodup phase)).mpr fun action => ?_
  rw [Effect.due, List.mem_filter, Bundle.mem_gated_iff, and_iff_right_iff_imp]
  intro hgated
  obtain ⟨entry, hentry, -⟩ := Option.any_eq_true _ _ |>.mp hgated
  unfold Catalog.effectFault? at h
  split at h
  · cases h
  · next kind hkind =>
    simp only [Option.map_eq_none_iff, List.find?_eq_none] at h
    have hmem := h _ (Bundle.mem_toList_iff.mpr hentry)
    simpa [Effect.actionsOf, hkind] using hmem

/-- When effects may fire. -/
inductive Moment where
  | roundStart
  | table (phase : Phase)
  | drawn (card : CardId)
  | equipped (token : TokenId) (slotType : SlotType)

def Moment.phase : Moment → Phase
  | roundStart => .roundStart
  | table phase => phase
  | drawn _ => .handStart
  | equipped .. => .onEquip

/-- Who bears effects at a table: the Inscribed token, the daimon, and the player's cards. -/
structure Bearers where
  token? : Option TokenId
  daimon? : Option DaimonId
  cards : List CardId

def Table.bearers (t : Table) : Bearers where
  token? := t.player.inscribedToken?
  daimon? := t.round?.map Round.daimon
  cards := (t.hand?.map Hand.playerCards).getD []

namespace Bearers

def slotEffect? (catalog : Catalog) (token : TokenId) (slotType : SlotType) :
    Option (EffectSource × Effect) :=
  (catalog.token? token).map fun entry => (.token token, entry.effectFor slotType)

def tokenEffect? (bearers : Bearers) (catalog : Catalog) : Option (EffectSource × Effect) :=
  bearers.token?.bind fun token => slotEffect? catalog token .inscribed

def daimonEffect? (bearers : Bearers) (catalog : Catalog) : Option (EffectSource × Effect) :=
  (bearers.daimon?.bind catalog.daimon?).map fun daimon => (.daimon daimon.id, daimon.effect)

def cardEffect? (card : CardId) : Option (EffectSource × Effect) :=
  (Face.ofId? card).map fun face => (.card card, face.effect)

/-- The effects that are asked at a moment, in their order. -/
def effectsAt (bearers : Bearers) (catalog : Catalog) : Moment → List (EffectSource × Effect)
  | .roundStart => (bearers.tokenEffect? catalog).toList ++ (bearers.daimonEffect? catalog).toList
  | .table _ => (bearers.tokenEffect? catalog).toList ++ (bearers.daimonEffect? catalog).toList ++
      bearers.cards.filterMap cardEffect?
  | .drawn card => [card].filterMap cardEffect?
  | .equipped token slotType => (slotEffect? catalog token slotType).toList

def firingsAt (bearers : Bearers) (catalog : Catalog) (moment : Moment) : List Firing :=
  Effect.firingsOf (bearers.effectsAt catalog moment) moment.phase

end Bearers

namespace Session

variable {s s' t u : Session}

/-- The effects that have fired, the earliest first. -/
def effectLogs (s : Session) : List EffectLog := s.events.filterMap Event.effectLog?

@[simp] theorem emit_effectLogs (s : Session) (event : Event) :
    (s.emit event).effectLogs = s.effectLogs ++ event.effectLog?.toList := by
  cases event <;> simp [effectLogs, emit, Event.effectLog?]

theorem emit_silent (s : Session) {event : Event} (h : event.effectLog? = none) :
    (s.emit event).effectLogs = s.effectLogs := by
  simp [h]

@[simp] theorem settleRound_effectLogs (s : Session) :
    s.settleRound.effectLogs = s.effectLogs :=
  settleRound_filterMap (fun _ _ => rfl) (fun _ => rfl) s

@[simp] theorem changePlayerPool_effectLogs (s : Session) (delta : Int) :
    (s.changePlayerPool delta).effectLogs = s.effectLogs :=
  settleRound_effectLogs _

@[simp] theorem changeDaimonPool_effectLogs (s : Session) (delta : Int) :
    (s.changeDaimonPool delta).effectLogs = s.effectLogs := by
  unfold changeDaimonPool
  split
  · rfl
  · exact settleRound_effectLogs _

@[simp] theorem scaleCeiling_effectLogs (s : Session) (multiplier : Float) :
    (s.scaleCeiling multiplier).effectLogs = s.effectLogs := by
  refine (settleRound_effectLogs _).trans ?_
  unfold putCeiling
  split <;> rfl

@[simp] theorem scaleDaimonMaximum_effectLogs (s : Session) (multiplier : Float) :
    (s.scaleDaimonMaximum multiplier).effectLogs = s.effectLogs := by
  unfold scaleDaimonMaximum
  split
  · rfl
  · exact settleRound_effectLogs _

@[simp] theorem changePot_effectLogs (s : Session) (delta : Int) :
    (s.changePot delta).effectLogs = s.effectLogs := by
  unfold changePot
  split <;> rfl

@[simp] theorem hitDaimon_effectLogs (s : Session) (amount : Int) :
    (s.hitDaimon amount).1.effectLogs = s.effectLogs := by
  unfold hitDaimon
  dsimp only
  split <;> simp

theorem perform_effectLogs (s : Session) (action : Action) (value : Float) :
    (s.perform action value).1.effectLogs = s.effectLogs := by
  cases action <;> unfold perform <;> dsimp only <;> (try split) <;> simp

/-- Exactly these have fired: their records are what came back and what has been announced of
effects since, in this order; and if there are none, nothing at all has happened. -/
structure Fires (s : Session) (firings : List Firing) (fired : Session × List EffectLog) :
    Prop where
  announced : fired.1.effectLogs = s.effectLogs ++ fired.2
  records : fired.2.map EffectLog.firing = firings
  quiet : firings = [] → fired = (s, [])

theorem Fires.nil (s : Session) : s.Fires [] (s, []) :=
  ⟨(List.append_nil _).symm, rfl, fun _ => rfl⟩

theorem Fires.append {firings more : List Firing} {logs moreLogs : List EffectLog}
    (h : s.Fires firings (t, logs)) (h' : t.Fires more (u, moreLogs)) :
    s.Fires (firings ++ more) (u, logs ++ moreLogs) where
  announced := by rw [h'.announced, h.announced, List.append_assoc]
  records := by rw [List.map_append, h.records, h'.records]
  quiet hnone := by
    obtain ⟨hfirings, hmore⟩ := List.append_eq_nil_iff.mp hnone
    cases h.quiet hfirings
    exact h'.quiet hmore

theorem isSome_valueOn (bundle : Bundle) (action : Action) (phase : Phase) :
    (bundle.valueOn action phase).isSome = (bundle.lookup action).any (·.phase = phase) := by
  unfold Bundle.valueOn
  cases bundle.lookup action with
  | none => rfl
  | some entry => by_cases h : entry.phase = phase <;> simp [h]

private theorem perform_fires (s : Session) (source : EffectSource) (phase : Phase)
    (action : Action)
    (value : Float) :
    s.Fires [⟨source, phase, action⟩]
      ((s.perform action value).1.emit
          (.effectApplied ⟨source, phase, action, (s.perform action value).2⟩),
        [⟨source, phase, action, (s.perform action value).2⟩]) :=
  ⟨by simp [perform_effectLogs, Event.effectLog?], rfl, nofun⟩

private theorem fireActions_fires (source : EffectSource) (bundle : Bundle) (phase : Phase)
    (actions : List Action) (s : Session) :
    s.Fires ((actions.filter fun action => (bundle.lookup action).any (·.phase = phase)).map
      fun action => ⟨source, phase, action⟩) (fireActions source bundle phase actions s) := by
  induction actions generalizing s with
  | nil => exact .nil s
  | cons action actions ih =>
    rw [List.filter_cons, ← isSome_valueOn]
    unfold fireActions
    cases bundle.valueOn action phase with
    | none => exact ih s
    | some value => exact (s.perform_fires source phase action value).append (ih _)

theorem fire_fires (s : Session) (source : EffectSource) (effect : Effect) (phase : Phase) :
    s.Fires (effect.firings source phase) (s.fire source effect phase) :=
  fireActions_fires source effect.bundle phase _ s

theorem fire_actions (s : Session) (source : EffectSource) (effect : Effect) (phase : Phase) :
    (s.fire source effect phase).2.map EffectLog.action = effect.due phase := by
  have hactions := congrArg (List.map Firing.action) (s.fire_fires source effect phase).records
  simpa [Effect.firings, EffectLog.firing, Function.comp_def] using hactions

theorem fireSlot_fires (s : Session) (catalog : Catalog) (token : TokenId) (slotType : SlotType)
    (phase : Phase) :
    s.Fires (Effect.firingsOf (Bearers.slotEffect? catalog token slotType).toList phase)
      (s.fireSlot catalog token slotType phase) := by
  unfold fireSlot Bearers.slotEffect?
  cases catalog.token? token with
  | none => exact .nil s
  | some entry => simpa using s.fire_fires (.token token) (entry.effectFor slotType) phase

private theorem fireToken_fires (s : Session) (catalog : Catalog) (phase : Phase) :
    s.Fires (Effect.firingsOf (s.table.bearers.tokenEffect? catalog).toList phase)
      (s.fireToken catalog phase) := by
  unfold fireToken Bearers.tokenEffect? Table.bearers
  cases s.table.player.inscribedToken? with
  | none => exact .nil s
  | some token => exact s.fireSlot_fires catalog token .inscribed phase

private theorem fireDaimon_fires (s : Session) (catalog : Catalog) (phase : Phase) :
    s.Fires (Effect.firingsOf (s.table.bearers.daimonEffect? catalog).toList phase)
      (s.fireDaimon catalog phase) := by
  unfold fireDaimon Bearers.daimonEffect? Table.bearers
  dsimp only
  rw [Option.bind_map, Function.comp_def]
  cases s.table.round?.bind fun round => catalog.daimon? round.daimon with
  | none => exact .nil s
  | some daimon => simpa using s.fire_fires (.daimon daimon.id) daimon.effect phase

theorem fireCards_fires (phase : Phase) (cards : List CardId) (s : Session) :
    s.Fires (Effect.firingsOf (cards.filterMap Bearers.cardEffect?) phase)
      (fireCards phase cards s) := by
  induction cards generalizing s with
  | nil => exact .nil s
  | cons card cards ih =>
    unfold fireCards
    cases hface : Face.ofId? card with
    | none => simpa [Bearers.cardEffect?, hface] using ih s
    | some face =>
      have hcards : (card :: cards).filterMap Bearers.cardEffect? =
          (.card card, face.effect) :: cards.filterMap Bearers.cardEffect? := by
        simp [Bearers.cardEffect?, hface]
      rw [hcards, Effect.firingsOf_cons]
      exact (s.fire_fires (.card card) face.effect phase).append (ih _)

theorem Framed.bearers (h : s.Framed s') : s'.table.bearers = s.table.bearers := by
  obtain ⟨_, _, hplayer⟩ := h.player
  obtain ⟨_, _, _, _, hround⟩ := h.round
  obtain ⟨_, hhand⟩ := h.hand
  simp [Table.bearers, Player.inscribedToken?, hplayer, hround, hhand, Function.comp_def]

/-- What is fired at a moment, and what comes back. -/
def fireAt (s : Session) (catalog : Catalog) : Moment → Session × List EffectLog
  | .roundStart =>
    let (s, ofToken) := s.fireToken catalog .roundStart
    let (s, ofDaimon) := s.fireDaimon catalog .roundStart
    (s, ofToken ++ ofDaimon)
  | .table phase => s.fireTable catalog phase
  | .drawn card => fireCards .handStart [card] s
  | .equipped token slotType => s.fireSlot catalog token slotType .onEquip

theorem fireAt_fires (s : Session) (catalog : Catalog) (moment : Moment) :
    s.Fires (s.table.bearers.firingsAt catalog moment) (s.fireAt catalog moment) := by
  -- the token and the daimon are asked in the same way at two kinds of moments
  have hhouse (phase : Phase) :
      s.Fires (Effect.firingsOf ((s.table.bearers.tokenEffect? catalog).toList ++
          (s.table.bearers.daimonEffect? catalog).toList) phase)
        ((fireDaimon (s.fireToken catalog phase).1 catalog phase).1,
          (s.fireToken catalog phase).2 ++
            (fireDaimon (s.fireToken catalog phase).1 catalog phase).2) := by
    have hdaimon := fireDaimon_fires (s.fireToken catalog phase).1 catalog phase
    rw [(s.fireToken_flows catalog phase).bleeds.framed.bearers] at hdaimon
    rw [Effect.firingsOf_append]
    exact (s.fireToken_fires catalog phase).append hdaimon
  unfold Bearers.firingsAt Bearers.effectsAt
  cases moment with
  | roundStart => exact hhouse .roundStart
  | table phase =>
    let t := (fireDaimon (s.fireToken catalog phase).1 catalog phase).1
    have hflows : s.Flows t :=
      (s.fireToken_flows catalog phase).trans (fireDaimon_flows _ catalog phase)
    have hcards : t.Fires
        (Effect.firingsOf (s.table.bearers.cards.filterMap Bearers.cardEffect?) phase)
        (fireCards phase t.table.bearers.cards t) := by
      rw [← hflows.bleeds.framed.bearers]
      exact fireCards_fires phase _ t
    rw [Effect.firingsOf_append]
    exact (hhouse phase).append hcards
  | drawn card => exact fireCards_fires .handStart [card] s
  | equipped token slotType => exact s.fireSlot_fires catalog token slotType .onEquip

end Session

end BloodStakes
