import BloodStakes.Proofs.Bleeding

/-!
The frame of an effect. Whatever fires, at whatever moment, changes blood and what blood ends, and
nothing else: no card moves, no book is written, no belonging is touched, and no chance is spent.
-/
namespace BloodStakes

theorem exists_eq_map {α β : Type} {x y : Option α} {clear : α → α} (put : β → α → α)
    (get : α → β) (default : β) (hput : ∀ a b, clear b = clear a → b = put (get b) a)
    (h : y.map clear = x.map clear) : ∃ part, y = x.map (put part) := by
  cases x with
  | none => exact ⟨default, Option.map_eq_none_iff.mp h⟩
  | some a =>
    obtain ⟨b, rfl, hsame⟩ := Option.map_eq_some_iff.mp h
    exact ⟨get b, congrArg some (hput a b hsame)⟩

namespace Session

/-- The second session is the first with other blood, and perhaps with an end to the tutorial, the
round and the game. -/
structure Framed (s s' : Session) : Prop where
  player : ∃ bloodPool tutorialFinished,
    s'.table.player = { s.table.player with bloodPool, tutorialFinished }
  game : ∃ status, s'.table.game? = s.table.game?.map fun game => { game with status }
  round : ∃ daimonPool daimonMaximum ceiling status, s'.table.round? =
    s.table.round?.map fun round => { round with daimonPool, daimonMaximum, ceiling, status }
  hand : ∃ pot, s'.table.hand? = s.table.hand?.map fun hand => { hand with pot }
  rng : s'.rng = s.rng

variable {s s' : Session}

theorem Framed.of_bloodless (h : s'.table.bloodless = s.table.bloodless) (hrng : s'.rng = s.rng) :
    s.Framed s' where
  player := by
    have hplayer := congrArg Table.player h
    refine ⟨s'.table.player.bloodPool, s'.table.player.tutorialFinished, ?_⟩
    cases hs : s.table.player
    cases hs' : s'.table.player
    simp_all [Table.bloodless]
  game := by
    refine exists_eq_map (fun status game => { game with status }) Game.status .inProgress ?_
      (congrArg Table.game? h)
    rintro ⟨⟩ ⟨⟩ hsame
    simp_all
  round := by
    obtain ⟨⟨daimonPool, daimonMaximum, ceiling, status⟩, h⟩ := exists_eq_map
      (fun part (round : Round) => { round with
        daimonPool := part.1, daimonMaximum := part.2.1, ceiling := part.2.2.1,
        status := part.2.2.2 })
      (fun round => (round.daimonPool, round.daimonMaximum, round.ceiling, round.status))
      (0, 0, 0, .inProgress) (by rintro ⟨⟩ ⟨⟩ hsame; simp_all) (congrArg Table.round? h)
    exact ⟨daimonPool, daimonMaximum, ceiling, status, h⟩
  hand := by
    refine exists_eq_map (fun pot hand => { hand with pot }) Hand.pot 0 ?_ (congrArg Table.hand? h)
    rintro ⟨⟩ ⟨⟩ hsame
    simp_all
  rng := hrng

theorem Bleeds.framed (h : s.Bleeds s') : s.Framed s' := .of_bloodless h.bloodless.1 h.bloodless.2

/-- Effects that fire one after the other, each from its source and at its moment. -/
def fireAll (s : Session) (effects : List (EffectSource × Effect × Phase)) : Session :=
  effects.foldl (fun s (source, effect, phase) => (s.fire source effect phase).1) s

private theorem fireAll_bleeds (s : Session) (effects : List (EffectSource × Effect × Phase)) :
    s.Bleeds (s.fireAll effects) := by
  induction effects generalizing s with
  | nil => exact .refl
  | cons effect effects ih =>
    obtain ⟨source, effect, phase⟩ := effect
    exact (s.fire_flows source effect phase).bleeds.trans (ih _)

/-- No action, no effect and no chain of them leaves the frame, whatever their kinds and values are
and whether the round has ended or not; and so no moment at which token, daimon and cards fire. -/
theorem effects_framed (s : Session) (catalog : Catalog) (phase : Phase) :
    (∀ action value, s.Framed (s.perform action value).1) ∧
    (∀ source effect, s.Framed (s.fire source effect phase).1) ∧
    (∀ effects, s.Framed (s.fireAll effects)) ∧
    (∀ token slotType, s.Framed (s.fireSlot catalog token slotType phase).1) ∧
    s.Framed (s.fireToken catalog phase).1 ∧ s.Framed (s.fireDaimon catalog phase).1 ∧
    (∀ cards, s.Framed (fireCards phase cards s).1) ∧ s.Framed (s.fireTable catalog phase).1 :=
  ⟨fun action value => (s.perform_bleeds action value).framed,
    fun source effect => (s.fire_flows source effect phase).bleeds.framed,
    fun effects => (s.fireAll_bleeds effects).framed,
    fun token slotType => (s.fireSlot_flows catalog token slotType phase).bleeds.framed,
    (s.fireToken_flows catalog phase).bleeds.framed,
    (s.fireDaimon_flows catalog phase).bleeds.framed,
    fun cards => (fireCards_flows phase cards s).bleeds.framed,
    (s.fireTable_flows catalog phase).bleeds.framed⟩

end Session

end BloodStakes
