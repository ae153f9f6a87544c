import BloodStakes.Service

/-! A successful play, taken apart: what each of its parts answered, and the session each
of them left. -/
namespace BloodStakes.Play

variable {α β : Type} {s s' : Session}

theorem bind_eq_ok {p : Play α} {f : α → Play β} {b : β} :
    (p >>= f).run s = .ok b s' ↔ ∃ a s₁, p.run s = .ok a s₁ ∧ (f a).run s₁ = .ok b s' := by
  rw [run_bind]
  cases p.run s with
  | error e s₁ => simp
  | ok a s₁ =>
    constructor
    · exact fun h => ⟨a, s₁, rfl, h⟩
    · rintro ⟨_, _, h, hf⟩
      cases h
      exact hf

theorem pure_eq_ok {a b : α} : (pure a : Play α).run s = .ok b s' ↔ a = b ∧ s = s' := by
  simp

theorem bind_pure_eq_ok {p : Play α} {f : α → β} {b : β} :
    (p >>= fun a => pure (f a)).run s = .ok b s' ↔ ∃ a, p.run s = .ok a s' ∧ f a = b := by
  simp only [bind_eq_ok, pure_eq_ok]
  constructor
  · rintro ⟨a, _, hp, hf, rfl⟩
    exact ⟨a, hp, hf⟩
  · rintro ⟨a, hp, hf⟩
    exact ⟨a, s', hp, hf, rfl⟩

theorem throw_ne_ok {e : PlayError} {a : α} : (throw e : Play α).run s ≠ .ok a s' := by
  simp

theorem get_eq_ok {s₁ : Session} : (get : Play Session).run s = .ok s₁ s' ↔ s₁ = s ∧ s' = s := by
  simp [eq_comm]

theorem modify_eq_ok {f : Session → Session} {u : PUnit} :
    (modify f : Play PUnit).run s = .ok u s' ↔ s' = f s := by
  simp [eq_comm]

theorem set_eq_ok {t : Session} {u : PUnit} :
    (set t : Play PUnit).run s = .ok u s' ↔ s' = t := by
  have hrun : (set t : Play PUnit).run s = .ok ⟨⟩ t := rfl
  simp [hrun, eq_comm]

theorem refuseIf_eq_ok {condition : Bool} {e : PlayError} {u : Unit} :
    (refuseIf condition e).run s = .ok u s' ↔ condition = false ∧ s' = s := by
  rw [run_refuseIf]
  cases condition <;> simp [eq_comm]

theorem ofExcept_eq_ok {ε : Type} {toError : ε → PlayError} {result : Except ε α} {a : α} :
    (ofExcept toError result).run s = .ok a s' ↔ result = .ok a ∧ s' = s := by
  cases result <;> simp [ofExcept, eq_comm]

theorem ofStep_eq_ok {step : Session → Session × α} {a : α} :
    (ofStep step).run s = .ok a s' ↔ step s = (s', a) := by
  have hrun : (ofStep step).run s = .ok (step s).2 (step s).1 := rfl
  rw [hrun, Prod.ext_iff]
  simp [and_comm]

theorem round_eq_ok {round : Round} :
    Play.round.run s = .ok round s' ↔ s.table.round? = some round ∧ s' = s := by
  rw [run_round]
  cases s.table.round? <;> simp [eq_comm]

theorem hand_eq_ok {hand : Hand} :
    Play.hand.run s = .ok hand s' ↔ s.table.hand? = some hand ∧ s' = s := by
  rw [run_hand]
  cases s.table.hand? <;> simp [eq_comm]

theorem ranks_eq_ok {cards : List CardId} {found : List Rank} :
    (ranks cards).run s = .ok found s' ↔ ranksOf cards = .ok found ∧ s' = s :=
  ofExcept_eq_ok

end BloodStakes.Play
