import BloodStakes.Table.Round

/-! What the checks of decks and shoes come to. -/
namespace BloodStakes.Deck

theorem firstRepeat?_eq_none {seen cards : List CardId} :
    firstRepeat? seen cards = none ↔ cards.Nodup ∧ ∀ card ∈ cards, card ∉ seen := by
  induction cards generalizing seen with
  | nil => simp [firstRepeat?]
  | cons card cards ih =>
    unfold firstRepeat?
    split
    · next hseen => simp [hseen]
    · next hnew =>
      rw [ih]
      constructor
      · rintro ⟨hnodup, hfresh⟩
        refine ⟨List.nodup_cons.mpr ⟨fun hcard => ?_, hnodup⟩, ?_⟩
        · exact hfresh card hcard List.mem_cons_self
        · intro other hother
          obtain rfl | hother := List.mem_cons.mp hother
          · exact hnew
          · exact fun hin => hfresh other hother (List.mem_cons_of_mem _ hin)
      · rintro ⟨hnodup, hfresh⟩
        obtain ⟨hcard, hnodup⟩ := List.nodup_cons.mp hnodup
        refine ⟨hnodup, fun other hother hin => ?_⟩
        obtain rfl | hin := List.mem_cons.mp hin
        · exact hcard hother
        · exact hfresh other (List.mem_cons_of_mem _ hother) hin

theorem firstRepeat?_nil {cards : List CardId} : firstRepeat? [] cards = none ↔ cards.Nodup := by
  simp [firstRepeat?_eq_none]

theorem ensureUnique_eq_ok {cards : List CardId} : ensureUnique cards = .ok () ↔ cards.Nodup := by
  unfold ensureUnique
  rw [← firstRepeat?_nil]
  cases firstRepeat? [] cards <;> simp

theorem validate_eq_ok {cards : List CardId} {size : Nat} {owns : CardId → Bool} :
    validate cards size owns = .ok () ↔
      cards.length = size ∧ cards.Nodup ∧ ∀ card ∈ cards, owns card = true := by
  unfold validate
  split
  · next hsize => simp [hsize]
  · next hsize =>
    rw [← ensureUnique_eq_ok]
    cases ensureUnique cards with
    | error e => simp [bind, Except.bind]
    | ok u =>
      have hfind : (∀ card ∈ cards, owns card = true) ↔
          cards.find? (fun card => !owns card) = none := by simp
      rw [hfind]
      simp only [bind, Except.bind]
      cases cards.find? fun card => !owns card <;> simp_all

end BloodStakes.Deck
