import Mathlib.Data.List.Perm.Subperm
import Mathlib.Order.Bounds.Defs
import BloodStakes.Score

/-!
Totals and comparisons. The total of a hand is the best that can be made of it by counting each ace
for one or eleven on its own, and two hands are compared by their strengths alone, unless both are
bust.
-/
namespace BloodStakes

/-- What a card may count for. -/
def Rank.values : Rank → List Nat
  | ace => [1, 11]
  | rank => [rank.points]

namespace Score

/-- The hand can be counted as `n`, with a value chosen for each card on its own. -/
inductive Counts : List Rank → Nat → Prop
  | nil : Counts [] 0
  | cons {rank : Rank} {hand : List Rank} {value n : Nat} (hvalue : value ∈ rank.values)
      (h : Counts hand n) : Counts (rank :: hand) (value + n)

/-- The total with every ace counted for one. -/
def low (hand : List Rank) : Nat := hand.foldr (fun rank low => rank.points + low) 0

def aces (hand : List Rank) : Nat := hand.countP Rank.isAce

variable {hand other : List Rank} {n : Nat}

theorem low_cons (rank : Rank) (hand : List Rank) : low (rank :: hand) = rank.points + low hand :=
  rfl

theorem aces_cons (rank : Rank) (hand : List Rank) :
    aces (rank :: hand) = aces hand + if rank = .ace then 1 else 0 := by
  simp [aces, List.countP_cons, Rank.isAce]

private theorem aces_le_low (hand : List Rank) : aces hand ≤ low hand := by
  induction hand with
  | nil => exact Nat.le_refl 0
  | cons rank hand ih =>
    rw [aces_cons, low_cons]
    split
    · next hace =>
      have hpoints : rank.points = 1 := by rw [hace]; rfl
      omega
    · omega

theorem mem_values_iff {rank : Rank} {value : Nat} : value ∈ rank.values ↔
    value = rank.points ∨ rank = .ace ∧ value = rank.points + 10 := by
  cases rank <;> simp [Rank.values, Rank.points]

theorem counts_iff : Counts hand n ↔ ∃ k ≤ aces hand, n = low hand + 10 * k := by
  constructor
  · intro h
    induction h with
    | nil => exact ⟨0, Nat.le_refl 0, rfl⟩
    | @cons rank hand value n hvalue _ ih =>
      obtain ⟨k, hk, rfl⟩ := ih
      rw [aces_cons, low_cons]
      obtain rfl | ⟨hace, rfl⟩ := mem_values_iff.mp hvalue
      · exact ⟨k, by omega, by omega⟩
      · rw [if_pos hace]
        exact ⟨k + 1, by omega, by omega⟩
  · rintro ⟨k, hk, rfl⟩
    induction hand generalizing k with
    | nil =>
      obtain rfl : k = 0 := Nat.le_zero.mp hk
      exact .nil
    | cons rank hand ih =>
      rw [aces_cons] at hk
      rw [low_cons]
      rcases Nat.lt_or_ge (aces hand) k with hmore | hrest
      · -- as many as there are aces below, and this ace too
        split at hk
        · next hace =>
          obtain rfl : k = aces hand + 1 := by omega
          have hhigh : rank.points + 10 ∈ rank.values := mem_values_iff.mpr (.inr ⟨hace, rfl⟩)
          have hcounts := Counts.cons hhigh (ih _ (Nat.le_refl _))
          rwa [show rank.points + 10 + (low hand + 10 * aces hand) =
            rank.points + low hand + 10 * (aces hand + 1) by omega] at hcounts
        · omega
      · have hpoints : rank.points ∈ rank.values := mem_values_iff.mpr (.inl rfl)
        have hcounts := Counts.cons hpoints (ih k hrest)
        rwa [← Nat.add_assoc] at hcounts

theorem total_eq (hand : List Rank) :
    total hand = if 0 < aces hand ∧ low hand + 10 ≤ limit then low hand + 10 else low hand := by
  have haces : hand.any Rank.isAce = true ↔ 0 < aces hand := by
    rw [aces, List.countP_pos_iff, List.any_eq_true]
  unfold total low
  simp only [haces]

/-- More than one ace for eleven is always too much, so one test finds the best. -/
theorem isGreatest_total (h : ∃ n ≤ limit, Counts hand n) :
    IsGreatest {n | Counts hand n ∧ n ≤ limit} (total hand) := by
  obtain ⟨_, hle, hcounts⟩ := h
  obtain ⟨k, -, rfl⟩ := counts_iff.mp hcounts
  have haces := aces_le_low hand
  rw [total_eq]
  constructor
  · split
    · next hsoft => exact ⟨counts_iff.mpr ⟨1, hsoft.1, rfl⟩, hsoft.2⟩
    · exact ⟨counts_iff.mpr ⟨0, Nat.zero_le _, rfl⟩, by omega⟩
  · rintro _ ⟨hcounts, hle⟩
    obtain ⟨k, hk, rfl⟩ := counts_iff.mp hcounts
    unfold limit at hle ⊢
    split
    · omega
    · next hhard => omega

private theorem total_eq_low (h : ∀ n, Counts hand n → limit < n) : total hand = low hand := by
  have hlow := h _ (counts_iff.mpr ⟨0, Nat.zero_le _, rfl⟩)
  rw [total_eq, if_neg]
  omega

theorem low_perm (h : hand.Perm other) : low other = low hand := by
  induction h with
  | nil => rfl
  | cons rank _ ih => rw [low_cons, low_cons, ih]
  | swap rank rank' hand =>
    simp only [low_cons]
    omega
  | trans _ _ ih ih' => exact ih'.trans ih

theorem total_perm (h : hand.Perm other) : total other = total hand := by
  have haces : aces other = aces hand := h.symm.countP_eq _
  rw [total_eq, total_eq, low_perm h, haces]

theorem isBust_iff (hand : List Rank) : isBust hand = true ↔ limit < low hand := by
  have hbust : isBust hand = true ↔ limit < total hand := decide_eq_true_iff
  rw [hbust, total_eq]
  split <;> omega

private theorem low_le_of_subperm (h : hand.Subperm other) : low hand ≤ low other := by
  obtain ⟨part, hperm, hsub⟩ := h
  rw [low_perm hperm]
  clear hperm
  induction hsub with
  | slnil => exact Nat.le_refl 0
  | cons rank _ ih =>
    rw [low_cons]
    omega
  | cons_cons rank _ ih =>
    rw [low_cons, low_cons]
    omega

/-- The total of a hand is the best that can be made of it without exceeding the limit, each ace
counted for one or eleven on its own, and if nothing can, that with all aces low. So the order of
the cards does not matter, a hand is bust just if it is with all aces low, and a bust hand is bust
with more cards. -/
theorem total_best (hand : List Rank) :
    ((∃ n ≤ limit, Counts hand n) →
      IsGreatest {n | Counts hand n ∧ n ≤ limit} (total hand)) ∧
    ((∀ n, Counts hand n → limit < n) → total hand = low hand) ∧
    (∀ other, hand.Perm other → total other = total hand) ∧
    (isBust hand = true ↔ limit < low hand) ∧
    ∀ other, hand.Subperm other → isBust hand = true → isBust other = true := by
  refine ⟨isGreatest_total, total_eq_low, fun _ => total_perm, isBust_iff hand, ?_⟩
  intro other hmore hbust
  rw [isBust_iff] at hbust ⊢
  exact Nat.lt_of_lt_of_le hbust (low_le_of_subperm hmore)

/-- Of two aces one counts for eleven. No ace saves a hand that is bust without it. -/
theorem total_best_aces :
    (Counts [.ace, .ace] 12 ∧ ∀ n, Counts [.ace, .ace] n → n ≤ limit → n ≤ 12) ∧
      isBust [.ten, .ace, .nine, .five] = true := by
  obtain ⟨hbest, -⟩ := total_best [.ace, .ace]
  obtain ⟨hcounts, hmost⟩ := hbest ⟨12, by decide, counts_iff.mpr ⟨1, by decide, rfl⟩⟩
  obtain ⟨-, -, -, -, hmore⟩ := total_best [.ten, .nine, .five]
  refine ⟨⟨hcounts.1, fun n h hle => hmost ⟨h, hle⟩⟩, hmore _ ?_ (by decide)⟩
  exact List.Sublist.subperm (.cons_cons _ (.cons _ (List.Sublist.refl _)))

/-- A bust hand is weakest, and a natural is stronger than the limit in any other cards. -/
def strength (hand : List Rank) : Nat :=
  if isBust hand then 0 else if isNatural hand then limit + 2 else total hand + 1

/-- `measure` puts busts below all totals, totals in their order, and naturals above them. -/
structure IsStrength (measure : List Rank → Nat) : Prop where
  bust : ∀ hand other, isBust hand = true → isBust other = false → measure hand < measure other
  totals : ∀ hand other, isBust hand = false → isBust other = false →
    isNatural hand = false → isNatural other = false →
    (measure hand < measure other ↔ total hand < total other) ∧
    (measure hand = measure other ↔ total hand = total other)
  natural : ∀ hand other, isNatural hand = true → isNatural other = false →
    measure other < measure hand
  naturals : ∀ hand other, isNatural hand = true → isNatural other = true →
    measure hand = measure other

theorem isBust_eq_false_iff (hand : List Rank) : isBust hand = false ↔ total hand ≤ limit := by
  simp [isBust]

theorem isBust_of_isNatural (h : isNatural hand = true) : isBust hand = false := by
  rw [isBust_eq_false_iff]
  exact Nat.le_of_eq (of_decide_eq_true h).2

theorem strength_of_bust (h : isBust hand = true) : strength hand = 0 := if_pos h

theorem strength_of_natural (h : isNatural hand = true) : strength hand = limit + 2 := by
  simp [strength, isBust_of_isNatural h, h]

theorem strength_of_total (hbust : isBust hand = false) (hnatural : isNatural hand = false) :
    strength hand = total hand + 1 := by
  simp [strength, hbust, hnatural]

theorem strength_pos (h : isBust hand = false) : 0 < strength hand := by
  cases hnatural : isNatural hand with
  | true =>
    rw [strength_of_natural hnatural]
    exact Nat.succ_pos _
  | false =>
    rw [strength_of_total h hnatural]
    exact Nat.succ_pos _

private theorem strength_lt_of_not_natural (h : isNatural hand = false) :
    strength hand < limit + 2 := by
  cases hbust : isBust hand with
  | true =>
    rw [strength_of_bust hbust]
    exact Nat.succ_pos _
  | false =>
    have htotal := (isBust_eq_false_iff hand).mp hbust
    rw [strength_of_total hbust h]
    omega

theorem isStrength_strength : IsStrength strength where
  bust hand other hbust hother := by
    rw [strength_of_bust hbust]
    exact strength_pos hother
  totals hand other hhand hother hplain hplain' := by
    rw [strength_of_total hhand hplain, strength_of_total hother hplain']
    omega
  natural hand other hnatural hother := by
    rw [strength_of_natural hnatural]
    exact strength_lt_of_not_natural hother
  naturals hand other hhand hother := by
    rw [strength_of_natural hhand, strength_of_natural hother]

end Score

namespace Outcome

open Score

/-- The outcome with the sides of the table swapped. -/
def swapped : Outcome → Outcome
  | won => lost
  | lost => won
  | pushed => pushed

/-- The outcome for the player, by how their strength compares with the daimon's. -/
def ofOrdering : Ordering → Outcome
  | .gt => won
  | .lt => lost
  | .eq => pushed

variable {player daimon third : List Rank}

private theorem ofOrdering_swap (o : Ordering) : ofOrdering o.swap = (ofOrdering o).swapped := by
  cases o <;> rfl

theorem ofHands_of_bust (h : isBust player = true) (daimon : List Rank) :
    ofHands player daimon = lost := by
  have hnatural : isNatural player = false := by
    cases hcase : isNatural player with
    | true => cases h.symm.trans (isBust_of_isNatural hcase)
    | false => rfl
  unfold ofHands
  rw [hnatural]
  cases isNatural daimon
  · exact if_pos h
  · rfl

theorem ofHands_eq (h : ¬(isBust player = true ∧ isBust daimon = true)) :
    ofHands player daimon = ofOrdering (compare (strength player) (strength daimon)) := by
  have hstrong := isStrength_strength
  cases hplayer : isBust player with
  | true =>
    have hother : isBust daimon = false := by simpa [hplayer] using h
    have hlt := hstrong.bust _ _ hplayer hother
    rw [ofHands_of_bust hplayer, Nat.compare_eq_lt.mpr hlt]
    rfl
  | false =>
    unfold ofHands
    cases hnatural : isNatural player <;> cases hdaimon : isNatural daimon
    · cases hother : isBust daimon with
      | true =>
        rw [Nat.compare_eq_gt.mpr (hstrong.bust _ _ hother hplayer)]
        simp [hplayer, ofOrdering]
      | false =>
        have htotals := hstrong.totals _ _ hplayer hother hnatural hdaimon
        have htotals' := hstrong.totals _ _ hother hplayer hdaimon hnatural
        rcases Nat.lt_trichotomy (total player) (total daimon) with hlt | heq | hgt
        · rw [Nat.compare_eq_lt.mpr (htotals.1.mpr hlt)]
          simp [hplayer, hlt, Nat.lt_asymm hlt, ofOrdering]
        · rw [Nat.compare_eq_eq.mpr (htotals.2.mpr heq)]
          simp [hplayer, heq, ofOrdering]
        · rw [Nat.compare_eq_gt.mpr (htotals'.1.mpr hgt)]
          simp [hplayer, hgt, ofOrdering]
    · rw [Nat.compare_eq_lt.mpr (hstrong.natural _ _ hdaimon hnatural)]
      rfl
    · rw [Nat.compare_eq_gt.mpr (hstrong.natural _ _ hnatural hdaimon)]
      rfl
    · rw [Nat.compare_eq_eq.mpr (hstrong.naturals _ _ hnatural hdaimon)]
      rfl

theorem ofHands_swap (h : ¬(isBust player = true ∧ isBust daimon = true)) :
    ofHands daimon player = (ofHands player daimon).swapped := by
  rw [ofHands_eq h, ofHands_eq (mt And.symm h), ← ofOrdering_swap, Nat.compare_swap]

theorem ofHands_won_iff : ofHands player daimon = won ↔
    isBust player = false ∧ strength daimon < strength player := by
  cases hplayer : isBust player with
  | true => simp [ofHands_of_bust hplayer]
  | false =>
    rw [ofHands_eq (by simp [hplayer]), ← Nat.compare_eq_gt]
    cases compare (strength player) (strength daimon) <;> simp [ofOrdering]

theorem ofHands_lost_iff : ofHands player daimon = lost ↔
    isBust player = true ∨ strength player < strength daimon := by
  cases hplayer : isBust player with
  | true => simp [ofHands_of_bust hplayer]
  | false =>
    rw [ofHands_eq (by simp [hplayer]), ← Nat.compare_eq_lt]
    cases compare (strength player) (strength daimon) <;> simp [ofOrdering]

theorem ofHands_pushed_iff : ofHands player daimon = pushed ↔
    isBust player = false ∧ strength player = strength daimon := by
  cases hplayer : isBust player with
  | true => simp [ofHands_of_bust hplayer]
  | false =>
    rw [ofHands_eq (by simp [hplayer]), ← Nat.compare_eq_eq]
    cases compare (strength player) (strength daimon) <;> simp [ofOrdering]

private theorem isBust_eq_false_of_pushed (h : ofHands player daimon = pushed) :
    isBust daimon = false := by
  obtain ⟨hplayer, heq⟩ := ofHands_pushed_iff.mp h
  cases hdaimon : isBust daimon with
  | true =>
    have hpos := strength_pos hplayer
    rw [heq, strength_of_bust hdaimon] at hpos
    cases hpos
  | false => rfl

theorem ofHands_trans {outcome : Outcome} (h : ofHands player daimon = outcome)
    (h' : ofHands daimon third = outcome) : ofHands player third = outcome := by
  cases outcome with
  | won =>
    obtain ⟨hplayer, hlt⟩ := ofHands_won_iff.mp h
    obtain ⟨-, hlt'⟩ := ofHands_won_iff.mp h'
    exact ofHands_won_iff.mpr ⟨hplayer, Nat.lt_trans hlt' hlt⟩
  | lost =>
    refine ofHands_lost_iff.mpr ?_
    obtain hbust | hlt := ofHands_lost_iff.mp h
    · exact .inl hbust
    · obtain hbust | hlt' := ofHands_lost_iff.mp h'
      · rw [strength_of_bust hbust] at hlt
        cases hlt
      · exact .inr (Nat.lt_trans hlt hlt')
  | pushed =>
    obtain ⟨hplayer, heq⟩ := ofHands_pushed_iff.mp h
    obtain ⟨-, heq'⟩ := ofHands_pushed_iff.mp h'
    exact ofHands_pushed_iff.mpr ⟨hplayer, heq.trans heq'⟩

theorem ofHands_congr (h : ofHands player daimon = pushed) (third : List Rank) :
    ofHands player third = ofHands daimon third ∧ ofHands third player = ofHands third daimon := by
  obtain ⟨hplayer, heq⟩ := ofHands_pushed_iff.mp h
  have hdaimon := isBust_eq_false_of_pushed h
  constructor
  · rw [ofHands_eq (by simp [hplayer]), ofHands_eq (by simp [hdaimon]), heq]
  · rw [ofHands_eq (by simp [hplayer]), ofHands_eq (by simp [hdaimon]), heq]

/-- Hands are compared by a strength that puts busts below all totals, totals in their order, and
naturals above all else. Swapping the sides swaps the outcome, unless both hands are bust: then
either order is lost. So outcomes are transitive, and hands that push are as good as one another. -/
theorem ofHands_fair :
    IsStrength strength ∧
    ∀ player daimon,
      (¬(isBust player = true ∧ isBust daimon = true) →
        ofHands daimon player = (ofHands player daimon).swapped ∧
        ofHands player daimon = ofOrdering (compare (strength player) (strength daimon))) ∧
      (isBust player = true → isBust daimon = true →
        ofHands player daimon = lost ∧ ofHands daimon player = lost) ∧
      ∀ third,
        (∀ outcome, ofHands player daimon = outcome → ofHands daimon third = outcome →
          ofHands player third = outcome) ∧
        (ofHands player daimon = pushed →
          ofHands player third = ofHands daimon third ∧
          ofHands third player = ofHands third daimon) := by
  refine ⟨isStrength_strength, fun player daimon => ⟨?_, ?_, ?_⟩⟩
  · intro h
    exact ⟨ofHands_swap h, ofHands_eq h⟩
  · intro hplayer hdaimon
    exact ⟨ofHands_of_bust hplayer daimon, ofHands_of_bust hdaimon player⟩
  · intro third
    exact ⟨fun _ => ofHands_trans, fun h => ofHands_congr h third⟩

/-- A natural wins against the limit in three cards from either side, and of two bust hands the
player's loses. -/
theorem ofHands_fair_natural :
    ofHands [.seven, .seven, .seven] [.ace, .king] =
      (ofHands [.ace, .king] [.seven, .seven, .seven]).swapped ∧
    ofHands [.ten, .nine, .five] [.king, .queen, .two] = lost := by
  obtain ⟨-, hfair⟩ := ofHands_fair
  obtain ⟨hone, -⟩ := hfair [.ace, .king] [.seven, .seven, .seven]
  obtain ⟨-, hboth, -⟩ := hfair [.ten, .nine, .five] [.king, .queen, .two]
  exact ⟨(hone (by decide)).1, (hboth (by decide) (by decide)).1⟩

end Outcome

end BloodStakes
