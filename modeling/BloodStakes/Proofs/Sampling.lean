import BloodStakes.Sample.Urn

/-! Drawing from an urn neither loses nor doubles an item: what has been drawn and what is
left are the items the urn was filled with. -/
namespace BloodStakes

namespace Urn

variable {α ω : Type}

theorem remove_perm [Add ω] [Sub ω] [Neg ω] [LT ω] [DecidableLT ω] [OfNat ω 0]
    (urn : Urn α ω) (i : Nat) (h : i < urn.size) :
    ((urn.remove i h).1 :: (urn.remove i h).2.items.toList).Perm urn.items.toList := by
  have hi : i < urn.items.size := h
  have hlast : urn.items.size - 1 < urn.items.size := by omega
  have hswap : (urn.items.swap i (urn.items.size - 1)).toList.Perm urn.items.toList :=
    (Array.swap_perm hi hlast).toList
  have hne : (urn.items.swap i (urn.items.size - 1)).toList ≠ [] := by
    apply List.ne_nil_of_length_pos
    simp only [Array.length_toList, Array.size_swap]
    omega
  -- the item drawn is the one that was moved to the end
  have hend : (urn.items.swap i (urn.items.size - 1)).toList.getLast hne = urn.items[i] := by
    simp [List.getLast_eq_getElem]
  have hremove : (urn.remove i h).2.items.toList =
      (urn.items.swap i (urn.items.size - 1)).toList.dropLast := by
    simp [remove]
  rw [hremove]
  refine (List.perm_append_singleton _ _).symm.trans (List.Perm.trans ?_ hswap)
  have hsplit := List.dropLast_concat_getLast hne
  rw [hend] at hsplit
  exact .of_eq hsplit

theorem draw_perm (urn : Urn α Float) (rng : Rng) (h : 0 < urn.size) :
    ((urn.draw rng h).1.1 :: (urn.draw rng h).1.2.items.toList).Perm urn.items.toList := by
  unfold draw
  split <;> exact urn.remove_perm _ _

theorem draw_size (urn : Urn α Float) (rng : Rng) (h : 0 < urn.size) :
    (urn.draw rng h).1.2.size = urn.size - 1 := by
  unfold draw
  split <;> exact urn.size_remove _ _

theorem length_drawMany (count : Nat) (urn : Urn α Float) (rng : Rng) :
    (urn.drawMany rng count).1.length = min count urn.size := by
  induction count generalizing urn rng with
  | zero => simp [drawMany]
  | succ count ih =>
    unfold drawMany
    split
    · next h =>
      have hsize := urn.draw_size rng h
      simp only [List.length_cons, ih, hsize]
      omega
    · simp only [List.length_nil]
      omega

theorem drawMany_perm (count : Nat) (urn : Urn α Float) (rng : Rng) :
    ∃ left, ((urn.drawMany rng count).1 ++ left).Perm urn.items.toList := by
  induction count generalizing urn rng with
  | zero => exact ⟨urn.items.toList, by simp [drawMany]⟩
  | succ count ih =>
    unfold drawMany
    split
    · next h =>
      obtain ⟨left, hleft⟩ := ih (urn.draw rng h).1.2 (urn.draw rng h).2
      exact ⟨left, (hleft.cons _).trans (urn.draw_perm rng h)⟩
    · exact ⟨urn.items.toList, List.Perm.refl _⟩

end Urn

theorem sample_perm {α : Type} {items order : List α} {weights : List Float} {count : Nat}
    {rng rng' : Rng} (h : sample items weights count rng = .ok (order, rng')) :
    ∃ left, (order ++ left).Perm items ∧ order.length = min count items.length := by
  unfold sample at h
  split at h
  · next hlen =>
    simp only [Except.ok.injEq] at h
    obtain ⟨left, hleft⟩ := Urn.drawMany_perm count
      (.ofList items (weights.map usableWeight) (by simp [hlen])) rng
    have hcount := Urn.length_drawMany count
      (.ofList items (weights.map usableWeight) (by simp [hlen])) rng
    rw [h] at hleft hcount
    exact ⟨left, by simpa [Urn.ofList] using hleft, by simpa [Urn.ofList, Urn.size] using hcount⟩
  · cases h

theorem sample_all_perm {α : Type} {items order : List α} {weights : List Float} {count : Nat}
    {rng rng' : Rng} (hcount : items.length ≤ count)
    (h : sample items weights count rng = .ok (order, rng')) : order.Perm items := by
  obtain ⟨left, hperm, hlen⟩ := sample_perm h
  have hleft : left = [] := by
    have htotal := hperm.length_eq
    simp only [List.length_append] at htotal
    exact List.eq_nil_of_length_eq_zero (by omega)
  simpa [hleft] using hperm

end BloodStakes
