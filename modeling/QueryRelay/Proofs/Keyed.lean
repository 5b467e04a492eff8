import QueryRelay.Query.Outcome
import QueryRelay.Availability
import QueryRelay.Registry

/-!
# Keyed lists: lookups and reorderings

`QueryRelay.Keyed` defines `insertKeyed`, the insertion every keyed list of the gateway is
changed by, and shows that it keeps rank order. The registry's and the availability map's
insertions are tied to it where they are defined; this file ties the other two, a JSON object's
fields and a fan-out's outcomes (`Json.insertField_eq`, `insertOutcome_eq`), and gives the rest
of its theory.

A lookup of the first entry of a key sees the inserted entry for its key and the old entries
for every other (`find?_insertKeyed_self`, `find?_insertKeyed_of_ne`). Inserting a key the list
does not hold only reorders the list with the new entry in front (`insertKeyed_perm`), so a
list built by inserting entries of distinct keys is a reordering of those entries
(`foldl_insertKeyed_perm`); and inserting a whole list keeps rank order
(`pairwise_foldl_insertKeyed`).
-/

namespace QueryRelay

variable {κ β : Type} [DecidableEq κ]

section

variable (lt : κ → κ → Prop) [DecidableRel lt]

/-- An entry after inserting a list of entries was inserted or was there before. -/
theorem mem_foldl_insertKeyed {L acc : List (κ × β)} {e : κ × β}
    (h : e ∈ L.foldl (fun acc e => insertKeyed lt e.1 e.2 acc) acc) : e ∈ L ∨ e ∈ acc := by
  induction L generalizing acc with
  | nil => exact .inr h
  | cons x rest ih =>
    rcases ih h with h | h
    · exact .inl (List.mem_cons_of_mem _ h)
    · rcases mem_insertKeyed lt h with rfl | h
      · exact .inl List.mem_cons_self
      · exact .inr h

/-- **Inserting a new key only reorders.** -/
theorem insertKeyed_perm (k : κ) (v : β) {l : List (κ × β)} (h : k ∉ l.map Prod.fst) :
    (insertKeyed lt k v l).Perm ((k, v) :: l) := by
  induction l with
  | nil => exact List.Perm.refl _
  | cons e rest ih =>
    obtain ⟨k', v'⟩ := e
    have hne : k ≠ k' := fun hk => h (by simp [hk])
    have hrest : k ∉ rest.map Prod.fst := fun hk => h (List.mem_cons_of_mem _ hk)
    unfold insertKeyed
    split
    · exact List.Perm.refl _
    · exact ((ih hrest).cons _).trans (List.Perm.swap _ _ _)

/-- Inserting entries of distinct keys, none of them held yet, only reorders them. -/
theorem foldl_insertKeyed_perm (L acc : List (κ × β)) (hL : (L.map Prod.fst).Nodup)
    (hdisj : ∀ k ∈ L.map Prod.fst, k ∉ acc.map Prod.fst) :
    (L.foldl (fun acc e => insertKeyed lt e.1 e.2 acc) acc).Perm (L.reverse ++ acc) := by
  induction L generalizing acc with
  | nil => exact List.Perm.refl _
  | cons e rest ih =>
    obtain ⟨k, v⟩ := e
    obtain ⟨hk, hrest⟩ := List.nodup_cons.1 hL
    have hins := insertKeyed_perm lt k v (hdisj k List.mem_cons_self)
    -- the later keys are new to the grown accumulator as well
    have hdisj' : ∀ k' ∈ rest.map Prod.fst, k' ∉ (insertKeyed lt k v acc).map Prod.fst := by
      intro k' hk' hin
      rcases List.mem_cons.1 ((hins.map Prod.fst).mem_iff.1 hin) with rfl | hin
      · exact hk hk'
      · exact hdisj k' (List.mem_cons_of_mem _ hk') hin
    refine (ih _ hrest hdisj').trans ?_
    simpa using (hins.append_left rest.reverse)

theorem foldl_insertKeyed_perm_nil {L : List (κ × β)} (hL : (L.map Prod.fst).Nodup) :
    (L.foldl (fun acc e => insertKeyed lt e.1 e.2 acc) []).Perm L := by
  have h := foldl_insertKeyed_perm lt L [] hL (fun _ _ h => by simp at h)
  rw [List.append_nil] at h
  exact h.trans (List.reverse_perm L)

/-- After inserting `k`, the first entry of `k` is the one inserted. -/
theorem find?_insertKeyed_self (k : κ) (v : β) (l : List (κ × β)) :
    (insertKeyed lt k v l).find? (fun e => e.1 == k) = some (k, v) := by
  induction l with
  | nil => simp [insertKeyed]
  | cons e rest ih =>
    obtain ⟨k', v'⟩ := e
    unfold insertKeyed
    split
    · simp
    · split
      · simp
      · rename_i hne
        simp [Ne.symm hne, ih]

/-- Inserting `k` leaves the first entry of every other key as it was. -/
theorem find?_insertKeyed_of_ne {k q : κ} (v : β) (l : List (κ × β)) (h : q ≠ k) :
    (insertKeyed lt k v l).find? (fun e => e.1 == q) = l.find? (fun e => e.1 == q) := by
  induction l with
  | nil => simp [insertKeyed, Ne.symm h]
  | cons e rest ih =>
    obtain ⟨k', v'⟩ := e
    unfold insertKeyed
    split
    · simp [Ne.symm h]
    · split
      · rename_i hkk
        subst hkk
        simp [Ne.symm h]
      · by_cases hq : k' = q
        · simp [hq]
        · simp [hq, ih]

end

/-- The entry found for a key has that key. -/
theorem find?_eq_map_snd (l : List (κ × β)) (k : κ) :
    l.find? (fun e => e.1 == k) =
      ((l.find? (fun e => e.1 == k)).map Prod.snd).map (Prod.mk k) := by
  rcases hf : l.find? (fun e => e.1 == k) with _ | ⟨k', v⟩
  · rw [hf]
    rfl
  · have hk : k' = k := by simpa using List.find?_some hf
    rw [hf, hk]
    rfl

/-- **Keyed lists in rank order are their lookups.** Two lists in strictly increasing rank that
find the same entry for every key are equal. -/
theorem eq_of_find?_eq {rank : κ → Nat} {l₁ l₂ : List (κ × β)}
    (h₁ : l₁.Pairwise (fun a b => rank a.1 < rank b.1))
    (h₂ : l₂.Pairwise (fun a b => rank a.1 < rank b.1))
    (h : ∀ k, l₁.find? (fun e => e.1 == k) = l₂.find? (fun e => e.1 == k)) : l₁ = l₂ := by
  -- on the first list; the entry of least rank is the head of both
  induction l₁ generalizing l₂ with
  | nil =>
    rcases l₂ with _ | ⟨y, r₂⟩
    · rfl
    · simpa using h y.1
  | cons x r₁ ih =>
    obtain ⟨hx, hr₁⟩ := List.pairwise_cons.1 h₁
    rcases l₂ with _ | ⟨y, r₂⟩
    · simpa using h x.1
    obtain ⟨hy, hr₂⟩ := List.pairwise_cons.1 h₂
    -- each head is found in the other list, so neither ranks below the other
    have hxy : x = y := by
      have hinx : x ∈ y :: r₂ := List.mem_of_find?_eq_some (by rw [← h x.1]; simp)
      have hiny : y ∈ x :: r₁ := List.mem_of_find?_eq_some (by rw [h y.1]; simp)
      rcases List.mem_cons.1 hinx with hinx | hinx
      · exact hinx
      · rcases List.mem_cons.1 hiny with hiny | hiny
        · exact hiny.symm
        · exact absurd (Nat.lt_trans (hx _ hiny) (hy _ hinx)) (Nat.lt_irrefl _)
    subst hxy
    -- the rest of either list ranks above the head, so it holds no entry of the head's key
    have hnone : ∀ r : List (κ × β), (∀ e ∈ r, rank x.1 < rank e.1) →
        r.find? (fun e => e.1 == x.1) = none := fun r hr =>
      List.find?_eq_none.2 fun e he hek => by
        have hlt := hr e he
        rw [beq_iff_eq.1 hek] at hlt
        exact Nat.lt_irrefl _ hlt
    congr 1
    refine ih hr₁ hr₂ fun k => ?_
    by_cases hk : x.1 = k
    · subst hk
      rw [hnone r₁ hx, hnone r₂ hy]
    · simpa [List.find?_cons, hk] using h k

theorem pairwise_foldl_insertKeyed {rank : κ → Nat} (hinj : ∀ a b, rank a = rank b → a = b)
    (L : List (κ × β)) {acc : List (κ × β)} (h : acc.Pairwise (fun a b => rank a.1 < rank b.1)) :
    (L.foldl (fun acc e => insertKeyed (fun a b => rank a < rank b) e.1 e.2 acc) acc).Pairwise
      (fun a b => rank a.1 < rank b.1) := by
  induction L generalizing acc with
  | nil => exact h
  | cons e rest ih => exact ih (pairwise_insertKeyed hinj _ _ h)

/-! ## The model's insertions -/

theorem Json.insertField_eq (k : String) (v : Json) (fs : List (String × Json)) :
    Json.insertField k v fs = insertKeyed (· < ·) k v fs := by
  induction fs with
  | nil => rfl
  | cons e rest ih =>
    obtain ⟨k', v'⟩ := e
    simp only [Json.insertField, insertKeyed, ih]

theorem insertOutcome_eq (p : Provider) (o : Outcome) (l : List (Provider × Outcome)) :
    insertOutcome p o l = insertKeyed (fun a b => a.rank < b.rank) p o l := by
  induction l with
  | nil => rfl
  | cons e rest ih =>
    obtain ⟨q, o'⟩ := e
    simp only [insertOutcome, insertKeyed, ih]

end QueryRelay
