/-!
# Keyed lists kept in order

Several lists of the gateway hold entries by key, each key once, in a fixed order of the keys:
the fields of a JSON object (by name), the router's availability map, a fan-out's outcomes and
the registry (by provider). Each is changed by the same insertion: walk to the first entry whose
key comes after the new one and put the new entry before it, or replace the entry of an equal
key. `insertKeyed` is that insertion, for any order `lt`.

When the order compares keys by an injective rank, inserting keeps a list in strictly
increasing rank (`pairwise_insertKeyed`), and so does any change of the values alone
(`pairwise_map_of_fst`). That is what lets the maps built this way carry their order as a field,
proved where they are built; that each key is held once follows from it (`nodup_of_pairwise`).
-/

namespace QueryRelay

variable {κ β : Type} [DecidableEq κ]

/-- Put `(k, v)` into a keyed list before the first entry whose key comes after `k` in `lt`,
replacing the entry of `k` if it meets it first. -/
def insertKeyed (lt : κ → κ → Prop) [DecidableRel lt] (k : κ) (v : β) :
    List (κ × β) → List (κ × β)
  | [] => [(k, v)]
  | (k', v') :: rest =>
    if lt k k' then (k, v) :: (k', v') :: rest
    else if k = k' then (k, v) :: rest
    else (k', v') :: insertKeyed lt k v rest

section

variable (lt : κ → κ → Prop) [DecidableRel lt]

/-- An entry after an insertion is the new one or was there before. -/
theorem mem_insertKeyed {k : κ} {v : β} {l : List (κ × β)} {e : κ × β}
    (h : e ∈ insertKeyed lt k v l) : e = (k, v) ∨ e ∈ l := by
  induction l with
  | nil => simpa [insertKeyed] using h
  | cons x rest ih =>
    obtain ⟨k', v'⟩ := x
    unfold insertKeyed at h
    split at h
    · simpa using h
    · split at h
      · rcases List.mem_cons.1 h with h | h
        · exact .inl h
        · exact .inr (List.mem_cons_of_mem _ h)
      · rcases List.mem_cons.1 h with h | h
        · exact .inr (h ▸ List.mem_cons_self)
        · rcases ih h with h | h
          · exact .inl h
          · exact .inr (List.mem_cons_of_mem _ h)

end

/-- **Inserting keeps rank order.** With keys compared by an injective rank, inserting into a
list in strictly increasing rank keeps it so. -/
theorem pairwise_insertKeyed {rank : κ → Nat} (hinj : ∀ a b, rank a = rank b → a = b)
    (k : κ) (v : β) {l : List (κ × β)} (h : l.Pairwise (fun a b => rank a.1 < rank b.1)) :
    (insertKeyed (fun a b => rank a < rank b) k v l).Pairwise
      (fun a b => rank a.1 < rank b.1) := by
  induction l with
  | nil => exact List.pairwise_singleton _ _
  | cons x rest ih =>
    obtain ⟨k', v'⟩ := x
    obtain ⟨hr, hrest⟩ := List.pairwise_cons.1 h
    unfold insertKeyed
    split
    · rename_i hlt
      refine List.pairwise_cons.2 ⟨fun e he => ?_, h⟩
      rcases List.mem_cons.1 he with rfl | he
      · exact hlt
      · exact Nat.lt_trans hlt (hr e he)
    · split
      · rename_i hkk
        subst hkk
        exact List.pairwise_cons.2 ⟨hr, hrest⟩
      · rename_i hnlt hkk
        -- `k` ranks above `k'`, as every entry of the rest does
        have hlt : rank k' < rank k := by
          rcases Nat.lt_or_ge (rank k') (rank k) with hlt | hge
          · exact hlt
          · exact absurd (hinj _ _ (Nat.le_antisymm hge (Nat.le_of_not_lt hnlt))) hkk
        refine List.pairwise_cons.2 ⟨fun e he => ?_, ih hrest⟩
        rcases mem_insertKeyed _ he with rfl | he
        · exact hlt
        · exact hr e he

/-- **Changing values keeps rank order.** A map of the entries that keeps every key keeps a list
in strictly increasing rank. -/
theorem pairwise_map_of_fst {γ : Type} {rank : κ → Nat} {l : List (κ × β)}
    (F : κ × β → κ × γ) (hF : ∀ e, (F e).1 = e.1)
    (h : l.Pairwise (fun a b => rank a.1 < rank b.1)) :
    (l.map F).Pairwise (fun a b => rank a.1 < rank b.1) :=
  h.map F fun a b hab => by rwa [hF a, hF b]

/-- A list in strictly increasing rank holds each key once. -/
theorem nodup_of_pairwise {rank : κ → Nat} {l : List (κ × β)}
    (h : l.Pairwise (fun a b => rank a.1 < rank b.1)) : (l.map Prod.fst).Nodup :=
  List.pairwise_map.2 (h.imp fun hab heq => by rw [heq] at hab; exact Nat.lt_irrefl _ hab)

end QueryRelay
