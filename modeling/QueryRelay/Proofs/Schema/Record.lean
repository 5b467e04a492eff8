import QueryRelay.Proofs.Keyed

/-!
# Reading records back

A record written as a JSON object is read field by field: `Schema.Record.field` looks a name up
among the object's fields and decodes the value it finds. This file says what that lookup sees
and what a whole reading gives, so that a value written by a `toJson` can be shown to read back
one field at a time.

## What an object holds

`Json.object L` sorts the fields of `L` by key. When `L` names each key once, sorting is only a
reordering (`Json.objectFields_perm`, an instance of `foldl_insertKeyed_perm`), and a lookup does not see the order: the values an
object holds for a key (`Json.valuesAt`) are those `L` holds for it
(`Json.valuesAt_objectFields`). So a lookup in a written object is computed on the list its
writer built, before sorting.

## Reading one field

A field present once in an object reads as its decoder reads its value; a field absent from
it reads as its default (`Schema.Record.field_run_present`, `Schema.Record.field_run_absent`).
Neither notes a fault, and a record whose fields all read without a fault reads as the value
its reader builds (`Schema.Record.run_fields_of_clean`).

## What a successful reading guarantees

A reading only ever adds faults, and a record reads successfully only if no field noted one.
So a property that every decoded field value and every default has holds of every value a
record reads successfully, whatever JSON it read it from, object or array
(`Schema.Record.Yields`, `Schema.Record.Yields.of_run`).
-/

namespace QueryRelay

/-! ## What an object holds -/

namespace Json

/-- The fields of the object built from `L`, sorted by key. -/
def objectFields (L : List (String × Json)) : List (String × Json) :=
  L.foldl (fun acc kv => insertField kv.1 kv.2 acc) []

theorem object_eq (L : List (String × Json)) : object L = .obj (objectFields L) := rfl

/-- The values a field list holds for a key, in order. -/
def valuesAt (fs : List (String × Json)) (k : String) : List Json :=
  (fs.filter (fun kv => kv.1 == k)).map Prod.snd

@[simp] theorem valuesAt_nil (k : String) : valuesAt [] k = [] := rfl

@[simp] theorem valuesAt_cons (k' : String) (v : Json) (fs : List (String × Json)) (k : String) :
    valuesAt ((k', v) :: fs) k = if k' = k then v :: valuesAt fs k else valuesAt fs k := by
  unfold valuesAt
  by_cases h : k' = k <;> simp [h]

@[simp] theorem valuesAt_append (fs fs' : List (String × Json)) (k : String) :
    valuesAt (fs ++ fs') k = valuesAt fs k ++ valuesAt fs' k := by
  simp [valuesAt, List.filter_append]

/-- An optional field is held under its name exactly when it is present. -/
@[simp] theorem valuesAt_optionField {α : Type} (x : Option α) (n : String) (e : α → Json)
    (k : String) :
    valuesAt (x.map (fun a => (n, e a))).toList k = if n = k then (x.map e).toList else [] := by
  cases x <;> by_cases h : n = k <;> simp [h]

theorem valuesAt_perm {fs fs' : List (String × Json)} (h : fs.Perm fs') (k : String) :
    (valuesAt fs k).Perm (valuesAt fs' k) :=
  (h.filter _).map _

/-- A list naming each key once holds at most one value for a key. -/
theorem length_valuesAt_le {L : List (String × Json)} (hL : (L.map Prod.fst).Nodup)
    (k : String) : (valuesAt L k).length ≤ 1 := by
  -- the keys of the held values are all `k`, and they are distinct
  have hnd : ((L.filter (fun kv => kv.1 == k)).map Prod.fst).Nodup :=
    hL.sublist (List.Sublist.map _ List.filter_sublist)
  have hall : ∀ x ∈ (L.filter (fun kv => kv.1 == k)).map Prod.fst, x = k := by
    intro x hx
    obtain ⟨kv, hkv, rfl⟩ := List.mem_map.1 hx
    simpa using (List.mem_filter.1 hkv).2
  have hlen : (valuesAt L k).length = ((L.filter (fun kv => kv.1 == k)).map Prod.fst).length := by
    simp [valuesAt]
  rw [hlen]
  rcases hks : (L.filter (fun kv => kv.1 == k)).map Prod.fst with _ | ⟨a, _ | ⟨b, t⟩⟩
  · rw [hks]
    simp
  · rw [hks]
    simp
  · rw [hks] at hnd hall
    have hab : a = b := (hall a List.mem_cons_self).trans (hall b (by simp)).symm
    exact absurd (hab ▸ List.mem_cons_self) (List.nodup_cons.1 hnd).1

/-- An object built from fields of distinct keys holds those fields, reordered. -/
theorem objectFields_perm {L : List (String × Json)} (hL : (L.map Prod.fst).Nodup) :
    (objectFields L).Perm L := by
  have hins : (fun acc (kv : String × Json) => insertField kv.1 kv.2 acc) =
      (fun acc kv => insertKeyed (· < ·) kv.1 kv.2 acc) := by
    funext acc kv
    exact insertField_eq kv.1 kv.2 acc
  unfold objectFields
  rw [hins]
  exact foldl_insertKeyed_perm_nil _ hL

/-- **A lookup in a written object.** When the writer names each key once, the object holds
for a key exactly the values the writer's list holds for it. -/
theorem valuesAt_objectFields {L : List (String × Json)} (hL : (L.map Prod.fst).Nodup)
    (k : String) : valuesAt (objectFields L) k = valuesAt L k := by
  have hp := valuesAt_perm (objectFields_perm hL) k
  have hlen := length_valuesAt_le hL k
  -- a reordering of a list of at most one value is that list
  rcases hv : valuesAt L k with _ | ⟨v, rest⟩
  · rw [hv] at hp
    exact hp.eq_nil
  · have hrest : rest = [] := by
      rw [hv] at hlen
      exact List.eq_nil_of_length_eq_zero (by simpa using hlen)
    subst hrest
    rw [hv] at hp
    exact List.perm_singleton.1 hp

end Json

namespace Schema

namespace Record

/-! ## Reading one field -/

/-- The values at the positions holding a key are the values held for it. -/
theorem positions_snd (fs : List (String × Json)) (name : String) :
    (positions fs name).map Prod.snd = Json.valuesAt fs name := by
  unfold positions Json.valuesAt
  rw [List.map_filterMap]
  -- the positions zipped onto the fields are read nowhere after
  have hg : (fun x : Nat × String × Json => Option.map Prod.snd
      (if (x.2.1 == name) = true then some (x.1, x.2.2) else none)) =
      (fun kv : String × Json => if kv.1 == name then some kv.2 else none) ∘ Prod.snd := by
    funext x
    by_cases h : x.2.1 = name <;> simp [h]
  rw [hg, ← List.filterMap_map, List.map_snd_zip (by simp)]
  induction fs with
  | nil => rfl
  | cons kv rest ih =>
    by_cases h : kv.1 = name <;> simp_all

theorem run_bind_of {α β : Type} {m : RecordM β} {f : β → RecordM α} {s : List RankedFault} {b : β}
    (h : m.run s = (b, s)) : (m >>= f).run s = (f b).run s := by
  rw [StateT.run_bind, h]
  rfl

variable {α : Type}

/-- A field held once in an object reads as its value decodes, and notes no fault. -/
theorem field_run_present [Inhabited α] {r : Record} {fs : List (String × Json)} (hl : r.layout = .fields fs)
    {name : String} {d : Decoder α} {j : Json} {a : α} (hv : Json.valuesAt fs name = [j])
    (hd : d j = .ok a) (ifAbsent ifShort : Option α) (s : List RankedFault) :
    (r.field name d ifAbsent ifShort).run s = (a, s) := by
  have hp := positions_snd fs name
  rw [hv] at hp
  obtain ⟨k, hk⟩ : ∃ k, positions fs name = [(k, j)] := by
    rcases hpos : positions fs name with _ | ⟨⟨k, j'⟩, rest⟩
    · rw [hpos] at hp
      cases hp
    · rw [hpos] at hp
      simp only [List.map_cons, List.cons.injEq] at hp
      obtain ⟨rfl, hrest⟩ := hp
      exact ⟨k, by rw [List.map_eq_nil_iff.1 hrest]⟩
  unfold field
  rw [hl]
  simp only [hk, hd]
  rfl

/-- A field absent from an object reads as its default, and notes no fault. -/
theorem field_run_absent [Inhabited α] {r : Record} {fs : List (String × Json)} (hl : r.layout = .fields fs)
    {name : String} (d : Decoder α) {a : α} (hv : Json.valuesAt fs name = [])
    (ifShort : Option α) (s : List RankedFault) :
    (r.field name d (some a) ifShort).run s = (a, s) := by
  have hp := positions_snd fs name
  rw [hv, List.map_eq_nil_iff] at hp
  unfold field
  rw [hl]
  simp only [hp]
  rfl

/-- A record read from an object whose fields all read without a fault is what its reader
builds. -/
theorem run_fields_of_clean {r : Record} {fs : List (String × Json)} (hl : r.layout = .fields fs)
    {body : Record → RecordM α} {a : α} (h : (body r).run [] = (a, [])) : r.run body = .ok a := by
  unfold run
  rw [hl]
  simp only [run_bind_of h]
  rfl

/-! ## What a successful reading guarantees -/

theorem run_bind_eq {β : Type} (m : RecordM β) (f : β → RecordM α) (s : List RankedFault) :
    (m >>= f).run s = (f (m.run s).1).run (m.run s).2 := by
  rw [StateT.run_bind]
  rfl

/-- Run after any faults, the reading only adds faults, and when it adds none its value
satisfies `P`. -/
def Yields {β : Type} (m : RecordM β) (P : β → Prop) : Prop :=
  ∀ s, ∃ e, (m.run s).2 = s ++ e ∧ (e = [] → P (m.run s).1)

namespace Yields

variable {β γ : Type} {P : β → Prop} {Q : γ → Prop}

theorem pure {b : β} (h : P b) : Yields (Pure.pure b : RecordM β) P :=
  fun s => ⟨[], (List.append_nil s).symm, fun _ => h⟩

theorem mono {m : RecordM β} (h : Yields m P) {P' : β → Prop} (hPP : ∀ b, P b → P' b) :
    Yields m P' := fun s => (h s).imp fun _ he => ⟨he.1, fun h0 => hPP _ (he.2 h0)⟩

/-- Each step's guarantee may lean on what the steps before it gave. -/
theorem bind {m : RecordM β} {f : β → RecordM γ} (hm : Yields m P)
    (hf : ∀ b, Yields (f b) (fun c => P b → Q c)) : Yields (m >>= f) Q := by
  intro s
  obtain ⟨e₁, h₁, hp₁⟩ := hm s
  obtain ⟨e₂, h₂, hp₂⟩ := hf (m.run s).1 (m.run s).2
  refine ⟨e₁ ++ e₂, ?_, fun he => ?_⟩
  · rw [run_bind_eq, h₂, h₁, List.append_assoc]
  · obtain ⟨he₁, he₂⟩ := List.append_eq_nil_iff.1 he
    rw [run_bind_eq]
    exact hp₂ he₂ (hp₁ he₁)

/-- A noted fault guarantees anything: the reading it is part of fails. -/
theorem note (phase index : Nat) (e : DecodeError) {P : Unit → Prop} :
    Yields (Record.note phase index e) P :=
  fun _ => ⟨[⟨phase, index, e⟩], rfl, fun h => absurd h (List.cons_ne_nil _ _)⟩

theorem note_bind {phase index : Nat} {e : DecodeError} {k : Unit → RecordM β}
    (hk : ∀ u, Yields (k u) (fun _ => True)) : Yields (Record.note phase index e >>= k) P :=
  bind (P := fun _ => False) (note phase index e) fun u => (hk u).mono fun _ _ h => absurd h id

/-- The value a decoder reads, or a fault and the default. -/
theorem decoded [Inhabited β] {d : Decoder β} (hd : ∀ j b, d j = .ok b → P b) (j : Json)
    (k : Nat) :
    Yields (match d j with
      | .ok a => Pure.pure a
      | .error e => do Record.note 0 k e; Pure.pure default) P := by
  cases hj : d j with
  | ok b => exact pure (hd j b hj)
  | error e => exact note_bind fun _ => pure trivial

/-- **A field's guarantee.** A field's value satisfies `P` when its decoder only reads values
that do and its defaults do. -/
theorem field [Inhabited β] (r : Record) (name : String) {d : Decoder β}
    {ifAbsent ifShort : Option β} (hd : ∀ j b, d j = .ok b → P b)
    (ha : ∀ b ∈ ifAbsent, P b) (hs : ∀ b ∈ ifShort, P b) :
    Yields (r.field name d ifAbsent ifShort) P := by
  unfold Record.field
  dsimp only
  split
  · split
    · split
      · exact pure (ha _ rfl)
      · exact note_bind fun _ => pure trivial
    · -- a repeated key is a fault; the first value is read either way
      split
      · exact note_bind fun _ => (decoded hd _ _).mono fun _ _ => trivial
      · exact decoded hd _ _
  · split
    · split
      · exact pure (hs _ rfl)
      · exact note_bind fun _ => pure trivial
    · exact decoded hd _ _

/-- The check for surplus items only adds faults. -/
theorem surplus (r : Record) :
    Yields (match r.layout with
      | .items xs =>
        if r.names.length < xs.length then Record.note 0 r.names.length (r.surplus xs.length)
        else Pure.pure ()
      | .fields _ => Pure.pure ()) (fun _ => True) := by
  split
  · split
    · exact note _ _ _
    · exact pure trivial
  · exact pure trivial

/-- A reading whose run notes no fault is read successfully, with a value that satisfies
`P`. -/
theorem of_firstFault {X : RecordM β} (hX : Yields X P) {b : β}
    (hXr : (match firstFault (X.run []).2 with
      | some e => Except.error e
      | none => .ok (X.run []).1) = (.ok b : Except DecodeError β)) : P b := by
  obtain ⟨e, he, hp⟩ := hX []
  rw [he, List.nil_append] at hXr
  cases e with
  | nil =>
    cases hXr
    exact hp rfl
  | cons f rest => cases hXr

/-- **A successful reading.** A record read successfully, from an object or from an array,
has every property its reading guarantees. -/
theorem of_run {r : Record} {body : Record → RecordM β} {b : β} (h : Yields (body r) P)
    (hr : r.run body = .ok b) : P b := by
  -- the reading, then the check for surplus items, which only adds faults
  have hall := bind h fun a => bind (surplus r) fun _ =>
    pure (P := fun c => True → P a → P c) fun _ ha => ha
  exact of_firstFault hall hr

end Yields

end Record

end Schema

end QueryRelay
