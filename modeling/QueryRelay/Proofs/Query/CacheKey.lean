import QueryRelay.Proofs.Json.Quote
import QueryRelay.Query.Request

/-!
# Cache keys

Two requests share a cache slot exactly when they ask the same thing: the same text of the
same provider for the same task type. The model version and the request id never count.

The key is the SHA-256 digest, in hexadecimal, of the key material: the compact JSON object of
the query, the preferred provider and the task type, in that order, with `null` for a missing
hint (`Request.keyMaterial_eq_render`). The material determines the three fields
(`Request.keyMaterial_inj`) because each part of it is self-delimiting: a written string stops
at its closing quote whatever it contains (`Json.quote_append_cancel`), `null` and a written
name differ in their first character, and the names of providers and of task types are
distinct. The hexadecimal writing of a digest loses nothing (`Digest.hexDigest_inj`), so the
keys of two requests agree exactly when their materials do, given that SHA-256 does not map
the two materials to one digest.
-/

namespace QueryRelay

/-! ## The hexadecimal digest -/

namespace Digest

theorem hexByte_toList (b : UInt8) : ∃ c₁ c₂, (hexByte b).toList = [c₁, c₂] ∧
    Json.hexOf? c₁ = some (b.toNat / 16) ∧ Json.hexOf? c₂ = some (b.toNat % 16) :=
  ⟨_, _, String.toList_ofList, Json.hexOf?_digit _ (by have := b.toNat_lt; omega),
    Json.hexOf?_digit _ (Nat.mod_lt _ (by decide))⟩

/-- Two bytes are told apart by their two hexadecimal digits, whatever follows them. -/
theorem hexByte_append_cancel {b b' : UInt8} {r r' : List Char}
    (h : (hexByte b).toList ++ r = (hexByte b').toList ++ r') : b = b' ∧ r = r' := by
  obtain ⟨c₁, c₂, hb, h₁, h₂⟩ := hexByte_toList b
  obtain ⟨c₁', c₂', hb', h₁', h₂'⟩ := hexByte_toList b'
  rw [hb, hb'] at h
  simp only [List.cons_append, List.nil_append, List.cons.injEq] at h
  obtain ⟨rfl, rfl, hr⟩ := h
  rw [h₁, Option.some.injEq] at h₁'
  rw [h₂, Option.some.injEq] at h₂'
  exact ⟨UInt8.toNat_inj.mp (by omega), hr⟩

theorem hexBytes_inj : ∀ {bs bs' : List UInt8},
    bs.flatMap (fun b => (hexByte b).toList) = bs'.flatMap (fun b => (hexByte b).toList) →
      bs = bs'
  | [], [], _ => rfl
  | [], b :: _, h => by
    obtain ⟨c₁, c₂, hb, -⟩ := hexByte_toList b
    simp [hb] at h
  | b :: _, [], h => by
    obtain ⟨c₁, c₂, hb, -⟩ := hexByte_toList b
    simp [hb] at h
  | b :: bs, b' :: bs', h => by
    rw [List.flatMap_cons, List.flatMap_cons] at h
    obtain ⟨rfl, hrest⟩ := hexByte_append_cancel h
    rw [hexBytes_inj hrest]

/-- **The hexadecimal writing loses nothing**: two texts with the same hexadecimal digest have
the same SHA-256 digest. -/
theorem hexDigest_inj {s t : String} (h : hexDigest s = hexDigest t) :
    digest s.toUTF8.toList = digest t.toUTF8.toList := by
  have h' := congrArg String.toList h
  simp only [hexDigest, String.toList_join, List.flatMap_map] at h'
  exact hexBytes_inj h'

end Digest

/-! ## The key material -/

namespace Request

open Json

/-- Each hint of the material is written as JSON: `null`, or its name as a string. -/
theorem keyMaterial_eq_parts (r : Request) :
    r.keyMaterial = "\x7b\"query\":" ++ quote r.query ++ ",\"provider\":" ++
      render (opt Provider.toJson r.provider) ++ ",\"task_type\":" ++
      render (opt TaskType.toJson r.taskType) ++ "\x7d" := by
  rcases r with ⟨q, _ | p, _ | t, mv, id⟩ <;> rfl

/-- The key material is the compact JSON object of the query, the preferred provider and the
task type, in that order, with `null` for a missing hint. -/
theorem keyMaterial_eq_render (r : Request) :
    r.keyMaterial = render (.obj [("query", .str r.query),
      ("provider", opt Provider.toJson r.provider), ("task_type", opt TaskType.toJson r.taskType)]) := by
  have hq : quote "query" = "\"query\"" := by decide
  have hp : quote "provider" = "\"provider\"" := by decide
  have ht : quote "task_type" = "\"task_type\"" := by decide
  rw [keyMaterial_eq_parts]
  simp only [render, renderFields, hq, hp, ht]
  -- the fixed text around the parts, compared character by character
  apply String.ext
  simp only [String.toList_append, List.append_assoc]
  rfl

theorem keyMaterial_toList (r : Request) :
    r.keyMaterial.toList = "\x7b\"query\":".toList ++ (quote r.query).toList ++
      ",\"provider\":".toList ++ (render (opt Provider.toJson r.provider)).toList ++
      ",\"task_type\":".toList ++ (render (opt TaskType.toJson r.taskType)).toList ++ ['\x7d'] := by
  rw [keyMaterial_eq_parts]
  simp only [String.toList_append]
  rfl

/-- An optional name written as JSON (`null`, or the name as a string) determines the hint,
whatever follows it, when distinct hints have distinct names. -/
theorem render_opt_append_cancel {α : Type} {w : α → String} (hw : ∀ a b, w a = w b → a = b)
    {o o' : Option α} {r r' : List Char}
    (h : (render (opt (fun a => .str (w a)) o)).toList ++ r =
      (render (opt (fun a => .str (w a)) o')).toList ++ r') : o = o' ∧ r = r' := by
  -- `null` starts with `n` and a written name with a quote, so the two kinds never meet
  cases o with
  | none =>
    cases o' with
    | none => exact ⟨rfl, List.append_cancel_left h⟩
    | some a' => simp [render, opt, quote, String.toList_append] at h
  | some a =>
    cases o' with
    | none => simp [render, opt, quote, String.toList_append] at h
    | some a' =>
      obtain ⟨hname, hr⟩ := quote_append_cancel h
      exact ⟨by rw [hw a a' hname], hr⟩

theorem provider_wireName_inj (p q : Provider) (h : p.wireName = q.wireName) : p = q := by
  have := Provider.ofWireName?_wireName p
  rwa [h, Provider.ofWireName?_wireName, Option.some.injEq, eq_comm] at this

theorem taskType_wireName_inj (t u : TaskType) (h : t.wireName = u.wireName) : t = u := by
  have := TaskType.ofSpelling?_wireName t
  rwa [h, TaskType.ofSpelling?_wireName, Option.some.injEq, eq_comm] at this

/-- **The key material determines what a request asks**: its query, its preferred provider and
its task type, whatever characters the query holds. -/
theorem keyMaterial_inj {a b : Request} (h : a.keyMaterial = b.keyMaterial) :
    a.query = b.query ∧ a.provider = b.provider ∧ a.taskType = b.taskType := by
  have h' := congrArg String.toList h
  simp only [keyMaterial_toList, List.append_assoc] at h'
  -- peel the material from the left: fixed text, the query, fixed text, the provider, ...
  obtain ⟨hq, h₁⟩ := quote_append_cancel (List.append_cancel_left h')
  obtain ⟨hp, h₂⟩ := render_opt_append_cancel provider_wireName_inj (List.append_cancel_left h₁)
  obtain ⟨ht, -⟩ := render_opt_append_cancel taskType_wireName_inj (List.append_cancel_left h₂)
  exact ⟨hq, hp, ht⟩

/-- The key material reads only the query and the two hints. -/
theorem keyMaterial_congr {a b : Request}
    (h : a.query = b.query ∧ a.provider = b.provider ∧ a.taskType = b.taskType) :
    a.keyMaterial = b.keyMaterial := by
  obtain ⟨hq, hp, ht⟩ := h
  simp only [keyMaterial, hq, hp, ht]

/-- **Requests share a cache key exactly when they ask the same thing.** The key material is
the compact JSON object `{"query":…,"provider":…,"task_type":…}` with `null` for a missing hint;
two requests have the same material exactly when their queries, preferred providers and task
types agree, whatever their model versions and request ids and whatever characters the queries
hold; and so, as long as SHA-256 does not give the two materials one digest, the same key. -/
theorem cacheKey_eq_iff_asks_same (a b : Request)
    (hsha : Digest.digest a.keyMaterial.toUTF8.toList = Digest.digest b.keyMaterial.toUTF8.toList →
      a.keyMaterial = b.keyMaterial) :
    a.keyMaterial = render (.obj [("query", .str a.query),
      ("provider", opt Provider.toJson a.provider), ("task_type", opt TaskType.toJson a.taskType)]) ∧
    (a.keyMaterial = b.keyMaterial ↔
      a.query = b.query ∧ a.provider = b.provider ∧ a.taskType = b.taskType) ∧
    (a.cacheKey = b.cacheKey ↔
      a.query = b.query ∧ a.provider = b.provider ∧ a.taskType = b.taskType) := by
  refine ⟨keyMaterial_eq_render a, ⟨keyMaterial_inj, keyMaterial_congr⟩, ⟨fun h => ?_, fun h => ?_⟩⟩
  · exact keyMaterial_inj (hsha (Digest.hexDigest_inj h))
  · rw [cacheKey, cacheKey, keyMaterial_congr h]

/-- Two requests for the same summary by the same provider, with different request ids and
model versions. -/
theorem cacheKey_eq_iff_asks_same_across_ids :
    let a : Request := { query := "summarize \"this\"", provider := some .openai,
                         taskType := some .summarization, modelVersion := some "v1",
                         requestId := some "a" }
    let b : Request := { a with modelVersion := none, requestId := some "b" }
    (Digest.digest a.keyMaterial.toUTF8.toList = Digest.digest b.keyMaterial.toUTF8.toList →
      a.keyMaterial = b.keyMaterial) ∧
    a.keyMaterial = render (.obj [("query", .str a.query),
      ("provider", opt Provider.toJson a.provider), ("task_type", opt TaskType.toJson a.taskType)]) ∧
    (a.keyMaterial = b.keyMaterial ↔
      a.query = b.query ∧ a.provider = b.provider ∧ a.taskType = b.taskType) ∧
    (a.cacheKey = b.cacheKey ↔
      a.query = b.query ∧ a.provider = b.provider ∧ a.taskType = b.taskType) := by
  intro a b
  have hsha : Digest.digest a.keyMaterial.toUTF8.toList = Digest.digest b.keyMaterial.toUTF8.toList →
      a.keyMaterial = b.keyMaterial := fun _ => rfl
  exact ⟨hsha, cacheKey_eq_iff_asks_same a b hsha⟩

end Request

end QueryRelay
