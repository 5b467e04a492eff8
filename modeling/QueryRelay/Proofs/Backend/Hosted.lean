import QueryRelay.Backend.Hosted
import QueryRelay.Proofs.Keyed

/-!
# Hosted clients from the settings

The gateway makes a hosted client for every enabled provider that has one (OpenAI, Gemini,
Mistral and Claude; Vertex and Bedrock are skipped), each retrying by the settings' retry
policy, and refuses the whole set as soon as one of those providers is configured without a
model: a model name that is empty or made only of blanks. No partial set is ever returned.

The providers of the settings are visited in list order (`Settings.hostedClients_eq`: the
first blank model, found by `List.find?`, names the error). Settings list each provider at most
once in provider order; every settings read from JSON do (`Settings.decodeProviders_pairwise`),
and for such settings the error names the blank-model provider that comes first in provider
order (`Settings.hostedClients_outcome`).
-/

namespace QueryRelay

theorem Provider.hasHostedClient_iff (p : Provider) :
    p.hasHostedClient = true ↔ p ∈ [.openai, .gemini, .mistral, .claude] := by
  cases p <;> decide

theorem Text.isBlankText_eq_false_iff (s : String) :
    Text.isBlankText s = false ↔ ∃ ch ∈ s.toList, Text.isBlank ch = false := by
  rw [Text.isBlankText, ← Bool.not_eq_true, List.all_eq_true]
  simp

namespace HostedClient

/-- For a provider with a hosted client, making one fails exactly on a blank model. -/
theorem create_of_hosted {p : Provider} (hp : p.hasHostedClient = true) (model : String)
    (prompt : Option String) :
    create p model prompt =
      if Text.isBlankText model then .error (.config ("no model configured for " ++ p.wireName))
      else .ok ⟨p, model, prompt, RetrySettings.never⟩ := by
  simp only [create, hp, Bool.not_true, Bool.false_eq_true, ↓reduceIte]
  rfl

end HostedClient

namespace Settings

/-- The clients made for a list of providers that all have one, in list order: the first blank
model stops the whole with its error, and otherwise every provider gets its client. -/
theorem mapM_create (retry : RetrySettings) (L : List (Provider × ProviderSettings))
    (hL : ∀ e ∈ L, e.1.hasHostedClient = true) :
    L.mapM (fun e => do
        let c ← HostedClient.create e.1 e.2.model e.2.systemPrompt
        pure { c with retry := retry }) =
      match L.find? (fun e => Text.isBlankText e.2.model) with
      | some e => .error (.config ("no model configured for " ++ e.1.wireName))
      | none => .ok (L.map (fun e => ⟨e.1, e.2.model, e.2.systemPrompt, retry⟩)) := by
  induction L with
  | nil => rfl
  | cons e L ih =>
    have he := HostedClient.create_of_hosted (hL e List.mem_cons_self) e.2.model e.2.systemPrompt
    rw [List.mapM_cons, List.find?_cons, he]
    cases hb : Text.isBlankText e.2.model with
    | true => rfl
    | false =>
      rw [ih (fun x hx => hL x (List.mem_cons_of_mem _ hx))]
      simp only [Bool.false_eq_true, ↓reduceIte]
      cases L.find? (fun e => Text.isBlankText e.2.model) <;> rfl

/-- The hosted clients of the settings, in one equation: the first enabled provider with a
hosted client and a blank model names the error; without one, each such provider gets a client
with its model, its system prompt and the settings' retry policy. -/
theorem hostedClients_eq (s : Settings) :
    s.hostedClients =
      match (s.enabledProviders.filter (fun e => e.1.hasHostedClient)).find?
          (fun e => Text.isBlankText e.2.model) with
      | some e => .error (.config ("no model configured for " ++ e.1.wireName))
      | none => .ok ((s.enabledProviders.filter (fun e => e.1.hasHostedClient)).map
          (fun e => ⟨e.1, e.2.model, e.2.systemPrompt, s.retry⟩)) :=
  mapM_create s.retry _ (fun _ he => (List.mem_filter.1 he).2)

/-- In a list in strictly increasing rank, the first entry with a property is one of least
rank among those with it. -/
theorem rank_le_of_find? {L : List (Provider × ProviderSettings)} {P : Provider × ProviderSettings → Bool}
    {e₀ e : Provider × ProviderSettings} (hsorted : L.Pairwise (fun a b => a.1.rank < b.1.rank))
    (hfind : L.find? P = some e₀) (he : e ∈ L) (hp : P e = true) : e₀.1.rank ≤ e.1.rank := by
  obtain ⟨-, as, bs, rfl, hbefore⟩ := List.find?_eq_some_iff_append.1 hfind
  -- `e` is not before `e₀`, so it is `e₀` or comes after it
  rcases List.mem_append.1 he with hin | hin
  · have := hbefore e hin
    rw [hp] at this
    cases this
  · rcases List.mem_cons.1 hin with rfl | hin
    · exact Nat.le_refl _
    · exact Nat.le_of_lt ((List.pairwise_cons.1 (List.pairwise_append.1 hsorted).2.1).1 e hin)

/-- **Which hosted clients the settings give.** For settings listing each provider at most once
in provider order:

* the providers with a hosted client are OpenAI, Gemini, Mistral and Claude;
* the clients are made exactly when every enabled one of these has a model holding a character
  other than a blank;
* then there is one client for each of them, in provider order, with its model and system
  prompt and the settings' retry policy;
* otherwise the result is the configuration error naming the first of them, in provider order,
  whose model is blank. -/
theorem hostedClients_outcome (s : Settings)
    (hsorted : s.providers.Pairwise (fun a b => a.1.rank < b.1.rank)) :
    (∀ p : Provider, p.hasHostedClient = true ↔ p ∈ [.openai, .gemini, .mistral, .claude]) ∧
    ((∃ cs, s.hostedClients = .ok cs) ↔
      ∀ e ∈ s.enabledProviders, e.1.hasHostedClient = true →
        ∃ ch ∈ e.2.model.toList, Text.isBlank ch = false) ∧
    ((∀ e ∈ s.enabledProviders, e.1.hasHostedClient = true →
        ∃ ch ∈ e.2.model.toList, Text.isBlank ch = false) →
      s.hostedClients = .ok ((s.enabledProviders.filter (fun e => e.1.hasHostedClient)).map
        (fun e => ⟨e.1, e.2.model, e.2.systemPrompt, s.retry⟩))) ∧
    (∀ e ∈ s.enabledProviders, e.1.hasHostedClient = true → Text.isBlankText e.2.model = true →
      (∀ e' ∈ s.enabledProviders, e'.1.hasHostedClient = true →
        Text.isBlankText e'.2.model = true → e.1.rank ≤ e'.1.rank) →
      s.hostedClients = .error (.config ("no model configured for " ++ e.1.wireName))) := by
  -- the blank-model test on the hosted providers, as `find?` runs it
  have hnone : (s.enabledProviders.filter (fun e => e.1.hasHostedClient)).find?
      (fun e => Text.isBlankText e.2.model) = none ↔
      ∀ e ∈ s.enabledProviders, e.1.hasHostedClient = true →
        ∃ ch ∈ e.2.model.toList, Text.isBlank ch = false := by
    simp only [List.find?_eq_none, List.mem_filter, and_imp, Bool.not_eq_true,
      Text.isBlankText_eq_false_iff]
  have hok : (∀ e ∈ s.enabledProviders, e.1.hasHostedClient = true →
        ∃ ch ∈ e.2.model.toList, Text.isBlank ch = false) →
      s.hostedClients = .ok ((s.enabledProviders.filter (fun e => e.1.hasHostedClient)).map
        (fun e => ⟨e.1, e.2.model, e.2.systemPrompt, s.retry⟩)) := fun h => by
    rw [hostedClients_eq, hnone.2 h]
  refine ⟨Provider.hasHostedClient_iff, ⟨fun ⟨cs, hcs⟩ => ?_, fun h => ⟨_, hok h⟩⟩, hok,
    fun e he hhost hblank hleast => ?_⟩
  · rw [hostedClients_eq] at hcs
    apply hnone.1
    cases hfind : (s.enabledProviders.filter (fun e => e.1.hasHostedClient)).find?
        (fun e => Text.isBlankText e.2.model) with
    | none => rfl
    | some e => rw [hfind] at hcs; cases hcs
  · rw [hostedClients_eq]
    have hsorted' := (hsorted.filter (fun e => e.2.enabled)).filter (fun e => e.1.hasHostedClient)
    have hmem : e ∈ s.enabledProviders.filter (fun e => e.1.hasHostedClient) :=
      List.mem_filter.2 ⟨he, hhost⟩
    cases hfind : (s.enabledProviders.filter (fun e => e.1.hasHostedClient)).find?
        (fun e => Text.isBlankText e.2.model) with
    | none => exact absurd hblank (List.find?_eq_none.1 hfind e hmem)
    | some e₀ =>
      -- the first blank model found and the least one in rank are one provider
      obtain ⟨hblank₀, -⟩ := List.find?_eq_some_iff_append.1 hfind
      have hmem₀ := List.mem_of_find?_eq_some hfind
      have hle := rank_le_of_find? hsorted' hfind hmem hblank
      have hge := hleast e₀ (List.mem_filter.1 hmem₀).1 (List.mem_filter.1 hmem₀).2 hblank₀
      show Except.error (Failure.config ("no model configured for " ++ e₀.1.wireName)) = _
      rw [Provider.rank_injective (Nat.le_antisymm hle hge)]

/-- Gemini is enabled with a blank model and Claude with a model, Mistral is disabled with no
model, and Vertex, which has no hosted client, is enabled with no model. -/
theorem hostedClients_outcome_on_blank_gemini :
    let s : Settings := { providers := [(.gemini, { model := " \t" }), (.mistral, { enabled := false, model := "" }),
      (.claude, { model := "claude-3" }), (.vertex, { model := "" })] }
    s.providers.Pairwise (fun a b => a.1.rank < b.1.rank) ∧
    (∀ p : Provider, p.hasHostedClient = true ↔ p ∈ [.openai, .gemini, .mistral, .claude]) ∧
    ((∃ cs, s.hostedClients = .ok cs) ↔
      ∀ e ∈ s.enabledProviders, e.1.hasHostedClient = true →
        ∃ ch ∈ e.2.model.toList, Text.isBlank ch = false) ∧
    ((∀ e ∈ s.enabledProviders, e.1.hasHostedClient = true →
        ∃ ch ∈ e.2.model.toList, Text.isBlank ch = false) →
      s.hostedClients = .ok ((s.enabledProviders.filter (fun e => e.1.hasHostedClient)).map
        (fun e => ⟨e.1, e.2.model, e.2.systemPrompt, s.retry⟩))) ∧
    (∀ e ∈ s.enabledProviders, e.1.hasHostedClient = true → Text.isBlankText e.2.model = true →
      (∀ e' ∈ s.enabledProviders, e'.1.hasHostedClient = true →
        Text.isBlankText e'.2.model = true → e.1.rank ≤ e'.1.rank) →
      s.hostedClients = .error (.config ("no model configured for " ++ e.1.wireName))) := by
  intro s
  have hsorted : s.providers.Pairwise (fun a b => a.1.rank < b.1.rank) := by decide
  exact ⟨hsorted, hostedClients_outcome s hsorted⟩

/-! ## Read settings list their providers in order -/

theorem setProvider_eq (p : Provider) (ps : ProviderSettings)
    (l : List (Provider × ProviderSettings)) :
    setProvider p ps l = insertKeyed (fun a b => a.rank < b.rank) p ps l := by
  induction l with
  | nil => rfl
  | cons e rest ih =>
    obtain ⟨q, t⟩ := e
    simp only [setProvider, insertKeyed, ih]

/-- The providers section, once read, lists each provider at most once, in provider order. -/
theorem decodeProviders_pairwise {j : Json} {ps : List (Provider × ProviderSettings)}
    (h : decodeProviders j = .ok ps) : ps.Pairwise (fun a b => a.1.rank < b.1.rank) := by
  unfold decodeProviders at h
  cases hes : Schema.Decoder.entries (Schema.Decoder.spelled Provider.spellings) decodeProvider j with
  | error f => rw [hes] at h; cases h
  | ok es =>
    rw [hes] at h
    cases h
    have hfold : (fun acc (e : Provider × ProviderSettings) => setProvider e.1 e.2 acc) =
        (fun acc e => insertKeyed (fun a b => a.rank < b.rank) e.1 e.2 acc) := by
      funext acc e
      exact setProvider_eq e.1 e.2 acc
    rw [hfold]
    exact pairwise_foldl_insertKeyed (fun a b h => Provider.rank_injective h) es List.Pairwise.nil

end Settings

end QueryRelay
