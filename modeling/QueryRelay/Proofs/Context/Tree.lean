import QueryRelay.Proofs.Context.Race

/-!
# What derived contexts keep

`Context.Tree` runs a program's calls on its tokens and contexts. This file proves what every
state those calls reach keeps, whatever the calls and their instants, and what it means for a
run under a context of the tree.

* **The invariant.** Every reachable state is `Contexts.Coherent`: a token is derived only from
  tokens made before it, from everything those were derived from, and is cancelled whenever one
  of them is; a context is derived only from contexts made before it, holds a token derived from
  theirs, and has a deadline no later than theirs. Each call keeps it (`Contexts.Coherent.move`,
  from the inversion `Contexts.move_of_step` of what one call can do), so every run of calls
  does (`Contexts.Coherent.runCalls`).
* **Nothing is lost.** A call keeps every context and every cancellation
  (`Contexts.Grows.runCalls`).
* **Derived contexts.** In a coherent state a derived context's deadline is no later than its
  ancestors', it is cancelled with them, and so it is done at every instant at which one of
  them is (`Contexts.error_isSome_of_descends`). A cancelled context stays cancelled, and the
  contexts derived from it later are cancelled from the start (`Contexts.cancelled_after_cancel`).
* **Runs.** A run under a context answers by the rule of its race against its view of the
  context, and a cancellation of the context or of an ancestor while the run goes on is in that
  view by the instant of the call (`Contexts.view_due_of_cancel`).
-/

namespace QueryRelay

/-- Deadline `d₁` falls no later than deadline `d₂`; no deadline is later than every instant. -/
def noLater : Option Nat → Option Nat → Bool
  | _, none => true
  | some u, some t => u ≤ t
  | none, some _ => false

theorem noLater_refl (d : Option Nat) : noLater d d = true := by
  cases d <;> simp [noLater]

@[simp] theorem noLater_none (d : Option Nat) : noLater d none = true := by
  cases d <;> rfl

theorem noLater_some_iff {d : Option Nat} {u : Nat} :
    noLater d (some u) = true ↔ ∃ v, d = some v ∧ v ≤ u := by
  cases d <;> simp [noLater]

theorem noLater_trans {d₁ d₂ d₃ : Option Nat} (h₁₂ : noLater d₁ d₂ = true)
    (h₂₃ : noLater d₂ d₃ = true) : noLater d₁ d₃ = true := by
  cases d₁ <;> cases d₂ <;> cases d₃ <;> simp_all [noLater]
  omega

namespace Contexts

/-- The earlier of a deadline and a candidate is no later than the deadline. -/
theorem noLater_earlier (d : Option Nat) (candidate : Nat) :
    noLater (some (earlier d candidate)) d = true := by
  cases d with
  | none => rfl
  | some e =>
    by_cases h : e < candidate
    · simp [earlier, noLater, h]
    · simp [earlier, noLater, h, Nat.le_of_not_lt h]

/-! ## Views of the state -/

/-- Token `j` was derived from token `a`, directly or through other tokens. -/
def TokenDerives (S : Contexts) (j a : Nat) : Prop :=
  ∃ t, S.tokens[j]? = some t ∧ a ∈ t.ancestors

/-- Context `b` was derived from context `a`, directly or through other contexts. -/
def Descends (S : Contexts) (b a : Nat) : Prop :=
  ∃ n, S.nodes[b]? = some n ∧ a ∈ n.lineage

/-- Whether context `c` is cancelled: its token is. -/
def isCancelled (S : Contexts) (c : Nat) : Bool :=
  match S.nodes[c]? with
  | some n => S.tokenCancelled n.token
  | none => false

/-- The deadline of context `c`. -/
def deadlineOf (S : Contexts) (c : Nat) : Option Nat :=
  match S.nodes[c]? with
  | some n => n.deadline
  | none => none

variable {S S' : Contexts}

theorem isCancelled_eq_true_iff {c : Nat} :
    S.isCancelled c = true ↔ ∃ n, S.nodes[c]? = some n ∧ S.tokenCancelled n.token = true := by
  unfold isCancelled
  cases S.nodes[c]? <;> simp

theorem lt_of_tokenCancelled {k : Nat} (h : S.tokenCancelled k = true) : k < S.tokens.length := by
  unfold tokenCancelled at h
  cases hk : S.tokens[k]? with
  | none => simp [hk] at h
  | some t => exact (List.getElem?_eq_some_iff.1 hk).1

theorem lt_of_tokenDerives {j a : Nat} (h : S.TokenDerives j a) : j < S.tokens.length := by
  obtain ⟨t, ht, -⟩ := h
  exact (List.getElem?_eq_some_iff.1 ht).1

/-! ## Adding a token -/

@[simp] theorem addToken_nodes (t : Token) : (S.addToken t).nodes = S.nodes := rfl

@[simp] theorem addNode_tokens (n : ContextNode) : (S.addNode n).tokens = S.tokens := rfl

@[simp] theorem cancelToken_nodes (k : Nat) : (S.cancelToken k).nodes = S.nodes := rfl

/-- An entry of a list with one entry appended is an entry of the list or the new one, at the
end. Both lists of a state grow this way. -/
theorem getElem?_concat_eq_some {α : Type} {l : List α} {x u : α} {j : Nat} :
    (l ++ [x])[j]? = some u ↔ l[j]? = some u ∨ (j = l.length ∧ u = x) := by
  rw [List.getElem?_append, List.getElem?_singleton]
  rcases Nat.lt_trichotomy j l.length with hj | rfl | hj
  · simp [hj, Nat.ne_of_lt hj]
  · simp [eq_comm]
  · simp [List.getElem?_eq_none (Nat.le_of_lt hj), Nat.ne_of_gt hj, Nat.sub_ne_zero_of_lt hj]

theorem tokens_getElem?_addToken {t u : Token} {j : Nat} :
    (S.addToken t).tokens[j]? = some u ↔
      S.tokens[j]? = some u ∨ (j = S.tokens.length ∧ u = t) :=
  getElem?_concat_eq_some

theorem tokenDerives_addToken {t : Token} {j a : Nat} :
    (S.addToken t).TokenDerives j a ↔
      S.TokenDerives j a ∨ (j = S.tokens.length ∧ a ∈ t.ancestors) := by
  constructor
  · rintro ⟨u, hu, ha⟩
    rcases tokens_getElem?_addToken.1 hu with hu | ⟨rfl, rfl⟩
    · exact .inl ⟨u, hu, ha⟩
    · exact .inr ⟨rfl, ha⟩
  · rintro (⟨u, hu, ha⟩ | ⟨rfl, ha⟩)
    · exact ⟨u, tokens_getElem?_addToken.2 (.inl hu), ha⟩
    · exact ⟨t, tokens_getElem?_addToken.2 (.inr ⟨rfl, rfl⟩), ha⟩

theorem tokenCancelled_addToken (t : Token) (j : Nat) :
    (S.addToken t).tokenCancelled j =
      if j = S.tokens.length then t.cancelled else S.tokenCancelled j := by
  unfold tokenCancelled
  split
  · rename_i u hu
    rcases tokens_getElem?_addToken.1 hu with hu | ⟨rfl, rfl⟩
    · rw [if_neg (Nat.ne_of_lt (List.getElem?_eq_some_iff.1 hu).1), hu]
    · simp
  · rename_i hnone
    have hj : ¬ j < S.tokens.length + 1 := by
      simpa [addToken] using hnone
    have hold : S.tokens[j]? = none := List.getElem?_eq_none (by omega)
    rw [if_neg (by omega), hold]

/-! ## Cancelling a token -/

theorem tokens_getElem?_cancelToken (k j : Nat) :
    (S.cancelToken k).tokens[j]? = S.tokens[j]?.map fun t =>
      if j = k ∨ k ∈ t.ancestors then { t with cancelled := true } else t :=
  List.getElem?_mapIdx

theorem tokenDerives_cancelToken {k j a : Nat} :
    (S.cancelToken k).TokenDerives j a ↔ S.TokenDerives j a := by
  unfold TokenDerives
  rw [tokens_getElem?_cancelToken]
  constructor
  · rintro ⟨u, hu, ha⟩
    obtain ⟨t, ht, rfl⟩ := Option.map_eq_some_iff.1 hu
    refine ⟨t, ht, ?_⟩
    split at ha <;> exact ha
  · rintro ⟨t, ht, ha⟩
    refine ⟨_, by rw [ht]; rfl, ?_⟩
    dsimp only
    split <;> exact ha

/-- After cancelling `k`, a token is cancelled if it was, if it is `k`, or if it was derived
from `k`. -/
theorem tokenCancelled_cancelToken {k j : Nat} :
    (S.cancelToken k).tokenCancelled j = true ↔
      S.tokenCancelled j = true ∨ (j = k ∧ k < S.tokens.length) ∨ S.TokenDerives j k := by
  unfold tokenCancelled TokenDerives
  rw [tokens_getElem?_cancelToken]
  cases ht : S.tokens[j]? with
  | none =>
    -- no token `j`: neither side holds
    have hj : S.tokens.length ≤ j := List.getElem?_eq_none_iff.1 ht
    constructor
    · intro h
      simp at h
    · rintro (h | ⟨rfl, hk⟩ | ⟨u, hu, -⟩)
      · simp at h
      · omega
      · cases hu
  | some t =>
    have hj : j < S.tokens.length := (List.getElem?_eq_some_iff.1 ht).1
    by_cases hm : j = k ∨ k ∈ t.ancestors
    · rcases hm with rfl | hk
      · simp [hj]
      · simp [hk]
    · rw [not_or] at hm
      simp [hm.1, hm.2]

/-! ## Adding a context -/

theorem nodes_getElem?_addNode {n m : ContextNode} {c : Nat} :
    (S.addNode n).nodes[c]? = some m ↔
      S.nodes[c]? = some m ∨ (c = S.nodes.length ∧ m = n) :=
  getElem?_concat_eq_some

theorem nodes_getElem?_addNode_of_lt {n m : ContextNode} {c : Nat} (hc : c < S.nodes.length)
    (h : (S.addNode n).nodes[c]? = some m) : S.nodes[c]? = some m := by
  rcases nodes_getElem?_addNode.1 h with h | ⟨rfl, -⟩
  · exact h
  · exact absurd hc (Nat.lt_irrefl _)

/-! ## The invariant -/

/-- What every state a program reaches keeps. -/
structure Coherent (S : Contexts) : Prop where
  /-- A token is derived only from tokens made before it. -/
  token_lt : ∀ j a, S.TokenDerives j a → a < j
  /-- A token is derived from every token its ancestors were derived from. -/
  token_trans : ∀ j a b, S.TokenDerives j a → S.TokenDerives a b → S.TokenDerives j b
  /-- A token is cancelled whenever a token it was derived from is. -/
  token_cancelled : ∀ j a, S.TokenDerives j a → S.tokenCancelled a = true →
    S.tokenCancelled j = true
  /-- A context's token exists. -/
  node_token : ∀ (c : Nat) (n : ContextNode), S.nodes[c]? = some n → n.token < S.tokens.length
  /-- A context is derived only from contexts made before it. -/
  node_lt : ∀ b a, S.Descends b a → a < b
  /-- A context's token is derived from the token of every context it was derived from. -/
  node_derives : ∀ (b a : Nat) (n m : ContextNode), S.nodes[b]? = some n → a ∈ n.lineage →
    S.nodes[a]? = some m → S.TokenDerives n.token m.token
  /-- A context's deadline is no later than the deadline of every context it was derived
  from. -/
  node_deadline : ∀ (b a : Nat) (n m : ContextNode), S.nodes[b]? = some n → a ∈ n.lineage →
    S.nodes[a]? = some m → noLater n.deadline m.deadline = true

/-- A program starts with no tokens and no contexts. -/
theorem coherent_empty : ({} : Contexts).Coherent where
  token_lt _ _ h := by obtain ⟨_, ht, -⟩ := h; cases ht
  token_trans _ _ _ h := by obtain ⟨_, ht, -⟩ := h; cases ht
  token_cancelled _ _ h := by obtain ⟨_, ht, -⟩ := h; cases ht
  node_token _ _ h := by cases h
  node_lt _ _ h := by obtain ⟨_, hn, -⟩ := h; cases hn
  node_derives _ _ _ _ h := by cases h
  node_deadline _ _ _ _ h := by cases h

/-- Adding a token keeps the invariant when the token is derived only from existing tokens and
from everything they were derived from, and is cancelled if one of them is. -/
theorem Coherent.addToken (hS : S.Coherent) {t : Token}
    (hlt : ∀ a ∈ t.ancestors, a < S.tokens.length)
    (hclosed : ∀ a ∈ t.ancestors, ∀ b, S.TokenDerives a b → b ∈ t.ancestors)
    (hcan : ∀ a ∈ t.ancestors, S.tokenCancelled a = true → t.cancelled = true) :
    (S.addToken t).Coherent := by
  -- every token the new state has a token derived from is an old one
  have hold : ∀ j a, (S.addToken t).TokenDerives j a → a < S.tokens.length := by
    intro j a h
    rcases tokenDerives_addToken.1 h with h | ⟨rfl, ha⟩
    · exact Nat.lt_trans (hS.token_lt j a h) (lt_of_tokenDerives h)
    · exact hlt a ha
  have hsame : ∀ a, a < S.tokens.length →
      (S.addToken t).tokenCancelled a = S.tokenCancelled a := by
    intro a ha
    rw [tokenCancelled_addToken, if_neg (Nat.ne_of_lt ha)]
  refine ⟨?_, ?_, ?_, ?_, hS.node_lt, ?_, hS.node_deadline⟩
  · intro j a h
    rcases tokenDerives_addToken.1 h with h | ⟨rfl, ha⟩
    · exact hS.token_lt j a h
    · exact hlt a ha
  · intro j a b hja hab
    have hab' : S.TokenDerives a b := by
      rcases tokenDerives_addToken.1 hab with h | ⟨rfl, -⟩
      · exact h
      · exact absurd (hold j _ hja) (Nat.lt_irrefl _)
    rcases tokenDerives_addToken.1 hja with h | ⟨rfl, ha⟩
    · exact tokenDerives_addToken.2 (.inl (hS.token_trans j a b h hab'))
    · exact tokenDerives_addToken.2 (.inr ⟨rfl, hclosed a ha b hab'⟩)
  · intro j a h hca
    rw [hsame a (hold j a h)] at hca
    rcases tokenDerives_addToken.1 h with h | ⟨rfl, ha⟩
    · rw [hsame j (lt_of_tokenDerives h)]
      exact hS.token_cancelled j a h hca
    · rw [tokenCancelled_addToken, if_pos rfl]
      exact hcan a ha hca
  · intro c n h
    have := hS.node_token c n h
    simp only [Contexts.addToken, List.length_append, List.length_singleton]
    omega
  · intro b a n m hb ha hm
    exact tokenDerives_addToken.2 (.inl (hS.node_derives b a n m hb ha hm))

/-- A fresh token keeps the invariant. -/
theorem Coherent.addFreshToken (hS : S.Coherent) : (S.addToken {}).Coherent :=
  hS.addToken (fun _ h => by cases h) (fun _ h => by cases h) (fun _ h => by cases h)

/-- A child of an existing token keeps the invariant. -/
theorem Coherent.addChild (hS : S.Coherent) {k : Nat} {t : Token} (ht : S.tokens[k]? = some t) :
    (S.addToken (t.child k)).Coherent := by
  have hk : k < S.tokens.length := (List.getElem?_eq_some_iff.1 ht).1
  refine hS.addToken ?_ ?_ ?_
  · intro a ha
    rcases List.mem_cons.1 ha with rfl | ha
    · exact hk
    · exact Nat.lt_trans (hS.token_lt k a ⟨t, ht, ha⟩) hk
  · intro a ha b hab
    rcases List.mem_cons.1 ha with rfl | ha
    · obtain ⟨u, hu, hb⟩ := hab
      rw [ht] at hu
      cases hu
      exact List.mem_cons_of_mem _ hb
    · obtain ⟨u, hu, hb⟩ := hS.token_trans k a b ⟨t, ht, ha⟩ hab
      rw [ht] at hu
      cases hu
      exact List.mem_cons_of_mem _ hb
  · intro a ha hca
    have hkc : S.tokenCancelled k = true := by
      rcases List.mem_cons.1 ha with rfl | ha
      · exact hca
      · exact hS.token_cancelled k a ⟨t, ht, ha⟩ hca
    simpa [tokenCancelled, ht, Token.child] using hkc

/-- Cancelling a token keeps the invariant. -/
theorem Coherent.cancelToken (hS : S.Coherent) (k : Nat) : (S.cancelToken k).Coherent := by
  have hlen : (S.cancelToken k).tokens.length = S.tokens.length := List.length_mapIdx
  refine ⟨?_, ?_, ?_, ?_, hS.node_lt, ?_, hS.node_deadline⟩
  · intro j a h
    exact hS.token_lt j a (tokenDerives_cancelToken.1 h)
  · intro j a b hja hab
    exact tokenDerives_cancelToken.2
      (hS.token_trans j a b (tokenDerives_cancelToken.1 hja) (tokenDerives_cancelToken.1 hab))
  · intro j a h hca
    have h' := tokenDerives_cancelToken.1 h
    -- `a` was cancelled before, or is `k`, or was derived from `k`; `j` follows it each time
    rcases tokenCancelled_cancelToken.1 hca with hca | ⟨rfl, -⟩ | hak
    · exact tokenCancelled_cancelToken.2 (.inl (hS.token_cancelled j a h' hca))
    · exact tokenCancelled_cancelToken.2 (.inr (.inr h'))
    · exact tokenCancelled_cancelToken.2 (.inr (.inr (hS.token_trans j a k h' hak)))
  · intro c n h
    rw [hlen]
    exact hS.node_token c n h
  · intro b a n m hb ha hm
    exact tokenDerives_cancelToken.2 (hS.node_derives b a n m hb ha hm)

/-- Adding a context keeps the invariant when its token exists, and it is derived only from
existing contexts, holds a token derived from theirs, and has a deadline no later than
theirs. -/
theorem Coherent.addNode (hS : S.Coherent) {n : ContextNode}
    (htok : n.token < S.tokens.length)
    (hlt : ∀ a ∈ n.lineage, a < S.nodes.length)
    (hder : ∀ a ∈ n.lineage, ∀ m, S.nodes[a]? = some m → S.TokenDerives n.token m.token)
    (hdl : ∀ a ∈ n.lineage, ∀ m, S.nodes[a]? = some m →
      noLater n.deadline m.deadline = true) :
    (S.addNode n).Coherent := by
  -- a context the new one or an old one was derived from is an old one
  have hold : ∀ b a nb, (S.addNode n).nodes[b]? = some nb → a ∈ nb.lineage →
      a < S.nodes.length ∧ (S.nodes[b]? = some nb ∨ (b = S.nodes.length ∧ nb = n)) := by
    intro b a nb hb ha
    rcases nodes_getElem?_addNode.1 hb with hb | ⟨rfl, rfl⟩
    · exact ⟨Nat.lt_trans (hS.node_lt b a ⟨nb, hb, ha⟩) (List.getElem?_eq_some_iff.1 hb).1,
        .inl hb⟩
    · exact ⟨hlt a ha, .inr ⟨rfl, rfl⟩⟩
  refine ⟨hS.token_lt, hS.token_trans, hS.token_cancelled, ?_, ?_, ?_, ?_⟩
  · intro c m h
    rcases nodes_getElem?_addNode.1 h with h | ⟨-, rfl⟩
    · exact hS.node_token c m h
    · exact htok
  · rintro b a ⟨nb, hb, ha⟩
    rcases nodes_getElem?_addNode.1 hb with hb | ⟨rfl, rfl⟩
    · exact hS.node_lt b a ⟨nb, hb, ha⟩
    · exact hlt a ha
  · intro b a nb m hb ha hm
    obtain ⟨hal, hb | ⟨-, rfl⟩⟩ := hold b a nb hb ha
    · exact hS.node_derives b a nb m hb ha (nodes_getElem?_addNode_of_lt hal hm)
    · exact hder a ha m (nodes_getElem?_addNode_of_lt hal hm)
  · intro b a nb m hb ha hm
    obtain ⟨hal, hb | ⟨-, rfl⟩⟩ := hold b a nb hb ha
    · exact hS.node_deadline b a nb m hb ha (nodes_getElem?_addNode_of_lt hal hm)
    · exact hdl a ha m (nodes_getElem?_addNode_of_lt hal hm)

/-- A fresh context keeps the invariant. -/
theorem Coherent.fresh (hS : S.Coherent) (d : Option Nat) : (S.fresh d).Coherent := by
  refine hS.addFreshToken.addNode ?_ (fun _ h => by cases h) (fun _ h => by cases h)
    (fun _ h => by cases h)
  simp [Contexts.addToken]

/-- A context derived from an existing one, with a deadline no later than its, keeps the
invariant. -/
theorem Coherent.derive (hS : S.Coherent) {c : Nat} {n : ContextNode} {d : Option Nat}
    (hc : S.nodes[c]? = some n) (hd : noLater d n.deadline = true) :
    (S.derive c n d).Coherent := by
  unfold Contexts.derive
  cases ht : S.tokens[n.token]? with
  | none => exact hS
  | some t =>
    have hcl : c < S.nodes.length := (List.getElem?_eq_some_iff.1 hc).1
    -- the new token stands at the end, derived from `n`'s token and what that was derived from
    have hnew : (S.addToken (t.child n.token)).tokens[S.tokens.length]? =
        some (t.child n.token) := List.getElem?_concat_length
    refine (hS.addChild ht).addNode ?_ ?_ ?_ ?_
    · simp [Contexts.addToken]
    · intro a ha
      rcases List.mem_cons.1 ha with rfl | ha
      · exact hcl
      · exact Nat.lt_trans (hS.node_lt c a ⟨n, hc, ha⟩) hcl
    · intro a ha m hm
      refine ⟨_, hnew, ?_⟩
      rcases List.mem_cons.1 ha with rfl | ha
      · rw [addToken_nodes, hc] at hm
        cases hm
        exact List.mem_cons_self
      · obtain ⟨u, hu, hm'⟩ := hS.node_derives c a n m hc ha hm
        rw [ht] at hu
        cases hu
        exact List.mem_cons_of_mem _ hm'
    · intro a ha m hm
      rcases List.mem_cons.1 ha with rfl | ha
      · rw [addToken_nodes, hc] at hm
        cases hm
        exact hd
      · exact noLater_trans hd (hS.node_deadline c a n m hc ha hm)

/-- A context around an existing token keeps the invariant. -/
theorem Coherent.withToken (hS : S.Coherent) {k : Nat} (hk : k < S.tokens.length) :
    (S.addNode { token := k }).Coherent :=
  hS.addNode hk (fun _ h => by cases h) (fun _ h => by cases h) (fun _ h => by cases h)

/-! ## What one call can do -/

/-- What one call can do to the state of a program. -/
inductive Move (S : Contexts) : Contexts → Prop
  /-- Nothing: the call names no token or context. -/
  | stay : Move S S
  /-- Make a fresh token. -/
  | token : Move S (S.addToken {})
  /-- Derive a child of an existing token. -/
  | childToken {k : Nat} {t : Token} : S.tokens[k]? = some t → Move S (S.addToken (t.child k))
  /-- Cancel a token and everything derived from it. -/
  | cancelToken (k : Nat) : Move S (S.cancelToken k)
  /-- Make a fresh context. -/
  | fresh (d : Option Nat) : Move S (S.fresh d)
  /-- Make a context around an existing token. -/
  | withToken {k : Nat} : k < S.tokens.length → Move S (S.addNode { token := k })
  /-- Derive a context from an existing one, with a deadline no later than its. -/
  | derive {c : Nat} {n : ContextNode} {d : Option Nat} : S.nodes[c]? = some n →
    noLater d n.deadline = true → Move S (S.derive c n d)

/-- Every call that returns makes one of the moves. -/
theorem move_of_step {now : Nat} {call : ContextCall} (h : S.step now call = .ok S') :
    S.Move S' := by
  cases call with
  | token => cases h; exact .token
  | childToken k =>
    simp only [step] at h
    cases ht : S.tokens[k]? with
    | none => rw [ht] at h; cases h; exact .stay
    | some t => rw [ht] at h; cases h; exact .childToken ht
  | cancelToken k => cases h; exact .cancelToken k
  | new => cases h; exact .fresh none
  | withTimeout timeoutMs =>
    simp only [step] at h
    cases hd : instantAfter now timeoutMs with
    | error e => rw [hd] at h; cases h
    | ok d => rw [hd] at h; cases h; exact .fresh (some d)
  | withToken k =>
    simp only [step] at h
    cases h
    by_cases hk : k < S.tokens.length
    · rw [if_pos hk]; exact .withToken hk
    · rw [if_neg hk]; exact .stay
  | child c =>
    simp only [step] at h
    cases hc : S.nodes[c]? with
    | none => rw [hc] at h; cases h; exact .stay
    | some n => rw [hc] at h; cases h; exact .derive hc (noLater_refl _)
  | childWithTimeout c timeoutMs =>
    simp only [step] at h
    cases hc : S.nodes[c]? with
    | none => rw [hc] at h; cases h; exact .stay
    | some n =>
      rw [hc] at h
      cases hd : instantAfter now timeoutMs with
      | error e => rw [hd] at h; cases h
      | ok d => rw [hd] at h; cases h; exact .derive hc (noLater_earlier _ _)
  | cancel c =>
    simp only [step] at h
    cases hc : S.nodes[c]? with
    | none => rw [hc] at h; cases h; exact .stay
    | some n => rw [hc] at h; cases h; exact .cancelToken n.token

/-- **Every move keeps the invariant.** -/
theorem Coherent.move (hS : S.Coherent) (h : S.Move S') : S'.Coherent := by
  cases h with
  | stay => exact hS
  | token => exact hS.addFreshToken
  | childToken ht => exact hS.addChild ht
  | cancelToken k => exact hS.cancelToken k
  | fresh d => exact hS.fresh d
  | withToken hk => exact hS.withToken hk
  | derive hc hd => exact hS.derive hc hd

/-- `S'` keeps what `S` has: every context, and every cancelled token. -/
structure Grows (S S' : Contexts) : Prop where
  nodes : ∀ (c : Nat) (n : ContextNode), S.nodes[c]? = some n → S'.nodes[c]? = some n
  cancelled : ∀ k : Nat, S.tokenCancelled k = true → S'.tokenCancelled k = true

theorem Grows.refl (S : Contexts) : S.Grows S := ⟨fun _ _ h => h, fun _ h => h⟩

theorem Grows.trans {S₁ S₂ S₃ : Contexts} (h₁₂ : S₁.Grows S₂) (h₂₃ : S₂.Grows S₃) :
    S₁.Grows S₃ :=
  ⟨fun c n h => h₂₃.nodes c n (h₁₂.nodes c n h), fun k h => h₂₃.cancelled k (h₁₂.cancelled k h)⟩

theorem grows_addToken (S : Contexts) (t : Token) : S.Grows (S.addToken t) := by
  refine ⟨fun _ _ h => h, fun k h => ?_⟩
  rw [tokenCancelled_addToken, if_neg (Nat.ne_of_lt (lt_of_tokenCancelled h))]
  exact h

theorem grows_addNode (S : Contexts) (n : ContextNode) : S.Grows (S.addNode n) :=
  ⟨fun _ _ h => nodes_getElem?_addNode.2 (.inl h), fun _ h => h⟩

/-- **No move loses a context or a cancellation.** -/
theorem Grows.move (h : S.Move S') : S.Grows S' := by
  cases h with
  | stay => exact Grows.refl S
  | token => exact grows_addToken S _
  | childToken _ => exact grows_addToken S _
  | cancelToken k => exact ⟨fun _ _ h => h, fun _ h => tokenCancelled_cancelToken.2 (.inl h)⟩
  | fresh d => exact (grows_addToken S _).trans (grows_addNode _ _)
  | withToken _ => exact grows_addNode S _
  | derive _ _ =>
    unfold Contexts.derive
    split
    · exact (grows_addToken S _).trans (grows_addNode _ _)
    · exact Grows.refl S

/-! ## Runs of calls -/

/-- A run of calls that returns made its first call, which returned, and then the rest. -/
theorem runCalls_cons {t : Nat} {call : ContextCall} {h : List (Nat × ContextCall)} :
    S.runCalls ((t, call) :: h) = .ok S' ↔
      ∃ S₁, S.step t call = .ok S₁ ∧ S₁.runCalls h = .ok S' := by
  simp only [runCalls]
  cases S.step t call with
  | error e => simp
  | ok S₁ => simp

/-- A property that every move keeps holds after every run of calls from a state that has
it. -/
theorem runCalls_keeps (P : Contexts → Prop) (hP : ∀ {S₁ S₂ : Contexts}, P S₁ → S₁.Move S₂ → P S₂)
    {h : List (Nat × ContextCall)} (hr : S.runCalls h = .ok S') (hS : P S) : P S' := by
  induction h generalizing S with
  | nil => cases hr; exact hS
  | cons x h ih =>
    obtain ⟨S₁, hs, hr⟩ := runCalls_cons.1 hr
    exact ih hr (hP hS (move_of_step hs))

theorem Coherent.runCalls (hS : S.Coherent) {h : List (Nat × ContextCall)}
    (hr : S.runCalls h = .ok S') : S'.Coherent :=
  runCalls_keeps Coherent (fun h m => h.move m) hr hS

theorem Grows.runCalls {h : List (Nat × ContextCall)} (hr : S.runCalls h = .ok S') :
    S.Grows S' :=
  runCalls_keeps (S.Grows ·) (fun h m => h.trans (Grows.move m)) hr (Grows.refl S)

theorem runCalls_append {h₁ h₂ : List (Nat × ContextCall)} :
    S.runCalls (h₁ ++ h₂) = .ok S' ↔ ∃ S₁, S.runCalls h₁ = .ok S₁ ∧ S₁.runCalls h₂ = .ok S' := by
  induction h₁ generalizing S with
  | nil => simp [runCalls]
  | cons x h₁ ih =>
    obtain ⟨t, call⟩ := x
    simp only [List.cons_append, runCalls]
    cases S.step t call with
    | error e => simp
    | ok S₁ => exact ih

/-! ## Derived contexts -/

theorem Grows.isCancelled_true (hg : S.Grows S') {c : Nat} (h : S.isCancelled c = true) :
    S'.isCancelled c = true := by
  obtain ⟨n, hn, hk⟩ := isCancelled_eq_true_iff.1 h
  exact isCancelled_eq_true_iff.2 ⟨n, hg.nodes c n hn, hg.cancelled _ hk⟩

theorem Grows.descends (hg : S.Grows S') {b a : Nat} (h : S.Descends b a) : S'.Descends b a := by
  obtain ⟨n, hn, ha⟩ := h
  exact ⟨n, hg.nodes b n hn, ha⟩

/-- A context's deadline is no later than the deadline of every context it was derived from. -/
theorem Coherent.deadline_noLater (hS : S.Coherent) {b a : Nat} (h : S.Descends b a) :
    noLater (S.deadlineOf b) (S.deadlineOf a) = true := by
  obtain ⟨n, hn, ha⟩ := h
  unfold deadlineOf
  rw [hn]
  cases hm : S.nodes[a]? with
  | none => exact noLater_none _
  | some m => exact hS.node_deadline b a n m hn ha hm

/-- A context is cancelled whenever a context it was derived from is. -/
theorem Coherent.isCancelled_of_descends (hS : S.Coherent) {b a : Nat} (h : S.Descends b a)
    (hc : S.isCancelled a = true) : S.isCancelled b = true := by
  obtain ⟨n, hn, ha⟩ := h
  obtain ⟨m, hm, hk⟩ := isCancelled_eq_true_iff.1 hc
  exact isCancelled_eq_true_iff.2
    ⟨n, hn, hS.token_cancelled _ _ (hS.node_derives b a n m hn ha hm) hk⟩

/-- A context's failure at `t`: cancelled if it is, else past its deadline if that has come. -/
theorem error_eq (c t : Nat) :
    S.error c t = if S.isCancelled c then some .cancelled
      else if ({ deadline := S.deadlineOf c } : Context).expiredAt t then some .deadlineExceeded
      else none := by
  unfold error isCancelled deadlineOf
  cases S.nodes[c]? with
  | none => simp [Context.expiredAt]
  | some n =>
    obtain ⟨k, deadline, lineage⟩ := n
    dsimp only
    by_cases hk : S.tokenCancelled k = true
    · simp [hk]
    · cases deadline with
      | none => simp [hk, Context.expiredAt]
      | some d => by_cases hdt : d ≤ t <;> simp [hk, hdt, Context.expiredAt]

/-- A context is done at `t` exactly when it is cancelled or its deadline has come. -/
theorem error_isSome_iff {c t : Nat} :
    (S.error c t).isSome = true ↔
      S.isCancelled c = true ∨ ∃ d, S.deadlineOf c = some d ∧ d ≤ t := by
  rw [error_eq]
  by_cases hk : S.isCancelled c = true
  · simp [hk]
  · rw [if_neg hk]
    cases S.deadlineOf c with
    | none => simp [hk, Context.expiredAt]
    | some d => by_cases hdt : d ≤ t <;> simp [hk, hdt, Context.expiredAt]

/-- A context's failure is a cancellation, at any instant, exactly when it is cancelled. -/
theorem error_eq_cancelled_iff {c t : Nat} :
    S.error c t = some .cancelled ↔ S.isCancelled c = true := by
  rw [error_eq]
  by_cases hk : S.isCancelled c = true
  · simp [hk]
  · rw [if_neg hk]
    split <;> simp [hk]

/-- **A context derived from one that is done is done.** At every instant at which a context has
failed, so has every context derived from it. -/
theorem Coherent.error_isSome_of_descends (hS : S.Coherent) {b a t : Nat} (h : S.Descends b a)
    (ha : (S.error a t).isSome = true) : (S.error b t).isSome = true := by
  rcases error_isSome_iff.1 ha with hc | ⟨d, hd, hdt⟩
  · exact error_isSome_iff.2 (.inl (hS.isCancelled_of_descends h hc))
  · -- `b`'s deadline is no later than `a`'s, which has come
    have hle := hS.deadline_noLater h
    rw [hd] at hle
    obtain ⟨v, hv, hvd⟩ := noLater_some_iff.1 hle
    exact error_isSome_iff.2 (.inr ⟨v, hv, Nat.le_trans hvd hdt⟩)

/-- A cancel of an existing context leaves it cancelled. -/
theorem Coherent.isCancelled_of_cancel (hS : S.Coherent) {t a : Nat} (ha : a < S.nodes.length)
    (h : S.step t (.cancel a) = .ok S') : S'.isCancelled a = true := by
  obtain ⟨m, hm⟩ : ∃ m, S.nodes[a]? = some m := ⟨S.nodes[a], List.getElem?_eq_getElem ha⟩
  simp only [step, hm] at h
  cases h
  exact isCancelled_eq_true_iff.2
    ⟨m, hm, tokenCancelled_cancelToken.2 (.inr (.inl ⟨rfl, hS.node_token a m hm⟩))⟩

/-- **Cancelling a context cancels every context derived from it, before or after.** After a
cancel of an existing context, that context and every context derived from it are cancelled in
every later state, the contexts derived after the cancel included. -/
theorem Coherent.cancelled_after_cancel (hS : S.Coherent) {t a : Nat} (ha : a < S.nodes.length)
    {h : List (Nat × ContextCall)} (hr : S.runCalls ((t, .cancel a) :: h) = .ok S') {b : Nat}
    (hb : b = a ∨ S'.Descends b a) : S'.isCancelled b = true := by
  obtain ⟨S₁, hs, hr⟩ := runCalls_cons.1 hr
  have hS' : S'.Coherent := (hS.move (move_of_step hs)).runCalls hr
  have haS' : S'.isCancelled a = true :=
    (Grows.runCalls hr).isCancelled_true (hS.isCancelled_of_cancel ha hs)
  rcases hb with rfl | hb
  · exact haS'
  · exact hS'.isCancelled_of_descends hb haS'

/-- A cancel of a context, or of a context it was derived from, after any calls, leaves the
context's token cancelled. -/
theorem Coherent.tokenCancelled_of_cancel (hS : S.Coherent) {c : Nat} {n : ContextNode}
    (hc : S.nodes[c]? = some n) {t a : Nat} (hca : a = c ∨ S.Descends c a)
    {h : List (Nat × ContextCall)} (hr : S.runCalls (h ++ [(t, .cancel a)]) = .ok S') :
    S'.tokenCancelled n.token = true := by
  have hcl : c < S.nodes.length := (List.getElem?_eq_some_iff.1 hc).1
  have hal : a < S.nodes.length := by
    rcases hca with rfl | hd
    · exact hcl
    · exact Nat.lt_trans (hS.node_lt c a hd) hcl
  obtain ⟨S₁, hr₁, hcan⟩ := runCalls_append.1 hr
  -- the calls before the cancel keep `a`, `c` and the descent of one from the other
  have hg₁ : S.Grows S₁ := Grows.runCalls hr₁
  have hg : S.Grows S' := hg₁.trans (Grows.runCalls hcan)
  have ha₁ : a < S₁.nodes.length :=
    (List.getElem?_eq_some_iff.1 (hg₁.nodes a _ (List.getElem?_eq_getElem hal))).1
  have hc' : S'.isCancelled c = true :=
    (hS.runCalls hr₁).cancelled_after_cancel ha₁ hcan (hca.imp Eq.symm hg.descends)
  simpa [isCancelled, hg.nodes c n hc] using hc'

/-! ## What a run sees -/

/-- The first call that leaves a token cancelled is one of the calls. -/
theorem mem_of_firstCancel {k t : Nat} {h : List (Nat × ContextCall)}
    (hf : S.firstCancel k h = some t) : ∃ call, (t, call) ∈ h := by
  induction h generalizing S with
  | nil => cases hf
  | cons x h ih =>
    obtain ⟨t', call'⟩ := x
    simp only [firstCancel] at hf
    cases hs : S.step t' call' with
    | error e => rw [hs] at hf; cases hf
    | ok S₁ =>
      simp only [hs] at hf
      by_cases hk : S₁.tokenCancelled k = true
      · rw [if_pos hk] at hf
        cases hf
        exact ⟨call', List.mem_cons_self⟩
      · rw [if_neg hk] at hf
        obtain ⟨call, hmem⟩ := ih hf
        exact ⟨call, List.mem_cons_of_mem _ hmem⟩

/-- If the calls up to one at `t` leave token `k` cancelled, the first call that leaves it
cancelled comes by `t`, the calls being in order of their instants. -/
theorem firstCancel_le {k t : Nat} {call : ContextCall} {h₁ h₂ : List (Nat × ContextCall)}
    {S₂ : Contexts} (hsorted : (h₁ ++ (t, call) :: h₂).Pairwise (fun x y => x.1 ≤ y.1))
    (hr : S.runCalls (h₁ ++ [(t, call)]) = .ok S₂) (hk : S₂.tokenCancelled k = true) :
    ∃ t₁ ≤ t, S.firstCancel k (h₁ ++ (t, call) :: h₂) = some t₁ := by
  induction h₁ generalizing S with
  | nil =>
    obtain ⟨S₁, hs, hr⟩ := runCalls_cons.1 hr
    cases hr
    exact ⟨t, Nat.le_refl t, by simp only [List.nil_append, firstCancel, hs, if_pos hk]⟩
  | cons x h₁ ih =>
    obtain ⟨t', call'⟩ := x
    obtain ⟨S₁, hs, hr⟩ := runCalls_cons.1 hr
    simp only [List.cons_append, List.pairwise_cons] at hsorted
    simp only [List.cons_append, firstCancel, hs]
    by_cases hk₁ : S₁.tokenCancelled k = true
    · -- an earlier call already cancelled it, at an instant no later than `t`
      rw [if_pos hk₁]
      exact ⟨t', hsorted.1 (t, call) (by simp), rfl⟩
    · rw [if_neg hk₁]
      exact ih hsorted.2 hr

/-- **A cancellation of the context or of an ancestor is in the run's view by its instant.**
While a run under context `c` goes on, a cancel of `c` or of a context `c` was derived from,
made at `t`, leaves `c` cancelled in the view from the start or from an instant no later than
`t`, the calls being in order of their instants. -/
theorem Coherent.view_due_of_cancel (hS : S.Coherent) {c : Nat} {n : ContextNode}
    (hc : S.nodes[c]? = some n) {t a : Nat} (hca : a = c ∨ S.Descends c a)
    {h₁ h₂ : List (Nat × ContextCall)}
    (hsorted : (h₁ ++ (t, .cancel a) :: h₂).Pairwise (fun x y => x.1 ≤ y.1))
    (hr : S.runCalls (h₁ ++ (t, .cancel a) :: h₂) = .ok S') :
    (S.view c (h₁ ++ (t, .cancel a) :: h₂)).cancel = .before ∨
      ∃ t₁ ≤ t, (S.view c (h₁ ++ (t, .cancel a) :: h₂)).cancel = .at t₁ := by
  -- the calls up to the cancel leave `c`'s token cancelled; the view sees the first call that does
  rw [List.append_cons, runCalls_append] at hr
  obtain ⟨S₂, hr₂, -⟩ := hr
  have hk₂ : S₂.tokenCancelled n.token = true := hS.tokenCancelled_of_cancel hc hca hr₂
  unfold view
  rw [hc]
  dsimp only
  by_cases hk : S.tokenCancelled n.token = true
  · exact .inl (if_pos hk)
  · obtain ⟨t₁, ht₁, hf⟩ := firstCancel_le hsorted hr₂ hk₂
    refine .inr ⟨t₁, ht₁, ?_⟩
    rw [if_neg hk, hf]

/-- While the calls that go on all come at `s` or later, the flow sees the run's view of a
context cancelled at `s` exactly when the context is cancelled. -/
theorem view_cancelledAt {c s : Nat} {h : List (Nat × ContextCall)} (hs : ∀ x ∈ h, s ≤ x.1) :
    (S.view c h).cancelledAt s = S.isCancelled c := by
  unfold view isCancelled
  cases hn : S.nodes[c]? with
  | none => rfl
  | some n =>
    by_cases hk : S.tokenCancelled n.token = true
    · simp [hk, Context.cancelledAt]
    · -- a cancellation during the run falls due at `s` or later
      simp only [hk, Context.cancelledAt, Bool.false_eq_true, if_false]
      cases hf : S.firstCancel n.token h with
      | none => rfl
      | some t =>
        obtain ⟨call, hmem⟩ := mem_of_firstCancel hf
        simpa using hs _ hmem

theorem view_deadline {c : Nat} {h : List (Nat × ContextCall)} :
    (S.view c h).deadline = S.deadlineOf c := by
  unfold view deadlineOf
  cases S.nodes[c]? <;> rfl

/-- **A run fails at once under a context that has failed when it starts.** While the calls that
go on all come at `s` or later, the flow's check of its view at `s` fails with the context's
failure at `s`. -/
theorem check_view {c s : Nat} {h : List (Nat × ContextCall)} (hs : ∀ x ∈ h, s ≤ x.1)
    {f : Failure} (hf : S.error c s = some f) : (S.view c h).check s = .error f := by
  have hx : (S.view c h).expiredAt s = ({ deadline := S.deadlineOf c } : Context).expiredAt s := by
    unfold Context.expiredAt
    rw [view_deadline]
  rw [error_eq] at hf
  unfold Context.check
  rw [view_cancelledAt hs, hx]
  by_cases hk : S.isCancelled c = true
  · rw [if_pos hk] at hf ⊢
    cases hf
    rfl
  · rw [if_neg hk] at hf ⊢
    by_cases hd : ({ deadline := S.deadlineOf c } : Context).expiredAt s = true
    · rw [if_pos hd] at hf ⊢
      cases hf
      rfl
    · rw [if_neg hd] at hf
      cases hf

/-! ## The laws of derived contexts -/

/-- **Derived contexts inherit their ancestors' deadlines and cancellation, and runs follow their
race.** In every state a program reaches from no tokens and no contexts, by any calls at any
instants:
* a context's deadline is no later than the deadline of any context it was derived from;
* a context is cancelled whenever a context it was derived from is;
* at every instant, a context derived from one that has failed has failed too.

A cancel of an existing context leaves it and every context derived from it cancelled in every
later state, those derived after the cancel included. A run under a context, by either waiter,
answers by the rule of its race against its view of the context; the flow's run under a context
that has failed when it starts fails at once with that failure, whatever the work; and a cancel
of the context or of one it was derived from, made at `t` while the run goes on, is in the view
from the start or from an instant no later than `t`. -/
theorem derived_contexts_inherit_and_runs_race :
    (∀ (h : List (Nat × ContextCall)) (S : Contexts), ({} : Contexts).runCalls h = .ok S →
      (∀ b a, S.Descends b a → noLater (S.deadlineOf b) (S.deadlineOf a) = true) ∧
      (∀ b a, S.Descends b a → S.isCancelled a = true → S.isCancelled b = true) ∧
      (∀ b a t, S.Descends b a → (S.error a t).isSome = true → (S.error b t).isSome = true)) ∧
    (∀ (h₁ h₂ : List (Nat × ContextCall)) (S₁ S : Contexts) (t a : Nat),
      ({} : Contexts).runCalls h₁ = .ok S₁ → a < S₁.nodes.length →
      S₁.runCalls ((t, .cancel a) :: h₂) = .ok S →
      ∀ b, (b = a ∨ S.Descends b a) → ∀ u, S.error b u = some .cancelled) ∧
    (∀ (w : Waiter) (S : Contexts) (c s : Nat) (h : List (Nat × ContextCall)) (e : Option Nat),
      S.run w c s h e = w.ruled (S.view c h) s e) ∧
    (∀ (S : Contexts) (c s : Nat) (h : List (Nat × ContextCall)) (f : Failure),
      (∀ x ∈ h, s ≤ x.1) → S.error c s = some f → ∀ e, S.run .flow c s h e = .stopped s f) ∧
    (∀ (h₀ h₁ h₂ : List (Nat × ContextCall)) (S S' : Contexts) (c a t : Nat),
      ({} : Contexts).runCalls h₀ = .ok S → c < S.nodes.length → (a = c ∨ S.Descends c a) →
      (h₁ ++ (t, .cancel a) :: h₂).Pairwise (fun x y => x.1 ≤ y.1) →
      S.runCalls (h₁ ++ (t, .cancel a) :: h₂) = .ok S' →
      (S.view c (h₁ ++ (t, .cancel a) :: h₂)).cancel = .before ∨
        ∃ t₁ ≤ t, (S.view c (h₁ ++ (t, .cancel a) :: h₂)).cancel = .at t₁) := by
  refine ⟨?_, ?_, ?_, ?_, ?_⟩
  · intro h S hr
    have hS : S.Coherent := coherent_empty.runCalls hr
    exact ⟨fun b a hd => hS.deadline_noLater hd, fun b a hd hc => hS.isCancelled_of_descends hd hc,
      fun b a t hd he => hS.error_isSome_of_descends hd he⟩
  · intro h₁ h₂ S₁ S t a hr₁ ha hr b hb u
    exact error_eq_cancelled_iff.2 ((coherent_empty.runCalls hr₁).cancelled_after_cancel ha hr hb)
  · intro w S c s h e
    exact Waiter.wait_eq_ruled w _ s e
  · intro S c s h f hs hf e
    -- the flow's check of its view is the context's own check
    have hck : Waiter.flow.check (S.view c h) s = .error f := check_view hs hf
    simp only [run, Waiter.wait, hck]
  · intro h₀ h₁ h₂ S S' c a t hr₀ hc hca hsorted hr
    obtain ⟨n, hn⟩ : ∃ n, S.nodes[c]? = some n := ⟨S.nodes[c], List.getElem?_eq_getElem hc⟩
    exact (coherent_empty.runCalls hr₀).view_due_of_cancel hn hca hsorted hr

/-- A context that expires at `100` is cancelled at `5`, and a context derived from it at `7`
has failed with the cancellation from the start. -/
theorem derived_contexts_inherit_on_late_child :
    ∃ S₁ S, ({} : Contexts).runCalls [(0, .withTimeout 100)] = .ok S₁ ∧ 0 < S₁.nodes.length ∧
      S₁.runCalls [(5, .cancel 0), (7, .child 0)] = .ok S ∧ S.Descends 1 0 ∧
      S.error 1 7 = some .cancelled := by
  refine ⟨_, _, rfl, by decide, rfl, ⟨_, rfl, List.mem_singleton_self 0⟩, ?_⟩
  exact derived_contexts_inherit_and_runs_race.2.1 [(0, .withTimeout 100)] [(7, .child 0)] _ _
    5 0 rfl (by decide) rfl 1 (.inr ⟨_, rfl, List.mem_singleton_self 0⟩) 7

end Contexts

end QueryRelay
