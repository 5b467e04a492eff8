import QueryRelay.Text.Blank
import QueryRelay.Text.Lower
import QueryRelay.Schema.Decoder

/-!
# Providers

The six language-model backends the gateway can route to. They are listed, compared and
printed in one fixed order — `openai, gemini, mistral, claude, vertex, bedrock` — which is the
order of every provider list in an answer (`Provider.all`, `Provider.rank`).

Each has a *wire name*, its spelling in JSON. Reading a provider from free text
(`Provider.parse`) is more lenient than reading it from JSON: blanks around the name are
dropped, the name is lowercased, and `anthropic` is accepted for `claude`.
-/

namespace QueryRelay

/-- A language-model backend. -/
inductive Provider where
  | openai
  | gemini
  | mistral
  | claude
  | vertex
  | bedrock
  deriving DecidableEq, Repr, Inhabited

namespace Provider

/-- Every provider, in the fixed order. -/
def all : List Provider := [openai, gemini, mistral, claude, vertex, bedrock]

/-- Position in the fixed order. -/
def rank : Provider → Nat
  | openai => 0
  | gemini => 1
  | mistral => 2
  | claude => 3
  | vertex => 4
  | bedrock => 5

/-- The spelling of a provider in JSON and in messages. -/
def wireName : Provider → String
  | openai => "openai"
  | gemini => "gemini"
  | mistral => "mistral"
  | claude => "claude"
  | vertex => "vertex"
  | bedrock => "bedrock"

instance : ToString Provider := ⟨wireName⟩

instance : LT Provider := ⟨fun a b => a.rank < b.rank⟩

instance (a b : Provider) : Decidable (a < b) := inferInstanceAs (Decidable (a.rank < b.rank))

/-- The provider with exactly this wire name. -/
def ofWireName? (s : String) : Option Provider :=
  all.find? (fun p => p.wireName == s)

/-- The name a text stands for once trimmed and lowercased. -/
def normalizeName (s : String) : String := Text.toLower (Text.trim s)

/-- Read a provider from free text; on failure, the normalized text. -/
def parse (s : String) : Except String Provider :=
  let n := normalizeName s
  if n = "anthropic" then .ok claude
  else match ofWireName? n with
    | some p => .ok p
    | none => .error n

/-- Wire names with the provider each names, in the fixed order. -/
def spellings : List (String × Provider) := all.map (fun p => (p.wireName, p))

/-- Read a provider from JSON: exactly a wire name. -/
def decode : Schema.Decoder Provider := Schema.Decoder.choice spellings

/-- A provider as JSON. -/
def toJson (p : Provider) : Json := .str p.wireName

/-- Providers sorted into the fixed order, each once. -/
def sortDedup (ps : List Provider) : List Provider :=
  all.filter (fun p => ps.contains p)

theorem rank_injective {a b : Provider} (h : a.rank = b.rank) : a = b := by
  cases a <;> cases b <;> simp_all [rank]

theorem ofWireName?_wireName (p : Provider) : ofWireName? p.wireName = some p := by
  cases p <;> rfl

theorem mem_all (p : Provider) : p ∈ all := by
  cases p <;> simp [all]

/-- The providers of `all` go up strictly in rank. -/
theorem all_rank_lt : all.Pairwise (fun a b => a.rank < b.rank) := by decide

end Provider

end QueryRelay
