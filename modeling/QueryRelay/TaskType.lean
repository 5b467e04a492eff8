import QueryRelay.Text.Blank
import QueryRelay.Text.Lower
import QueryRelay.Schema.Decoder

/-!
# Task types

A hint about what a query asks for, used to prefer a provider (the affinity table of the
router). Each has a wire name, and three have an alias accepted wherever a task type is read:
`text-generation` for `generation`, `sentiment-analysis` for `sentiment` and `qa` for
`question-answering`. A task type is always written with its wire name.
-/

namespace QueryRelay

/-- What a query asks for. -/
inductive TaskType where
  | generation
  | summarization
  | sentiment
  | questionAnswering
  deriving DecidableEq, Repr, Inhabited

namespace TaskType

/-- Every task type, in the fixed order. -/
def all : List TaskType := [generation, summarization, sentiment, questionAnswering]

/-- Position in the fixed order. -/
def rank : TaskType → Nat
  | generation => 0
  | summarization => 1
  | sentiment => 2
  | questionAnswering => 3

/-- The spelling of a task type in JSON and in messages. -/
def wireName : TaskType → String
  | generation => "generation"
  | summarization => "summarization"
  | sentiment => "sentiment"
  | questionAnswering => "question-answering"

instance : ToString TaskType := ⟨wireName⟩

/-- Every accepted spelling with the task type it names, wire names and aliases in the order
the wire format lists them. -/
def spellings : List (String × TaskType) :=
  [("generation", generation), ("text-generation", generation),
   ("summarization", summarization),
   ("sentiment", sentiment), ("sentiment-analysis", sentiment),
   ("qa", questionAnswering), ("question-answering", questionAnswering)]

/-- The task type an exact spelling names. -/
def ofSpelling? (s : String) : Option TaskType :=
  (spellings.find? (fun e => e.1 == s)).map Prod.snd

/-- Read a task type from free text (trimmed and lowercased); on failure, the normalized text. -/
def parse (s : String) : Except String TaskType :=
  let n := Text.toLower (Text.trim s)
  match ofSpelling? n with
  | some t => .ok t
  | none => .error n

/-- Read a task type from JSON: a wire name or an alias. -/
def decode : Schema.Decoder TaskType := Schema.Decoder.choice spellings

/-- A task type as JSON. -/
def toJson (t : TaskType) : Json := .str t.wireName

theorem ofSpelling?_wireName (t : TaskType) : ofSpelling? t.wireName = some t := by
  cases t <;> rfl

end TaskType

end QueryRelay
