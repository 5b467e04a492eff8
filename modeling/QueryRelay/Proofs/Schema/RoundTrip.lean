import Mathlib
import QueryRelay.Proofs.Schema.Record
import QueryRelay.Query.Outcome
import QueryRelay.Availability

/-!
# Writing and reading back

Every value the gateway writes as JSON reads back as itself: requests, completions, responses,
provider faults, fan-out outcomes, fan-out reports and routing decisions.

## What fits the wire

Counts are natural numbers in the model and fixed-width integers on the wire, so a value reads
back when its numbers fit their widths (`Response.Fits` and its kin): token counts and
latencies below `2^64`, retries below `2^32`, status codes below `2^16`. A fan-out report also
keeps its outcomes in provider order, each provider once, which is the order reading builds.
Requests and routing decisions carry no counts and always read back.

## Field by field

A writer builds an object from a list that names each key once, and an optional field is left
out when it is absent. Reading looks each declared field up in that list
(`Json.valuesAt_objectFields`): a written field decodes to what was written, a left-out field
to its default, which is exactly the absent value. So reading a written value runs every field
without a fault (`Schema.Record.run_fields_of_clean`). An outcome is tagged by `status` beside
its own fields: reading finds the tag, sets it aside, and reads the rest as the tagged
alternative's record. A fan-out report writes its outcomes as an object keyed by wire name,
which sorts them by name; reading puts each back in provider order.

## What reading gives

Whatever JSON it reads, a successful reading gives a value that fits the wire
(`Completion.fits_of_decode` and its kin), because each number was read at its width. So
writing what was read and reading it again gives the same value: what is read is a fixed point
of writing then reading (`wire_round_trip`).
-/

namespace QueryRelay

open Schema

/-! ## Reading the written primitives -/

namespace Schema.Decoder

theorem unsigned_nat {bound n : Nat} (name : String) (h : n < bound) :
    unsigned bound name (Json.nat n) = .ok n := by
  simp [unsigned, Json.nat, h]

/-- An unsigned integer is read only below its width. -/
theorem lt_of_unsigned {bound : Nat} {name : String} {j : Json} {n : Nat}
    (h : unsigned bound name j = .ok n) : n < bound := by
  unfold unsigned at h
  split at h
  · split at h
    · rename_i hlt
      cases h
      exact hlt
    · cases h
  · cases h
  · cases h

end Schema.Decoder

namespace Schema.Decoder

theorem option_of_ne_null {α : Type} {d : Decoder α} {j : Json} {a : α} (hj : j ≠ .null)
    (h : d j = .ok a) : option d j = .ok (some a) := by
  unfold option
  split
  · exact absurd rfl hj
  · rw [h]
    rfl

theorem option_of_str {α : Type} {d : Decoder α} {s : String} {a : α}
    (h : d (.str s) = .ok a) : option d (.str s) = .ok (some a) :=
  option_of_ne_null Json.noConfusion h

theorem u64_nat {n : Nat} (h : n < 2 ^ 64) : u64 (Json.nat n) = .ok n := unsigned_nat _ h

theorem u32_nat {n : Nat} (h : n < 2 ^ 32) : u32 (Json.nat n) = .ok n := unsigned_nat _ h

theorem u16_nat {n : Nat} (h : n < 2 ^ 16) : u16 (Json.nat n) = .ok n := unsigned_nat _ h

end Schema.Decoder

theorem Provider.decode_toJson (p : Provider) : Provider.decode p.toJson = .ok p := by
  cases p <;> rfl

theorem TaskType.decode_toJson (t : TaskType) : TaskType.decode t.toJson = .ok t := by
  cases t <;> rfl

theorem FailureKind.decode_toJson (k : FailureKind) : FailureKind.decode k.toJson = .ok k := by
  cases k <;> rfl

theorem RouteReason.decode_toJson (r : RouteReason) : RouteReason.decode r.toJson = .ok r := by
  cases r <;> rfl

/-! ## Reading one field of a written object -/

namespace Schema.Record

variable {α : Type} {r : Record} {fs : List (String × Json)}

/-- An optional field with an absent default reads back as written or left out. -/
theorem withDefault_option_run {name : String} {d : Decoder α} (hl : r.layout = .fields fs)
    (enc : α → Json) (x : Option α) (hv : Json.valuesAt fs name = (x.map enc).toList)
    (hd : ∀ a ∈ x, Decoder.option d (enc a) = .ok (some a)) (s : List RankedFault) :
    (r.withDefault name (Decoder.option d) none).run s = (x, s) := by
  cases x with
  | none => exact field_run_absent hl _ hv _ s
  | some a => exact field_run_present hl hv (hd a rfl) _ _ s

theorem optional_run {name : String} {d : Decoder α} {j : Json} {x : Option α}
    (hl : r.layout = .fields fs) (hv : Json.valuesAt fs name = [j])
    (hd : Decoder.option d j = .ok x) (s : List RankedFault) : (r.optional name d).run s = (x, s) :=
  field_run_present hl hv hd _ _ s

theorem required_run [Inhabited α] {name : String} {d : Decoder α} {j : Json} {a : α}
    (hl : r.layout = .fields fs) (hv : Json.valuesAt fs name = [j]) (hd : d j = .ok a)
    (s : List RankedFault) : (r.required name d).run s = (a, s) :=
  field_run_present hl hv hd _ _ s

namespace Yields

variable {β : Type} (r : Record) (name : String)

theorem required_any [Inhabited β] (d : Decoder β) :
    Yields (r.required name d) (fun _ => True) :=
  field r name (fun _ _ _ => trivial) (fun _ _ => trivial) (fun _ _ => trivial)

theorem withDefault_any [Inhabited β] (d : Decoder β) (dflt : β) :
    Yields (r.withDefault name d dflt) (fun _ => True) :=
  field r name (fun _ _ _ => trivial) (fun _ _ => trivial) (fun _ _ => trivial)

theorem optional_any (d : Decoder β) : Yields (r.optional name d) (fun _ => True) :=
  field r name (fun _ _ _ => trivial) (fun _ _ => trivial) (fun _ _ => trivial)

/-- A required unsigned field is read below its width. -/
theorem required_unsigned (bound : Nat) (width : String) :
    Yields (r.required name (Decoder.unsigned bound width)) (· < bound) :=
  field r name (fun _ _ h => Decoder.lt_of_unsigned h) (fun _ h => by cases h) (fun _ h => by cases h)

/-- An optional unsigned field, absent by default, is read below its width when present. -/
theorem withDefault_option_unsigned (bound : Nat) (width : String) :
    Yields (r.withDefault name (Decoder.option (Decoder.unsigned bound width)) none)
      (fun x => ∀ c ∈ x, c < bound) := by
  refine field r name (fun j x h => ?_) (fun _ h c hc => ?_) (fun _ h c hc => ?_)
  · unfold Decoder.option at h
    split at h
    · cases h
      intro c hc
      cases hc
    · cases hj : Decoder.unsigned bound width j with
      | error e => rw [hj] at h; cases h
      | ok n =>
        rw [hj] at h
        cases h
        intro c hc
        cases hc
        exact Decoder.lt_of_unsigned hj
  · cases h
    cases hc
  · cases h
    cases hc

end Yields

end Schema.Record

/-- An object written from a list naming each key once reads as a record whose every field
reads without a fault. -/
theorem Schema.Decoder.record_object {α : Type} {title : String} {names : List String}
    {body : Record → RecordM α} {L : List (String × Json)} {a : α}
    (hL : (L.map Prod.fst).Nodup)
    (h : ∀ (r : Record) (fs : List (String × Json)), r.layout = .fields fs →
      (∀ k, Json.valuesAt fs k = Json.valuesAt L k) → (body r).run [] = (a, [])) :
    Decoder.record title names body (Json.object L) = .ok a :=
  Record.run_fields_of_clean (r := { layout := .fields (Json.objectFields L), names, title }) rfl
    (h _ _ rfl (Json.valuesAt_objectFields hL))

/-- A successful record reading read a record, from an object or an array. -/
theorem Schema.Decoder.exists_run_of_record {α : Type} {title : String} {names : List String}
    {body : Record → RecordM α} {j : Json} {a : α}
    (h : Decoder.record title names body j = .ok a) : ∃ r : Record, r.run body = .ok a := by
  unfold Decoder.record at h
  split at h
  · exact ⟨_, h⟩
  · exact ⟨_, h⟩
  · cases h

/-! ## Requests and routing decisions -/

/-- **Requests read back.** Every request, with or without its hints, reads back as itself. -/
theorem Request.decode_toJson (q : Request) : Request.decode q.toJson = .ok q := by
  obtain ⟨query, provider, taskType, modelVersion, requestId⟩ := q
  unfold Request.decode Request.toJson
  refine Decoder.record_object ?_ fun r fs hl hv => ?_
  · cases provider <;> cases taskType <;> cases modelVersion <;> cases requestId <;> simp
  · -- each field is held as written, or left out when absent
    have h1 : Json.valuesAt fs "query" = [.str query] := by rw [hv]; simp
    have h2 : Json.valuesAt fs "provider" = (provider.map Provider.toJson).toList := by
      rw [hv]; simp
    have h3 : Json.valuesAt fs "task_type" = (taskType.map TaskType.toJson).toList := by
      rw [hv]; simp
    have h4 : Json.valuesAt fs "model_version" = (modelVersion.map Json.str).toList := by
      rw [hv]; simp
    have h5 : Json.valuesAt fs "request_id" = (requestId.map Json.str).toList := by
      rw [hv]; simp
    unfold Request.readFields
    rw [Record.run_bind_of (Record.required_run (d := Decoder.string) hl h1 rfl _),
      Record.run_bind_of (Record.withDefault_option_run hl _ provider h2
        (fun p _ => Decoder.option_of_str (Provider.decode_toJson p)) _),
      Record.run_bind_of (Record.withDefault_option_run hl _ taskType h3
        (fun t _ => Decoder.option_of_str (TaskType.decode_toJson t)) _),
      Record.run_bind_of (Record.withDefault_option_run (d := Decoder.string) hl _ modelVersion h4
        (fun _ _ => Decoder.option_of_str rfl) _),
      Record.run_bind_of (Record.withDefault_option_run (d := Decoder.string) hl _ requestId h5
        (fun _ _ => Decoder.option_of_str rfl) _)]
    rfl

/-- **Routing decisions read back.** -/
theorem RouteDecision.decode_toJson (d : RouteDecision) : RouteDecision.decode d.toJson = .ok d := by
  obtain ⟨provider, reason⟩ := d
  unfold RouteDecision.decode RouteDecision.toJson
  refine Decoder.record_object (by simp) fun r fs hl hv => ?_
  have h1 : Json.valuesAt fs "provider" = [provider.toJson] := by rw [hv]; simp
  have h2 : Json.valuesAt fs "reason" = [reason.toJson] := by rw [hv]; simp
  rw [Record.run_bind_of (Record.required_run hl h1 (Provider.decode_toJson provider) _),
    Record.run_bind_of (Record.required_run hl h2 (RouteReason.decode_toJson reason) _)]
  rfl

/-! ## Completions and responses -/

namespace Completion

/-- A completion fits the wire: both token counts are 64-bit. -/
def Fits (c : Completion) : Prop := c.inputTokens < 2 ^ 64 ∧ c.outputTokens < 2 ^ 64

instance : DecidablePred Fits := fun _ => by unfold Fits; infer_instance

/-- **Completions read back**, when their counts fit. -/
theorem decode_toJson (c : Completion) (h : c.Fits) : decode c.toJson = .ok c := by
  obtain ⟨text, input, output⟩ := c
  obtain ⟨hi, ho⟩ := h
  unfold decode toJson
  refine Decoder.record_object (by simp) fun r fs hl hv => ?_
  have h1 : Json.valuesAt fs "text" = [.str text] := by rw [hv]; simp
  have h2 : Json.valuesAt fs "input_tokens" = [Json.nat input] := by rw [hv]; simp
  have h3 : Json.valuesAt fs "output_tokens" = [Json.nat output] := by rw [hv]; simp
  rw [Record.run_bind_of (Record.required_run (d := Decoder.string) hl h1 rfl _),
    Record.run_bind_of (Record.required_run hl h2 (Decoder.u64_nat hi) _),
    Record.run_bind_of (Record.required_run hl h3 (Decoder.u64_nat ho) _)]
  rfl

end Completion

namespace Response

/-- A response fits the wire: latency and token counts are 64-bit, retries 32-bit and an error
code 16-bit. -/
def Fits (r : Response) : Prop :=
  r.latencyMs < 2 ^ 64 ∧ r.inputTokens < 2 ^ 64 ∧ r.outputTokens < 2 ^ 64 ∧
    r.totalTokens < 2 ^ 64 ∧ r.retries < 2 ^ 32 ∧ ∀ c ∈ r.errorCode, c < 2 ^ 16

instance : DecidablePred Fits := fun _ => by unfold Fits; infer_instance

/-- **Responses read back**, when their counts fit. -/
theorem decode_toJson (r : Response) (h : r.Fits) : decode r.toJson = .ok r := by
  obtain ⟨text, provider, requestId, latencyMs, cached, inputTokens, outputTokens, totalTokens,
    retries, originalProvider, error, errorCode⟩ := r
  obtain ⟨hlat, hin, hout, htot, hret, hcode⟩ := h
  unfold decode toJson
  refine Decoder.record_object ?_ fun r fs hl hv => ?_
  · cases requestId <;> cases originalProvider <;> cases error <;> cases errorCode <;> simp
  -- each field is held as written, or left out when absent
  have h1 : Json.valuesAt fs "response" = [.str text] := by rw [hv]; simp
  have h2 : Json.valuesAt fs "provider" = [provider.toJson] := by rw [hv]; simp
  have h3 : Json.valuesAt fs "request_id" = (requestId.map Json.str).toList := by rw [hv]; simp
  have h4 : Json.valuesAt fs "latency_ms" = [Json.nat latencyMs] := by rw [hv]; simp
  have h5 : Json.valuesAt fs "cached" = [.bool cached] := by rw [hv]; simp
  have h6 : Json.valuesAt fs "input_tokens" = [Json.nat inputTokens] := by rw [hv]; simp
  have h7 : Json.valuesAt fs "output_tokens" = [Json.nat outputTokens] := by rw [hv]; simp
  have h8 : Json.valuesAt fs "total_tokens" = [Json.nat totalTokens] := by rw [hv]; simp
  have h9 : Json.valuesAt fs "retries" = [Json.nat retries] := by rw [hv]; simp
  have h10 : Json.valuesAt fs "original_provider" =
      (originalProvider.map Provider.toJson).toList := by rw [hv]; simp
  have h11 : Json.valuesAt fs "error" = (error.map Json.str).toList := by rw [hv]; simp
  have h12 : Json.valuesAt fs "error_code" = (errorCode.map Json.nat).toList := by rw [hv]; simp
  rw [Record.run_bind_of (Record.required_run (d := Decoder.string) hl h1 rfl _),
    Record.run_bind_of (Record.required_run hl h2 (Provider.decode_toJson provider) _),
    Record.run_bind_of (Record.withDefault_option_run (d := Decoder.string) hl _ requestId h3
      (fun _ _ => Decoder.option_of_str rfl) _),
    Record.run_bind_of (Record.required_run hl h4 (Decoder.u64_nat hlat) _),
    Record.run_bind_of (Record.required_run (d := Decoder.bool) hl h5 rfl _),
    Record.run_bind_of (Record.required_run hl h6 (Decoder.u64_nat hin) _),
    Record.run_bind_of (Record.required_run hl h7 (Decoder.u64_nat hout) _),
    Record.run_bind_of (Record.required_run hl h8 (Decoder.u64_nat htot) _),
    Record.run_bind_of (Record.required_run hl h9 (Decoder.u32_nat hret) _),
    Record.run_bind_of (Record.withDefault_option_run hl _ originalProvider h10
      (fun p _ => Decoder.option_of_str (Provider.decode_toJson p)) _),
    Record.run_bind_of (Record.withDefault_option_run (d := Decoder.string) hl _ error h11
      (fun _ _ => Decoder.option_of_str rfl) _),
    Record.run_bind_of (Record.withDefault_option_run hl _ errorCode h12
      (fun c hc => Decoder.option_of_ne_null Json.noConfusion (Decoder.u16_nat (hcode c hc))) _)]
  rfl

end Response

/-! ## Provider faults -/

namespace ProviderFault

/-- A fault fits the wire: its code is 16-bit. -/
def Fits (f : ProviderFault) : Prop := f.code < 2 ^ 16

instance : DecidablePred Fits := fun _ => by unfold Fits; infer_instance

/-- **Provider faults read back**, when their code fits; an absent provider is written `null`
and read back as absent. -/
theorem decode_toJson (f : ProviderFault) (h : f.Fits) : decode f.toJson = .ok f := by
  obtain ⟨provider, code, kind, retryable, message⟩ := f
  unfold decode toJson
  refine Decoder.record_object (by simp) fun r fs hl hv => ?_
  have h1 : Json.valuesAt fs "provider" = [Json.opt Provider.toJson provider] := by rw [hv]; simp
  have h2 : Json.valuesAt fs "code" = [Json.nat code] := by rw [hv]; simp
  have h3 : Json.valuesAt fs "kind" = [kind.toJson] := by rw [hv]; simp
  have h4 : Json.valuesAt fs "retryable" = [.bool retryable] := by rw [hv]; simp
  have h5 : Json.valuesAt fs "message" = [.str message] := by rw [hv]; simp
  -- an absent provider is `null`, which the optional field reads as absent
  have hprov : Decoder.option Provider.decode (Json.opt Provider.toJson provider) = .ok provider := by
    cases provider with
    | none => rfl
    | some p => exact Decoder.option_of_str (Provider.decode_toJson p)
  rw [Record.run_bind_of (Record.optional_run hl h1 hprov _),
    Record.run_bind_of (Record.required_run hl h2 (Decoder.u16_nat h) _),
    Record.run_bind_of (Record.required_run hl h3 (FailureKind.decode_toJson kind) _),
    Record.run_bind_of (Record.required_run (d := Decoder.bool) hl h4 rfl _),
    Record.run_bind_of (Record.required_run (d := Decoder.string) hl h5 rfl _)]
  rfl

end ProviderFault

/-! ## Outcomes -/

namespace Outcome

/-- The fields beside the tag. -/
def untagged (fs : List (String × Json)) : List (String × Json) :=
  fs.filter (fun kv => !(kv.1 == "status"))

theorem valuesAt_untagged {fs : List (String × Json)} {k : String} (hk : k ≠ "status") :
    Json.valuesAt (untagged fs) k = Json.valuesAt fs k := by
  induction fs with
  | nil => rfl
  | cons kv rest ih =>
    obtain ⟨k', v⟩ := kv
    unfold untagged at ih ⊢
    by_cases hs : k' = "status"
    · subst hs
      simp [ih, Ne.symm hk]
    · simp [hs, ih]

/-- Fields without a tag split into no tag and themselves. -/
theorem splitStatus_of_untagged {fs : List (String × Json)}
    (h : Json.valuesAt fs "status" = []) : splitStatus fs = .ok (none, fs) := by
  induction fs with
  | nil => rfl
  | cons kv rest ih =>
    obtain ⟨k, v⟩ := kv
    by_cases hs : k = "status"
    · subst hs
      simp at h
    · rw [Json.valuesAt_cons, if_neg hs] at h
      rw [splitStatus, if_neg hs, ih h]
      rfl

/-- **Finding the tag.** Fields holding the tag once, naming an alternative, split into that
alternative and the fields beside the tag, in their order. -/
theorem splitStatus_of_tag {fs : List (String × Json)} {name : String} {st : Status}
    (h : Json.valuesAt fs "status" = [.str name])
    (hname : Decoder.spelled statusNames name = .ok st) :
    splitStatus fs = .ok (some st, untagged fs) := by
  induction fs with
  | nil => cases h
  | cons kv rest ih =>
    obtain ⟨k, v⟩ := kv
    by_cases hs : k = "status"
    · -- the tag itself; the rest holds no other
      subst hs
      simp only [Json.valuesAt_cons, if_true, List.cons.injEq] at h
      obtain ⟨rfl, hrest⟩ := h
      have hfilter : untagged rest = rest := by
        unfold untagged
        refine List.filter_eq_self.2 fun kv hkv => ?_
        have hne : kv.1 ≠ "status" := fun hk => by
          have : kv.2 ∈ Json.valuesAt rest "status" :=
            List.mem_map.2 ⟨kv, List.mem_filter.2 ⟨hkv, by simp [hk]⟩, rfl⟩
          rw [hrest] at this
          cases this
        simpa using hne
      rw [splitStatus, if_pos rfl]
      simp only [decodeStatus, hname, splitStatus_of_untagged hrest]
      unfold untagged
      rw [List.filter_cons_of_neg (by simp)]
      exact congrArg (fun l => Except.ok (some st, l)) hfilter.symm
    · rw [Json.valuesAt_cons, if_neg hs] at h
      rw [splitStatus, if_neg hs, ih h]
      unfold untagged
      rw [List.filter_cons_of_pos (by simpa using hs)]
      rfl

theorem decode_obj_of_tag {fs : List (String × Json)} {name : String} {st : Status}
    (h : Json.valuesAt fs "status" = [.str name])
    (hname : Decoder.spelled statusNames name = .ok st) :
    decode (.obj fs) = decodeBody st (.fields (untagged fs)) := by
  unfold decode
  dsimp only
  rw [splitStatus_of_tag h hname]
  rfl

/-- A tagged object written from a list naming each key once reads as the tagged alternative's
record, read from the fields beside the tag. -/
theorem decode_object_of_tag {L : List (String × Json)} {name : String} {st : Status}
    {o : Outcome} (hL : (L.map Prod.fst).Nodup) (hst : Json.valuesAt L "status" = [.str name])
    (hname : Decoder.spelled statusNames name = .ok st)
    (h : ∀ fs, (∀ k, k ≠ "status" → Json.valuesAt fs k = Json.valuesAt L k) →
      decodeBody st (.fields fs) = .ok o) :
    decode (Json.object L) = .ok o := by
  rw [Json.object_eq, decode_obj_of_tag ((Json.valuesAt_objectFields hL _).trans hst) hname]
  exact h _ fun k hk => (valuesAt_untagged hk).trans (Json.valuesAt_objectFields hL k)

/-- An outcome fits the wire when its response does, or its error code is 16-bit. -/
def Fits : Outcome → Prop
  | success r => r.Fits
  | error _ _ code => ∀ c ∈ code, c < 2 ^ 16
  | timeout => True
  | cancelled => True

instance : DecidablePred Fits := fun o => by cases o <;> unfold Fits <;> infer_instance

/-- **Outcomes read back**, when they fit: the tag names the alternative and the fields beside
it read as its record. -/
theorem decode_toJson (o : Outcome) (h : o.Fits) : decode o.toJson = .ok o := by
  cases o with
  | success resp =>
    simp only [toJson]
    refine @decode_object_of_tag _ "success" _ _ (by simp) (by simp) rfl fun fs hv => ?_
    unfold decodeBody
    refine Record.run_fields_of_clean rfl ?_
    have h1 : Json.valuesAt fs "response" = [resp.toJson] := (hv _ (by simp)).trans (by simp)
    rw [Record.run_bind_of (Record.required_run rfl h1 (Response.decode_toJson resp h) _)]
    rfl
  | error m kind code =>
    simp only [toJson]
    refine @decode_object_of_tag _ "error" _ _ (by cases kind <;> cases code <;> simp) (by simp)
      rfl fun fs hv => ?_
    unfold decodeBody
    refine Record.run_fields_of_clean rfl ?_
    have h1 : Json.valuesAt fs "message" = [.str m] := (hv _ (by simp)).trans (by simp)
    have h2 : Json.valuesAt fs "kind" = (kind.map FailureKind.toJson).toList :=
      (hv _ (by simp)).trans (by simp)
    have h3 : Json.valuesAt fs "code" = (code.map Json.nat).toList :=
      (hv _ (by simp)).trans (by simp)
    rw [Record.run_bind_of (Record.required_run (d := Decoder.string) rfl h1 rfl _),
      Record.run_bind_of (Record.withDefault_option_run rfl _ kind h2
        (fun k _ => Decoder.option_of_str (FailureKind.decode_toJson k)) _),
      Record.run_bind_of (Record.withDefault_option_run rfl _ code h3
        (fun c hc => Decoder.option_of_ne_null Json.noConfusion (Decoder.u16_nat (h c hc))) _)]
    rfl
  | timeout => rfl
  | cancelled => rfl

end Outcome

/-! ## Fan-out reports -/

theorem Provider.wireName_injective : Function.Injective Provider.wireName := fun a b h =>
  Option.some.inj ((Provider.ofWireName?_wireName a).symm.trans
    (h ▸ Provider.ofWireName?_wireName b))

theorem Provider.spelled_wireName (p : Provider) :
    Decoder.spelled Provider.spellings p.wireName = .ok p := by
  cases p <;> rfl

/-- Reading every item of a list succeeds, and gives the items' readings, when each item reads
to a value. -/
theorem List.mapM_except_of_forall {α β ε : Type} {f : α → Except ε β} {g : α → β} :
    ∀ {l : List α}, (∀ x ∈ l, f x = .ok (g x)) → l.mapM f = .ok (l.map g)
  | [], _ => rfl
  | x :: l, h => by
    rw [List.mapM_cons, h x List.mem_cons_self,
      List.mapM_except_of_forall fun y hy => h y (List.mem_cons_of_mem _ hy)]
    rfl

/-- An item of a list read item by item is the reading of one of the list's items. -/
theorem List.exists_of_mapM_except {α β ε : Type} {f : α → Except ε β} :
    ∀ {l : List α} {ys : List β}, l.mapM f = .ok ys → ∀ y ∈ ys, ∃ x ∈ l, f x = .ok y
  | [], ys, h, y, hy => by
    cases h
    cases hy
  | x :: l, ys, h, y, hy => by
    rw [List.mapM_cons] at h
    cases hx : f x with
    | error e =>
      rw [hx] at h
      cases h
    | ok b =>
      cases hl : l.mapM f with
      | error e =>
        rw [hx, hl] at h
        cases h
      | ok bs =>
        rw [hx, hl] at h
        cases h
        rcases List.mem_cons.1 hy with rfl | hy
        · exact ⟨x, List.mem_cons_self, hx⟩
        · obtain ⟨x', hx', hfx'⟩ := List.exists_of_mapM_except hl y hy
          exact ⟨x', List.mem_cons_of_mem _ hx', hfx'⟩

namespace FanoutReport

/-- A report fits the wire: its latency is 64-bit, its outcomes are in provider order, each
provider once, and each outcome fits. -/
def Fits (rep : FanoutReport) : Prop :=
  rep.latencyMs < 2 ^ 64 ∧ rep.results.Pairwise (fun a b => a.1.rank < b.1.rank) ∧
    ∀ e ∈ rep.results, e.2.Fits

instance : DecidablePred Fits := fun _ => by unfold Fits; infer_instance

theorem foldl_insertOutcome_eq (E acc : List (Provider × Outcome)) :
    E.foldl (fun acc e => insertOutcome e.1 e.2 acc) acc =
      E.foldl (fun acc e => insertKeyed (fun a b => a.rank < b.rank) e.1 e.2 acc) acc := by
  congr
  funext acc e
  exact insertOutcome_eq _ _ _

/-- Outcomes in provider order, each provider once, are put back in that order from any
reordering of them. -/
theorem foldl_insertOutcome_of_perm {E results : List (Provider × Outcome)}
    (hpw : results.Pairwise (fun a b => a.1.rank < b.1.rank)) (hp : E.Perm results) :
    E.foldl (fun acc e => insertOutcome e.1 e.2 acc) [] = results := by
  have hndE : (E.map Prod.fst).Nodup := (hp.map Prod.fst).nodup_iff.2 (nodup_of_pairwise hpw)
  rw [foldl_insertOutcome_eq]
  -- the fold is in provider order and holds the same outcomes as the report
  have hsorted := pairwise_foldl_insertKeyed (fun _ _ h => Provider.rank_injective h) E
    (List.Pairwise.nil : ([] : List (Provider × Outcome)).Pairwise _)
  have hperm := (foldl_insertKeyed_perm_nil (fun a b : Provider => a.rank < b.rank) hndE).trans hp
  exact hperm.eq_of_pairwise (fun _ _ _ _ hab hba => absurd (Nat.lt_trans hab hba) (Nat.lt_irrefl _))
    hsorted hpw

/-- The outcomes as a report writes them, keyed by wire name, read back as a reordering of
themselves. -/
theorem entries_outcomes {results : List (Provider × Outcome)}
    (hpw : results.Pairwise (fun a b => a.1.rank < b.1.rank)) (hfits : ∀ e ∈ results, e.2.Fits) :
    ∃ E, Decoder.entries (Decoder.spelled Provider.spellings) Outcome.decode
      (Json.object (results.map fun e => (e.1.wireName, e.2.toJson))) = .ok E ∧
      E.Perm results := by
  -- reading one written entry gives back the outcome it was written from
  let f : String × Json → Except DecodeError (Provider × Outcome) := fun kv => do
    let k ← Decoder.spelled Provider.spellings kv.1
    let v ← Outcome.decode kv.2
    pure (k, v)
  let g : String × Json → Provider × Outcome := fun kv =>
    match f kv with
    | .ok e => e
    | .error _ => default
  have hf : ∀ e ∈ results, f (e.1.wireName, e.2.toJson) = .ok e := by
    rintro ⟨p, o⟩ he
    simp only [f, Provider.spelled_wireName, Outcome.decode_toJson o (hfits _ he)]
    rfl
  have hg : ∀ e ∈ results, g (e.1.wireName, e.2.toJson) = e := by
    intro e he
    simp only [g, hf e he]
  have hkeys : ((results.map fun e => (e.1.wireName, e.2.toJson)).map Prod.fst).Nodup := by
    simpa [List.map_map, Function.comp_def] using
      (nodup_of_pairwise hpw).map Provider.wireName_injective
  have hperm := Json.objectFields_perm hkeys
  refine ⟨(Json.objectFields _).map g, List.mapM_except_of_forall fun kv hkv => ?_, ?_⟩
  · obtain ⟨e, he, rfl⟩ := List.mem_map.1 (hperm.mem_iff.1 hkv)
    rw [hg e he]
    exact hf e he
  · refine (hperm.map g).trans ?_
    rw [List.map_map]
    conv_rhs => rw [← List.map_id results]
    exact List.Perm.of_eq (List.map_congr_left fun e he => hg e he)

/-- **Fan-out reports read back**, when they fit: the outcomes, written keyed by wire name and
so sorted by name, are put back in provider order. -/
theorem decode_toJson (rep : FanoutReport) (h : rep.Fits) : decode rep.toJson = .ok rep := by
  obtain ⟨requestId, results, latencyMs⟩ := rep
  obtain ⟨hlat, hpw, hfits⟩ := h
  obtain ⟨E, hE, hperm⟩ := entries_outcomes hpw hfits
  unfold decode toJson
  refine Decoder.record_object (by cases requestId <;> simp) fun r fs hl hv => ?_
  have h1 : Json.valuesAt fs "request_id" = (requestId.map Json.str).toList := by rw [hv]; simp
  have h2 : Json.valuesAt fs "results" =
      [Json.object (results.map fun e => (e.1.wireName, e.2.toJson))] := by rw [hv]; simp
  have h3 : Json.valuesAt fs "latency_ms" = [Json.nat latencyMs] := by rw [hv]; simp
  rw [Record.run_bind_of (Record.withDefault_option_run (d := Decoder.string) hl _ requestId h1
      (fun _ _ => Decoder.option_of_str rfl) _),
    Record.run_bind_of (Record.required_run hl h2 hE _),
    Record.run_bind_of (Record.required_run hl h3 (Decoder.u64_nat hlat) _)]
  show ((⟨requestId, E.foldl (fun acc e => insertOutcome e.1 e.2 acc) [], latencyMs⟩ :
    FanoutReport), ([] : List RankedFault)) = _
  rw [foldl_insertOutcome_of_perm hpw hperm]

end FanoutReport

/-! ## What reading gives -/

theorem Completion.fits_of_decode {j : Json} {c : Completion} (h : Completion.decode j = .ok c) :
    c.Fits := by
  obtain ⟨r, hr⟩ := Decoder.exists_run_of_record h
  refine Record.Yields.of_run ?_ hr
  refine Record.Yields.bind (Record.Yields.required_any r "text" _) fun _ => ?_
  refine Record.Yields.bind (Record.Yields.required_unsigned r "input_tokens" _ _) fun _ => ?_
  refine Record.Yields.bind (Record.Yields.required_unsigned r "output_tokens" _ _) fun _ => ?_
  exact Record.Yields.pure fun ho hi _ => ⟨hi, ho⟩

theorem Response.fits_of_decode {j : Json} {resp : Response} (h : Response.decode j = .ok resp) :
    resp.Fits := by
  obtain ⟨r, hr⟩ := Decoder.exists_run_of_record h
  refine Record.Yields.of_run ?_ hr
  refine Record.Yields.bind (Record.Yields.required_any r "response" _) fun _ => ?_
  refine Record.Yields.bind (Record.Yields.required_any r "provider" _) fun _ => ?_
  refine Record.Yields.bind (Record.Yields.withDefault_any r "request_id" _ _) fun _ => ?_
  refine Record.Yields.bind (Record.Yields.required_unsigned r "latency_ms" _ _) fun _ => ?_
  refine Record.Yields.bind (Record.Yields.required_any r "cached" _) fun _ => ?_
  refine Record.Yields.bind (Record.Yields.required_unsigned r "input_tokens" _ _) fun _ => ?_
  refine Record.Yields.bind (Record.Yields.required_unsigned r "output_tokens" _ _) fun _ => ?_
  refine Record.Yields.bind (Record.Yields.required_unsigned r "total_tokens" _ _) fun _ => ?_
  refine Record.Yields.bind (Record.Yields.required_unsigned r "retries" _ _) fun _ => ?_
  refine Record.Yields.bind (Record.Yields.withDefault_any r "original_provider" _ _) fun _ => ?_
  refine Record.Yields.bind (Record.Yields.withDefault_any r "error" _ _) fun _ => ?_
  refine Record.Yields.bind (Record.Yields.withDefault_option_unsigned r "error_code" _ _)
    fun _ => ?_
  -- the guarantees arrive last field first
  exact Record.Yields.pure fun hcode _ _ hret htot hout hin _ hlat _ _ _ =>
    ⟨hlat, hin, hout, htot, hret, hcode⟩

theorem ProviderFault.fits_of_decode {j : Json} {f : ProviderFault}
    (h : ProviderFault.decode j = .ok f) : f.Fits := by
  obtain ⟨r, hr⟩ := Decoder.exists_run_of_record h
  refine Record.Yields.of_run ?_ hr
  refine Record.Yields.bind (Record.Yields.optional_any r "provider" _) fun _ => ?_
  refine Record.Yields.bind (Record.Yields.required_unsigned r "code" _ _) fun _ => ?_
  refine Record.Yields.bind (Record.Yields.required_any r "kind" _) fun _ => ?_
  refine Record.Yields.bind (Record.Yields.required_any r "retryable" _) fun _ => ?_
  refine Record.Yields.bind (Record.Yields.required_any r "message" _) fun _ => ?_
  exact Record.Yields.pure fun _ _ _ hcode _ => hcode

namespace Outcome

/-- An alternative's record, read from any layout, fits the wire. -/
theorem fits_of_decodeBody {st : Status} {layout : RecordLayout} {o : Outcome}
    (h : decodeBody st layout = .ok o) : o.Fits := by
  cases st <;> simp only [decodeBody] at h
  case success =>
    refine Record.Yields.of_run ?_ h
    refine Record.Yields.bind (P := Response.Fits) (Record.Yields.field _ "response"
      (fun _ _ hd => Response.fits_of_decode hd) (fun _ h => by cases h) (fun _ h => by cases h))
      fun _ => ?_
    exact Record.Yields.pure fun hresp => hresp
  case error =>
    refine Record.Yields.of_run ?_ h
    refine Record.Yields.bind (Record.Yields.required_any _ "message" _) fun _ => ?_
    refine Record.Yields.bind (Record.Yields.withDefault_any _ "kind" _ _) fun _ => ?_
    refine Record.Yields.bind (Record.Yields.withDefault_option_unsigned _ "code" _ _) fun _ => ?_
    exact Record.Yields.pure fun hcode _ _ => hcode
  -- the tags without fields
  all_goals
    cases h
    trivial

theorem fits_of_decode {j : Json} {o : Outcome} (h : decode j = .ok o) : o.Fits := by
  unfold decode at h
  split at h
  · -- an object: the tag is split off, then the alternative's record is read
    rename_i fs
    cases hs : splitStatus fs with
    | error e =>
      rw [hs] at h
      cases h
    | ok p =>
      obtain ⟨st, others⟩ := p
      rw [hs] at h
      cases st with
      | none => cases h
      | some st => exact fits_of_decodeBody h
  · cases h
  · -- an array: the tag first, then the alternative's fields in order
    rename_i t rest
    cases hs : decodeStatus t with
    | error e =>
      rw [hs] at h
      cases h
    | ok st =>
      rw [hs] at h
      exact fits_of_decodeBody h
  · cases h

end Outcome

namespace FanoutReport

/-- Each outcome of a map read by provider fits the wire. -/
theorem entries_fits {j : Json} {E : List (Provider × Outcome)}
    (h : Decoder.entries (Decoder.spelled Provider.spellings) Outcome.decode j = .ok E) :
    ∀ e ∈ E, e.2.Fits := by
  intro e he
  cases j with
  | obj fs =>
    obtain ⟨kv, -, hkv⟩ := List.exists_of_mapM_except h e he
    cases hk : Decoder.spelled Provider.spellings kv.1 with
    | error _ =>
      simp only [hk] at hkv
      cases hkv
    | ok p =>
      cases ho : Outcome.decode kv.2 with
      | error _ =>
        simp only [hk, ho] at hkv
        cases hkv
      | ok o =>
        simp only [hk, ho] at hkv
        cases hkv
        exact Outcome.fits_of_decode ho
  | _ => cases h

theorem fits_of_decode {j : Json} {rep : FanoutReport} (h : decode j = .ok rep) : rep.Fits := by
  obtain ⟨r, hr⟩ := Decoder.exists_run_of_record h
  refine Record.Yields.of_run ?_ hr
  refine Record.Yields.bind (Record.Yields.withDefault_any r "request_id" _ _) fun _ => ?_
  refine Record.Yields.bind (P := fun E => ∀ e ∈ E, e.2.Fits) (Record.Yields.field r "results"
    (fun _ _ hd => entries_fits hd) (fun _ h => by cases h) (fun _ h => by cases h)) fun E => ?_
  refine Record.Yields.bind (Record.Yields.required_unsigned r "latency_ms" _ _) fun _ => ?_
  refine Record.Yields.pure fun hlat hE _ => ⟨hlat, ?_, fun e he => ?_⟩
  · -- the outcomes are put in provider order as they are read
    rw [foldl_insertOutcome_eq]
    exact pairwise_foldl_insertKeyed (fun _ _ h => Provider.rank_injective h) E List.Pairwise.nil
  · rw [foldl_insertOutcome_eq] at he
    rcases mem_foldl_insertKeyed _ he with he | he
    · exact hE e he
    · cases he

end FanoutReport

/-! ## The round trip -/

/-- **The wire format round-trips.** Every request and routing decision, and every completion,
response, provider fault, outcome and fan-out report whose numbers fit their wire widths (and,
for a report, whose outcomes are in provider order), reads back as itself from what it writes.
Whatever value a text reads to, aliases and reordered fields included, writes a text that reads
back to that value, so reading and writing again changes nothing after the first pass. -/
theorem wire_round_trip :
    ((∀ q : Request, Request.decode q.toJson = .ok q) ∧
      ∀ j q, Request.decode j = .ok q → Request.decode q.toJson = .ok q) ∧
    ((∀ d : RouteDecision, RouteDecision.decode d.toJson = .ok d) ∧
      ∀ j d, RouteDecision.decode j = .ok d → RouteDecision.decode d.toJson = .ok d) ∧
    ((∀ c : Completion, c.Fits → Completion.decode c.toJson = .ok c) ∧
      ∀ j c, Completion.decode j = .ok c → Completion.decode c.toJson = .ok c) ∧
    ((∀ r : Response, r.Fits → Response.decode r.toJson = .ok r) ∧
      ∀ j r, Response.decode j = .ok r → Response.decode r.toJson = .ok r) ∧
    ((∀ f : ProviderFault, f.Fits → ProviderFault.decode f.toJson = .ok f) ∧
      ∀ j f, ProviderFault.decode j = .ok f → ProviderFault.decode f.toJson = .ok f) ∧
    ((∀ o : Outcome, o.Fits → Outcome.decode o.toJson = .ok o) ∧
      ∀ j o, Outcome.decode j = .ok o → Outcome.decode o.toJson = .ok o) ∧
    ((∀ rep : FanoutReport, rep.Fits → FanoutReport.decode rep.toJson = .ok rep) ∧
      ∀ j rep, FanoutReport.decode j = .ok rep → FanoutReport.decode rep.toJson = .ok rep) :=
  -- the fixed point is the round trip at the value read, which fits because it was read
  ⟨⟨Request.decode_toJson, fun _ q _ => Request.decode_toJson q⟩,
    ⟨RouteDecision.decode_toJson, fun _ d _ => RouteDecision.decode_toJson d⟩,
    ⟨Completion.decode_toJson, fun _ c h => c.decode_toJson (Completion.fits_of_decode h)⟩,
    ⟨Response.decode_toJson, fun _ r h => r.decode_toJson (Response.fits_of_decode h)⟩,
    ⟨ProviderFault.decode_toJson, fun _ f h => f.decode_toJson (ProviderFault.fits_of_decode h)⟩,
    ⟨Outcome.decode_toJson, fun _ o h => o.decode_toJson (Outcome.fits_of_decode h)⟩,
    ⟨FanoutReport.decode_toJson, fun _ rep h => rep.decode_toJson (FanoutReport.fits_of_decode h)⟩⟩

/-- The alias `qa` reads as question answering, and the request read is written under the
canonical name and reads back; a completion at the top of its counts' width reads back. -/
theorem wire_round_trip_alias_and_widest_count :
    Request.decode (Json.object [("query", .str "hi"), ("task_type", .str "qa")]) =
      .ok { query := "hi", taskType := some .questionAnswering } ∧
    Request.decode ({ query := "hi", taskType := some .questionAnswering } : Request).toJson =
      .ok { query := "hi", taskType := some .questionAnswering } ∧
    Completion.decode ({ text := "ok", inputTokens := 2 ^ 64 - 1, outputTokens := 0 } :
      Completion).toJson = .ok { text := "ok", inputTokens := 2 ^ 64 - 1, outputTokens := 0 } :=
  have hread : Request.decode (Json.object [("query", .str "hi"), ("task_type", .str "qa")]) =
      .ok { query := "hi", taskType := some .questionAnswering } := by rfl
  ⟨hread, wire_round_trip.1.2 _ _ hread, wire_round_trip.2.2.1.1 _ (by decide)⟩

end QueryRelay
