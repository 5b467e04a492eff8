import Mathlib
import QueryRelay.Proofs.Gateway.Store
import QueryRelay.Proofs.RateLimit.Isolation

/-!
# What the query handlers answer

A POST to `/v1/query` or `/v1/query/parallel` whose body was read and that the rate limiter
admitted is served in three steps: the request id is fixed, the request is checked against the
longest query allowed, and only then is the dispatcher run. This file follows such a request
through `serveHttp` for every state of the gateway, every body and every way the dispatcher
can end, and gives the whole run as an equation.

* The id is the body's, or else the next fresh one, and taking it changes nothing but the
  counter of issued ids (`FixesId`). Passing the limiter changes nothing but the limiter
  (`passLimiter_frame`), so the handler reads the settings, the clock and the shutdown as the
  request found them (`FixesId.frame`).
* A request that fails the check is answered 400 with the error body carrying the id, and the
  run ends in the state the id step left: the dispatcher is never run.
* Otherwise the dispatcher runs under `requestContext`, which expires the server's request
  timeout after the request arrived and is cancelled with the server's shutdown. A query is
  answered as its dispatcher ended (`queryAnswer`), and every response it answers with carries
  the id, whether the store or a provider served it (`handleQuery_requestId`). A fan-out is
  always answered 200 with its report, which carries the id (`handleFanout_requestId`). A
  dispatcher that stops stops the handler.

`/health` is not rate limited: every request to it leaves the gateway, its limiter included,
as it was (`exec_serveHttp_health`).
-/

namespace QueryRelay

namespace GatewayM

/-- An operation built by `bind` that ends with a value ran its first part to a value, and
the rest from there. -/
theorem exec_bind_eq_ok {α β : Type} {x : GatewayM α} {f : α → GatewayM β} {g g' : Gateway}
    {b : β} (h : (x >>= f).exec g = (.ok b, g')) :
    ∃ a g₁, x.exec g = (.ok a, g₁) ∧ (f a).exec g₁ = (.ok b, g') := by
  rw [exec_bind] at h
  rcases hx : x.exec g with ⟨s | a, g₁⟩
  · rw [hx] at h
    cases h
  · rw [hx] at h
    exact ⟨a, g₁, rfl, h⟩

end GatewayM

namespace Gateway

open GatewayM

/-! ## What the handlers build -/

/-- The context a handler gives the dispatcher for a request that arrives in state `g`: it
expires the server's request timeout later and is cancelled with the server's shutdown. -/
def requestContext (g : Gateway) : Context :=
  { cancel := g.shutdown, deadline := some (g.clock + g.server.requestTimeoutMs) }

theorem expiring_with_shutdown (g : Gateway) :
    { Context.expiring g.clock g.server.requestTimeoutMs with cancel := g.shutdown } =
      requestContext g := rfl

/-- The answer to a query with id `id`, for how the dispatcher ended: 200 with its response,
or the failure's status with its code, its text and the id. -/
def queryAnswer (id : String) : Except Failure Response → HttpResponse
  | .ok r => ⟨200, .json r.toJson⟩
  | .error e => ⟨e.httpStatus, .json (Json.object
      [("code", .str e.apiCode), ("message", .str e.message), ("request_id", .str id)])⟩

/-- The health check's answer. -/
def healthAnswer : HttpResponse :=
  ⟨200, .json (Json.object [("status", .str "ok"), ("version", .str "0.3.0")])⟩

/-- A check fails only for an invalid request. -/
theorem validate_error {r : Request} {n : Nat} {e : Failure} (h : r.validate n = .error e) :
    ∃ m, e = .invalidRequest m := by
  unfold Request.validate at h
  split at h
  · cases h
    exact ⟨_, rfl⟩
  · dsimp only at h
    split at h
    · cases h
      exact ⟨_, rfl⟩
    · cases h

/-! ## The request id -/

/-- The id of request `r`, fixed in state `g`, is `id`, and fixing it left `g₁`: the body's
id, with nothing changed, or else the next fresh one, which moves the counter of issued ids on
and changes nothing else. -/
def FixesId (r : Request) (g : Gateway) (id : String) (g₁ : Gateway) : Prop :=
  r.requestId = some id ∧ g₁ = g ∨
    r.requestId = none ∧ id = "00000000-0000-4000-8000-" ++ Http.hexPadded 12 g.issuedIds ∧
      g₁ = { g with issuedIds := g.issuedIds + 1 }

theorem exec_freshRequestId (g : Gateway) :
    freshRequestId.exec g = (.ok ("00000000-0000-4000-8000-" ++ Http.hexPadded 12 g.issuedIds),
      { g with issuedIds := g.issuedIds + 1 }) := rfl

theorem requestIdOf_fixes (r : Request) (g : Gateway) :
    ∃ id g₁, (requestIdOf r).exec g = (.ok id, g₁) ∧ FixesId r g id g₁ := by
  unfold requestIdOf
  cases hr : r.requestId with
  | some i => exact ⟨i, g, rfl, .inl ⟨hr, rfl⟩⟩
  | none => exact ⟨_, _, exec_freshRequestId g, .inr ⟨hr, rfl, rfl⟩⟩

/-- Passing the limiter changes nothing but the limiter. -/
theorem passLimiter_frame {req : HttpRequest} {g g₀ : Gateway}
    {r : Except Stop (Option HttpResponse)} (h : (passLimiter req).exec g = (r, g₀)) :
    g₀ = { g with limiter := g₀.limiter } := by
  cases hl : g.limiter with
  | none =>
    have hrun : (passLimiter req).exec g = (.ok none, g) := by
      unfold passLimiter
      rw [exec_get_bind, hl]
      rfl
    rw [hrun] at h
    cases h
    rfl
  | some l =>
    have hg : g = { g with limiter := some l } := by rw [← hl]
    rw [hg, exec_passLimiter] at h
    cases h
    rfl

/-- After the limiter and the id, the handler reads the settings and builds the context as the
request found them. -/
theorem FixesId.frame {r : Request} {g g₀ g₁ : Gateway} {id : String}
    (h : FixesId r g₀ id g₁) (hframe : g₀ = { g with limiter := g₀.limiter }) :
    requestContext g₁ = requestContext g ∧ g₁.server = g.server := by
  rcases h with ⟨-, rfl⟩ | ⟨-, -, rfl⟩ <;> rw [hframe] <;> exact ⟨rfl, rfl⟩

/-! ## The dispatchers keep the id -/

/-- Every response a query answers with carries the request's id, whether the store or a
provider served it. -/
theorem handleQuery_requestId (ctx : Context) (req : Request) (g : Gateway) {r : Response}
    (h : ((handleQuery ctx req).exec g).1 = .ok (.ok r)) : r.requestId = req.requestId := by
  -- the three ways a query begins: its context is done, the store holds it, or it is served
  rcases hck : ctx.check g.clock with e | ⟨⟩
  · rw [exec_handleQuery_of_done hck] at h
    cases h
  · by_cases hhit : ∃ hit, (g.store.get req g.clock).1 = .ok (some hit)
    · obtain ⟨hit, hhit⟩ := hhit
      rw [exec_handleQuery_of_hit hck hhit] at h
      cases h
      rfl
    · rw [exec_handleQuery_of_miss hck fun hit h' => hhit ⟨hit, h'⟩] at h
      obtain ⟨cs, -, -, hans⟩ := serveMiss_answers ctx req g.clock
        { g with store := (g.store.get req g.clock).2 }
      exact hans.requestId h

/-- Every fan-out report carries the request's id. -/
theorem handleFanout_requestId {ctx : Context} {req : Request} {providers : List Provider}
    {timeout : Option Nat} {g : Gateway} {rep : FanoutReport}
    (hrep : ((handleFanout ctx req providers timeout).exec g).1 = .ok rep) :
    rep.requestId = req.requestId := by
  have h : (handleFanout ctx req providers timeout).exec g =
      (.ok rep, ((handleFanout ctx req providers timeout).exec g).2) := Prod.ext hrep rfl
  generalize ((handleFanout ctx req providers timeout).exec g).2 = g' at h
  unfold handleFanout at h
  -- peel the steps off one by one: the report is built by the last
  obtain ⟨started, g₁, -, h⟩ := exec_bind_eq_ok h
  obtain ⟨g₂, g₂', -, h⟩ := exec_bind_eq_ok h
  obtain ⟨targets, g₃, -, h⟩ := exec_bind_eq_ok h
  obtain ⟨s, g₄, -, h⟩ := exec_bind_eq_ok h
  obtain ⟨⟨results, finish⟩, g₅, -, h⟩ := exec_bind_eq_ok h
  obtain ⟨_, g₆, -, h⟩ := exec_bind_eq_ok h
  cases h
  rfl

/-! ## The handlers -/

/-- A POST to a rate-limited endpoint that the limiter admitted is served by the endpoint from
the state the limiter left. -/
theorem exec_serveHttp_admitted {req : HttpRequest} {e : Http.Endpoint} {g g₀ : Gateway}
    (hm : req.method = "POST")
    (hd : Http.dispatch req.method (Http.pathOf req.target) = .endpoint e true)
    (hpass : (passLimiter req).exec g = (.ok none, g₀)) :
    (serveHttp req).exec g = (serveEndpoint req e).exec g₀ := by
  have ho : ("POST" == "OPTIONS") = false := by decide
  have hh : ("POST" == "HEAD") = false := by decide
  unfold serveHttp
  rw [hd]
  simp only [hm, ho, hh, Bool.false_eq_true, ↓reduceIte]
  rw [exec_bind, hpass]
  dsimp only
  rw [exec_bind]
  rcases (serveEndpoint req e).exec g₀ with ⟨_ | x, g'⟩ <;> rfl

/-- A query whose body was read and whose id is fixed: a failed check is answered with the id
and nothing else happens, and otherwise the dispatcher's end decides the answer. -/
theorem exec_serveQuery {req : HttpRequest} {payload : Request} {g g₁ : Gateway} {id : String}
    (hbody : Http.readBody req Request.ofBody = .ok payload)
    (hid : (requestIdOf payload).exec g = (.ok id, g₁)) :
    (serveQuery req).exec g =
      match ({ payload with requestId := some id } : Request).validate g₁.server.maxQueryLength with
      | .error e => (.ok (queryAnswer id (.error e)), g₁)
      | .ok () =>
        let run := (handleQuery (requestContext g₁) { payload with requestId := some id }).exec g₁
        (run.1.map (queryAnswer id), run.2) := by
  unfold serveQuery
  rw [hbody]
  dsimp only
  rw [exec_bind, hid]
  dsimp only
  rw [exec_get_bind]
  cases ({ payload with requestId := some id } : Request).validate g₁.server.maxQueryLength with
  | error e => rfl
  | ok u =>
    dsimp only
    rw [exec_bind, expiring_with_shutdown]
    rcases (handleQuery (requestContext g₁) { payload with requestId := some id }).exec g₁ with
      ⟨_ | _ | r, g'⟩ <;> rfl

/-- A fan-out whose body was read and whose id is fixed: a failed check is answered with the id
and nothing else happens, and otherwise the report is the answer. -/
theorem exec_serveFanout {req : HttpRequest} {payload : FanoutRequest} {g g₁ : Gateway}
    {id : String} (hbody : Http.readBody req FanoutRequest.ofBody = .ok payload)
    (hid : (requestIdOf payload.request).exec g = (.ok id, g₁)) :
    (serveFanout req).exec g =
      match ({ payload.request with requestId := some id } : Request).validate
          g₁.server.maxQueryLength with
      | .error e => (.ok (queryAnswer id (.error e)), g₁)
      | .ok () =>
        let run := (handleFanout (requestContext g₁) { payload.request with requestId := some id }
          payload.providers payload.timeoutMs).exec g₁
        (run.1.map (fun rep => ({ status := 200, body := .json rep.toJson } : HttpResponse)),
          run.2) := by
  unfold serveFanout
  rw [hbody]
  dsimp only
  rw [exec_bind, hid]
  dsimp only
  rw [exec_get_bind]
  cases ({ payload.request with requestId := some id } : Request).validate
      g₁.server.maxQueryLength with
  | error e => rfl
  | ok u =>
    dsimp only
    rw [exec_bind, expiring_with_shutdown]
    rcases (handleFanout (requestContext g₁) { payload.request with requestId := some id }
      payload.providers payload.timeoutMs).exec g₁ with ⟨_ | rep, g'⟩ <;> rfl

/-! ## Whole requests -/

/-- **An admitted query.** Its id is fixed first; a request that fails the check is answered
400 with the id and the dispatcher is never run; otherwise the dispatcher's end, under the
request's context, decides the answer, and every response carries the id. -/
theorem serveHttp_query_admitted {req : HttpRequest} {payload : Request} {g g₀ : Gateway}
    (hm : req.method = "POST") (hp : Http.pathOf req.target = "/v1/query")
    (hbody : Http.readBody req Request.ofBody = .ok payload)
    (hpass : (passLimiter req).exec g = (.ok none, g₀)) :
    ∃ id g₁, FixesId payload g₀ id g₁ ∧
      ((∃ m, ({ payload with requestId := some id } : Request).validate g.server.maxQueryLength =
          .error (.invalidRequest m) ∧
          (serveHttp req).exec g = (.ok ⟨400, .json (Json.object [("code", .str "invalid_request"),
            ("message", .str ("Invalid request: " ++ m)), ("request_id", .str id)])⟩, g₁)) ∨
        (({ payload with requestId := some id } : Request).validate g.server.maxQueryLength = .ok () ∧
          (serveHttp req).exec g =
            (((handleQuery (requestContext g) { payload with requestId := some id }).exec g₁).1.map
                (queryAnswer id),
              ((handleQuery (requestContext g) { payload with requestId := some id }).exec g₁).2) ∧
          ∀ r, ((handleQuery (requestContext g) { payload with requestId := some id }).exec g₁).1 =
            .ok (.ok r) → r.requestId = some id)) := by
  obtain ⟨id, g₁, hid, hfix⟩ := requestIdOf_fixes payload g₀
  obtain ⟨hctx, hserver⟩ := hfix.frame (passLimiter_frame hpass)
  have hd : Http.dispatch req.method (Http.pathOf req.target) = .endpoint .query true := by
    rw [hm, hp]
    rfl
  refine ⟨id, g₁, hfix, ?_⟩
  rw [exec_serveHttp_admitted hm hd hpass]
  simp only [serveEndpoint]
  rw [exec_serveQuery hbody hid, hctx, hserver]
  cases hv : ({ payload with requestId := some id } : Request).validate g.server.maxQueryLength with
  | error e =>
    obtain ⟨m, rfl⟩ := validate_error hv
    exact .inl ⟨m, rfl, rfl⟩
  | ok u =>
    exact .inr ⟨rfl, rfl, fun r hr => handleQuery_requestId _ _ _ hr⟩

/-- **An admitted fan-out.** Its id is fixed first; a request that fails the check is answered
400 with the id and no provider is asked; otherwise the answer is 200 with the report, which
carries the id, unless the fan-out stops. -/
theorem serveHttp_fanout_admitted {req : HttpRequest} {payload : FanoutRequest} {g g₀ : Gateway}
    (hm : req.method = "POST") (hp : Http.pathOf req.target = "/v1/query/parallel")
    (hbody : Http.readBody req FanoutRequest.ofBody = .ok payload)
    (hpass : (passLimiter req).exec g = (.ok none, g₀)) :
    ∃ id g₁, FixesId payload.request g₀ id g₁ ∧
      ((∃ m, ({ payload.request with requestId := some id } : Request).validate
            g.server.maxQueryLength = .error (.invalidRequest m) ∧
          (serveHttp req).exec g = (.ok ⟨400, .json (Json.object [("code", .str "invalid_request"),
            ("message", .str ("Invalid request: " ++ m)), ("request_id", .str id)])⟩, g₁)) ∨
        (({ payload.request with requestId := some id } : Request).validate
            g.server.maxQueryLength = .ok () ∧
          (serveHttp req).exec g =
            (((handleFanout (requestContext g) { payload.request with requestId := some id }
                  payload.providers payload.timeoutMs).exec g₁).1.map
                (fun rep => ({ status := 200, body := .json rep.toJson } : HttpResponse)),
              ((handleFanout (requestContext g) { payload.request with requestId := some id }
                  payload.providers payload.timeoutMs).exec g₁).2) ∧
          ∀ rep, ((handleFanout (requestContext g) { payload.request with requestId := some id }
              payload.providers payload.timeoutMs).exec g₁).1 = .ok rep →
            rep.requestId = some id)) := by
  obtain ⟨id, g₁, hid, hfix⟩ := requestIdOf_fixes payload.request g₀
  obtain ⟨hctx, hserver⟩ := hfix.frame (passLimiter_frame hpass)
  have hd : Http.dispatch req.method (Http.pathOf req.target) = .endpoint .fanout true := by
    rw [hm, hp]
    rfl
  refine ⟨id, g₁, hfix, ?_⟩
  rw [exec_serveHttp_admitted hm hd hpass]
  simp only [serveEndpoint]
  rw [exec_serveFanout hbody hid, hctx, hserver]
  cases hv : ({ payload.request with requestId := some id } : Request).validate
      g.server.maxQueryLength with
  | error e =>
    obtain ⟨m, rfl⟩ := validate_error hv
    exact .inl ⟨m, rfl, rfl⟩
  | ok u =>
    exact .inr ⟨rfl, rfl, fun rep hrep => handleFanout_requestId hrep⟩

/-- `/health` is not rate limited: every request to it is answered and leaves the gateway, its
limiter included, as it was; a GET is answered with the health check. -/
theorem exec_serveHttp_health {req : HttpRequest} (hp : Http.pathOf req.target = "/health")
    (g : Gateway) :
    ∃ resp, (serveHttp req).exec g = (.ok resp, g) ∧ (req.method = "GET" → resp = healthAnswer) := by
  have hd : Http.dispatch req.method "/health" =
      if (req.method == "GET" || (req.method == "HEAD" && "GET" == "GET")) then
        .endpoint .health false
      else .wrongMethod false := rfl
  unfold serveHttp
  rw [hp, hd]
  -- a preflight, the health check (GET, or HEAD without the body), or a wrong method
  by_cases ho : (req.method == "OPTIONS") = true
  · refine ⟨_, by rw [if_pos ho]; rfl, fun hget => ?_⟩
    rw [hget] at ho
    exact absurd ho (by decide)
  · rw [if_neg ho]
    by_cases hr : (req.method == "GET" || (req.method == "HEAD" && "GET" == "GET")) = true
    · refine ⟨_, by rw [if_pos hr]; rfl, fun hget => ?_⟩
      have hh : (req.method == "HEAD") = false := by rw [hget]; decide
      simp only [hh, Bool.false_eq_true, ↓reduceIte]
      rfl
    · refine ⟨_, by rw [if_neg hr]; rfl, fun hget => ?_⟩
      rw [hget] at hr
      exact absurd hr (by decide)

/-- **The query handlers fix the id, check, then dispatch.** For every state of the gateway:

* a POST to `/v1/query` whose body was read and that the limiter admitted gets its id first
  (the body's, or the next fresh one); it is answered 400 with the code `invalid_request`, the
  check's message and the id, in the state the id step left, exactly when the check fails;
  otherwise the dispatcher runs under the request's context (the server's request timeout from
  the instant the request arrived, cancelled with the server's shutdown) and its end decides
  the answer (`queryAnswer`: 200 with the response, or the failure's status, code, text and
  the id), and every response carries the id, a cached one included;
* a POST to `/v1/query/parallel` is answered the same way up to the dispatcher, and then
  always 200 with the fan-out's report, which carries the id;
* every request to `/health` leaves the gateway, its rate limiter included, as it was. -/
theorem handlers_answer_with_request_id :
    (∀ (req : HttpRequest) (payload : Request) (g g₀ : Gateway), req.method = "POST" →
      Http.pathOf req.target = "/v1/query" → Http.readBody req Request.ofBody = .ok payload →
      (passLimiter req).exec g = (.ok none, g₀) →
      ∃ id g₁, FixesId payload g₀ id g₁ ∧
        ((∃ m, ({ payload with requestId := some id } : Request).validate g.server.maxQueryLength =
            .error (.invalidRequest m) ∧
            (serveHttp req).exec g = (.ok ⟨400, .json (Json.object [("code", .str "invalid_request"),
              ("message", .str ("Invalid request: " ++ m)), ("request_id", .str id)])⟩, g₁)) ∨
          (({ payload with requestId := some id } : Request).validate g.server.maxQueryLength =
              .ok () ∧
            (serveHttp req).exec g =
              (((handleQuery (requestContext g) { payload with requestId := some id }).exec g₁).1.map
                  (queryAnswer id),
                ((handleQuery (requestContext g) { payload with requestId := some id }).exec g₁).2) ∧
            ∀ r, ((handleQuery (requestContext g) { payload with requestId := some id }).exec g₁).1 =
              .ok (.ok r) → r.requestId = some id))) ∧
    (∀ (req : HttpRequest) (payload : FanoutRequest) (g g₀ : Gateway), req.method = "POST" →
      Http.pathOf req.target = "/v1/query/parallel" →
      Http.readBody req FanoutRequest.ofBody = .ok payload →
      (passLimiter req).exec g = (.ok none, g₀) →
      ∃ id g₁, FixesId payload.request g₀ id g₁ ∧
        ((∃ m, ({ payload.request with requestId := some id } : Request).validate
              g.server.maxQueryLength = .error (.invalidRequest m) ∧
            (serveHttp req).exec g = (.ok ⟨400, .json (Json.object [("code", .str "invalid_request"),
              ("message", .str ("Invalid request: " ++ m)), ("request_id", .str id)])⟩, g₁)) ∨
          (({ payload.request with requestId := some id } : Request).validate
              g.server.maxQueryLength = .ok () ∧
            (serveHttp req).exec g =
              (((handleFanout (requestContext g) { payload.request with requestId := some id }
                    payload.providers payload.timeoutMs).exec g₁).1.map
                  (fun rep => ({ status := 200, body := .json rep.toJson } : HttpResponse)),
                ((handleFanout (requestContext g) { payload.request with requestId := some id }
                    payload.providers payload.timeoutMs).exec g₁).2) ∧
            ∀ rep, ((handleFanout (requestContext g) { payload.request with requestId := some id }
                payload.providers payload.timeoutMs).exec g₁).1 = .ok rep →
              rep.requestId = some id))) ∧
    (∀ (req : HttpRequest) (g : Gateway), Http.pathOf req.target = "/health" →
      ∃ resp, (serveHttp req).exec g = (.ok resp, g) ∧ (req.method = "GET" → resp = healthAnswer)) :=
  ⟨fun _ _ _ _ hm hp hbody hpass => serveHttp_query_admitted hm hp hbody hpass,
    fun _ _ _ _ hm hp hbody hpass => serveHttp_fanout_admitted hm hp hbody hpass,
    fun _ g hp => exec_serveHttp_health hp g⟩

/-- A POST to `/v1/query` with a JSON body that names its own id, to a gateway without a rate
limiter: the body is read, the request is admitted, and the handler answers under the body's
id. -/
theorem handlers_answer_with_request_id_on_posted_query :
    let req : HttpRequest :=
      { method := "POST", target := "/v1/query",
        headers := { entries := [("content-type", "application/json")] },
        body := "\x7b\"query\": \"ping\", \"request_id\": \"r-1\"\x7d" }
    let payload : Request := { query := "ping", requestId := some "r-1" }
    let g : Gateway := { router := { rng := Random.Rng.ofSeed 0 }, store := .counting {} }
    (req.method = "POST" ∧ Http.pathOf req.target = "/v1/query" ∧
      Http.readBody req Request.ofBody = .ok payload ∧ (passLimiter req).exec g = (.ok none, g)) ∧
      ∃ id g₁, FixesId payload g id g₁ ∧
        ((∃ m, ({ payload with requestId := some id } : Request).validate
              g.server.maxQueryLength = .error (.invalidRequest m) ∧
            (serveHttp req).exec g = (.ok ⟨400, .json (Json.object [("code", .str "invalid_request"),
              ("message", .str ("Invalid request: " ++ m)), ("request_id", .str id)])⟩, g₁)) ∨
          (({ payload with requestId := some id } : Request).validate g.server.maxQueryLength =
              .ok () ∧
            (serveHttp req).exec g =
              (((handleQuery (requestContext g) { payload with requestId := some id }).exec g₁).1.map
                  (queryAnswer id),
                ((handleQuery (requestContext g) { payload with requestId := some id }).exec g₁).2) ∧
            ∀ r, ((handleQuery (requestContext g) { payload with requestId := some id }).exec g₁).1 =
              .ok (.ok r) → r.requestId = some id)) := by
  intro req payload g
  have hm : req.method = "POST" := rfl
  have hp : Http.pathOf req.target = "/v1/query" := by cbv
  -- the body is declared JSON, and reads as the request
  have hjson : Http.declaresJson req.headers = true := by
    have hvis : Http.isVisibleAscii "application/json" = true := by cbv
    have hparse : Http.MediaType.parse? "application/json" =
        some ⟨"application", "json", none⟩ := by decide +kernel
    have hget : req.headers.get? "content-type" = some "application/json" := by cbv
    unfold Http.declaresJson
    rw [hget]
    simp only [hvis, hparse, Option.map_some, Option.getD_some, Bool.true_and]
    rfl
  have hbody : Http.readBody req Request.ofBody = .ok payload := by
    have hread : Request.ofBody req.body = .ok payload := by cbv
    unfold Http.readBody
    rw [hjson, hread]
    rfl
  have hpass : (passLimiter req).exec g = (.ok none, g) := rfl
  exact ⟨⟨hm, hp, hbody, hpass⟩, handlers_answer_with_request_id.1 req payload g g hm hp hbody hpass⟩

end Gateway

end QueryRelay
