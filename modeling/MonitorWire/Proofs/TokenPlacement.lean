import Mathlib
import MonitorWire.Proofs.SessionInvariants
import MonitorWire.Api.Client

namespace MonitorWire

namespace ApiVersion

theorem atLeast_new_iff (v : ApiVersion) (a b : Nat) :
    v.atLeast (new a b 0) = true ↔ a < v.major ∨ v.major = a ∧ b ≤ v.minor := by
  have hlast : (compare v.revision 0).then (compareText v.suffix "") ≠ .lt := by
    rw [Ne, Ordering.then_eq_lt, not_or, not_and]
    exact ⟨by simp [Nat.compare_eq_lt], fun _ => compareText_empty v.suffix⟩
  simp only [new, atLeast, order, bne_iff_ne, ne_eq, Ordering.then_eq_lt, Nat.compare_eq_lt,
    Nat.compare_eq_eq, hlast, and_false, or_false, not_or, not_and]
  omega

end ApiVersion

namespace Api

namespace Session

variable {α β : Type}

def outcome (x : Session α) (next : UInt64) : Except ProtocolError α × UInt64 := (x.run next).1

theorem outcome_bind (x : Session α) (f : α → Session β) (n : UInt64) :
    (x >>= f).outcome n = match x.outcome n with
      | (.ok a, n') => (f a).outcome n'
      | (.error e, n') => (.error e, n') := by
  simp only [outcome, run, bind, ExceptT.bind, ExceptT.mk, ExceptT.run, StateT.run, StateT.bind]
  generalize x n = t
  obtain ⟨⟨_ | a, n'⟩, events⟩ := t <;> rfl

@[simp] theorem outcome_pure (a : α) (n : UInt64) : (pure a : Session α).outcome n = (.ok a, n) :=
  rfl

@[simp] theorem outcome_throw (e : ProtocolError) (n : UInt64) :
    (throw e : Session α).outcome n = (.error e, n) := rfl

@[simp] theorem outcome_nextId (n : UInt64) : nextId.outcome n = (.ok n, n + 1) := rfl

-- one draw and then `k` more move the counter as `k + 1` draws do, wrapping alike
theorem one_add_ofNat (k : Nat) : 1 + UInt64.ofNat k = UInt64.ofNat (k + 1) := by
  rw [UInt64.ofNat_add, UInt64.add_comm]
  rfl

@[simp] theorem outcome_ofTraced (x : Traced α) (n : UInt64) :
    (ofTraced x).outcome n = (.ok x.value, n) := rfl

@[simp] theorem outcome_attempt (x : Session α) (n : UInt64) :
    Session.outcome (α := Except ProtocolError α) (ExceptT.lift (ExceptT.run x)) n =
      (.ok (x.outcome n).1, (x.outcome n).2) := rfl

theorem outcome_map (f : α → β) (x : Session α) (n : UInt64) :
    (f <$> x).outcome n = ((x.outcome n).1.map f, (x.outcome n).2) := by
  simp only [outcome, run, Functor.map, ExceptT.map, ExceptT.mk, ExceptT.run, StateT.run,
    StateT.bind, bind]
  generalize x n = t
  obtain ⟨⟨_ | a, n'⟩, events⟩ := t <;> rfl

end Session

def HttpRequest.bearerTokens (r : HttpRequest) : List String :=
  r.headers.filterMap fun (name, value) =>
    if sameName name "Authorization" && "Bearer ".toList.isPrefixOf value.toList then
      some (String.ofList (value.toList.drop 7))
    else none

def HttpRequest.authorizations (r : HttpRequest) : List (String × String) :=
  r.headers.filter fun (name, _) => sameName name "Authorization"

namespace ApiCore

/-- The headers of a call and its body's `auth` member: where its token goes, or the failure
of a call that needs a token and has none. -/
def tokenPlacement (core : ApiCore) (method : String) (version : Option ApiVersion)
    (token : Option Secret) : Except ProtocolError (List (String × String) × Option String) :=
  if requiresAuth method then
    match token with
    | none => .error (.auth notLoggedIn)
    | some t =>
      if core.tokenInHeader version then
        .ok (core.baseHeaders ++ [("Authorization", "Bearer " ++ t.expose)], none)
      else .ok (core.baseHeaders, some t.expose)
  else .ok (core.baseHeaders, none)

theorem outcome_buildRequest (core : ApiCore) (method : String) (params : Json.Value)
    (version : Option ApiVersion) (token : Option Secret) (n : UInt64) :
    (core.buildRequest method params version token).outcome n =
      ((core.tokenPlacement method version token).map fun (headers, auth) =>
        ⟨core.endpoint, headers, (RpcRequest.toJson
          ⟨method, if params.isNull then .object [] else params, n, auth⟩).write, core.timeout⟩,
        n + 1) := by
  unfold buildRequest tokenPlacement
  by_cases ha : requiresAuth method = true
  · cases token with
    | none => simp [Session.outcome_bind, ha, Except.map]
    | some t =>
      by_cases hh : core.tokenInHeader version = true <;>
        simp [Session.outcome_bind, ha, hh, Except.map]
  · simp [Session.outcome_bind, ha, Except.map]

theorem tokenInHeader_iff (core : ApiCore) (version : Option ApiVersion) :
    core.tokenInHeader version = true ↔ core.basicAuth = none ∧
      ∃ v, version = some v ∧ (6 < v.major ∨ v.major = 6 ∧ 4 ≤ v.minor) := by
  cases version with
  | none => simp [tokenInHeader]
  | some v =>
    simp [tokenInHeader, headerAuthVersion, ← ApiVersion.atLeast_new_iff]

def BasicOnly (core : ApiCore) : Prop := ∀ b, core.basicAuth = some b → ∃ cred, b = "Basic " ++ cred

theorem basicOnly_of_new {c : Config.ApiConfig} {core : ApiCore} (h : ApiCore.new c = .ok core) :
    core.BasicOnly := by
  intro b hb
  unfold ApiCore.new at h
  cases hv : c.validateStrict with
  | error e => simp [hv, bind, Except.bind] at h
  | ok u =>
    cases ha : c.version.mapM ApiVersion.parse with
    | error e => simp [hv, ha, bind, Except.bind] at h
    | ok assumed =>
      simp only [hv, ha, bind, Except.bind, pure, Except.pure, Except.ok.injEq] at h
      subst h
      revert hb
      split
      · intro hb
        cases hb
        exact ⟨_, rfl⟩
      · simp

theorem bearerTokens_baseHeaders {core : ApiCore} (hcore : core.BasicOnly) (url body : String)
    (timeout : Duration) : HttpRequest.bearerTokens ⟨url, core.baseHeaders, body, timeout⟩ = [] := by
  cases hb : core.basicAuth with
  | none => simp [HttpRequest.bearerTokens, baseHeaders, hb, sameName]
  | some b =>
    obtain ⟨cred, rfl⟩ := hcore b hb
    simp [HttpRequest.bearerTokens, baseHeaders, hb, sameName]

theorem authorizations_baseHeaders (core : ApiCore) (url body : String) (timeout : Duration) :
    HttpRequest.authorizations ⟨url, core.baseHeaders, body, timeout⟩ =
      core.basicAuth.toList.map (("Authorization", ·)) := by
  cases hb : core.basicAuth <;> simp [HttpRequest.authorizations, baseHeaders, hb, sameName]

theorem bearerTokens_append_bearer (url body : String) (timeout : Duration)
    (headers : List (String × String)) (t : String) :
    HttpRequest.bearerTokens ⟨url, headers ++ [("Authorization", "Bearer " ++ t)], body, timeout⟩ =
      HttpRequest.bearerTokens ⟨url, headers, body, timeout⟩ ++ [t] := by
  simp [HttpRequest.bearerTokens, List.filterMap_append, sameName]

end ApiCore

structure Call where
  method : String
  params : Json.Value
  version : Option ApiVersion
  token : Option Secret

namespace Call

def carried (call : Call) : Option String :=
  if requiresAuth call.method then call.token.map Secret.expose else none

/-- A request of a call, with id `id`: the envelope of the call with that id, the token it must
carry in exactly one place (a `Bearer` header or the body's `auth` member), a `Bearer` header
exactly when the token travels there (from 6.4 on, without HTTP Basic authentication), and at
most one `Authorization` header. -/
structure Placed (core : ApiCore) (call : Call) (id : UInt64) (req : HttpRequest) : Prop where
  url : req.url = core.endpoint
  timeout : req.timeout = core.timeout
  envelope : ∃ auth, req.body = (RpcRequest.toJson
      ⟨call.method, if call.params.isNull then .object [] else call.params, id, auth⟩).write ∧
    req.bearerTokens ++ auth.toList = call.carried.toList
  bearer_iff : req.bearerTokens ≠ [] ↔ requiresAuth call.method = true ∧ core.basicAuth = none ∧
    ∃ v, call.version = some v ∧ (6 < v.major ∨ v.major = 6 ∧ 4 ≤ v.minor)
  one_authorization : req.authorizations.length ≤ 1

/-- What building a call's request with id `id` gives: `Auth` exactly when the method needs a
token and there is none, and otherwise a placed request. -/
def Built (core : ApiCore) (call : Call) (id : UInt64) : Except ProtocolError HttpRequest → Prop
  | .error e => e = .auth notLoggedIn ∧ requiresAuth call.method = true ∧ call.token = none
  | .ok req => (requiresAuth call.method = true → call.token ≠ none) ∧ call.Placed core id req

end Call

namespace ApiCore

theorem built_buildRequest {core : ApiCore} (hcore : core.BasicOnly) (call : Call) (n : UInt64) :
    call.Built core n
      ((core.buildRequest call.method call.params call.version call.token).outcome n).1 := by
  obtain ⟨method, params, version, token⟩ := call
  rw [outcome_buildRequest]
  unfold tokenPlacement
  by_cases ha : requiresAuth method = true
  · cases token with
    | none => simp [Call.Built, ha, Except.map]
    | some t =>
      by_cases hh : core.tokenInHeader version = true
      · -- a `Bearer` header: there is no Basic one
        have hbasic := ((tokenInHeader_iff core version).mp hh).1
        simp only [ha, hh, ↓reduceIte, Except.map, Call.Built]
        refine ⟨by simp, rfl, rfl, ⟨none, rfl, ?_⟩, ?_, ?_⟩
        · simp [bearerTokens_append_bearer, bearerTokens_baseHeaders hcore, Call.carried, ha]
        · simp [bearerTokens_append_bearer, ha, ← tokenInHeader_iff, hh]
        · simp [HttpRequest.authorizations, baseHeaders, hbasic, sameName]
      · -- the body's `auth` member
        simp only [ha, hh, ↓reduceIte, Except.map, Call.Built, Bool.false_eq_true]
        refine ⟨by simp, rfl, rfl, ⟨some t.expose, rfl, ?_⟩, ?_, ?_⟩
        · simp [bearerTokens_baseHeaders hcore, Call.carried, ha]
        · simp [bearerTokens_baseHeaders hcore, ← tokenInHeader_iff, hh]
        · rw [authorizations_baseHeaders]
          cases core.basicAuth <;> simp
  · -- a method sent without a token
    simp only [ha, ↓reduceIte, Except.map, Call.Built, Bool.false_eq_true]
    refine ⟨by simp, rfl, rfl, ⟨none, rfl, ?_⟩, ?_, ?_⟩
    · simp [bearerTokens_baseHeaders hcore, Call.carried, ha]
    · simp [bearerTokens_baseHeaders hcore, ha]
    · rw [authorizations_baseHeaders]
      cases core.basicAuth <;> simp

/-- Builds the requests of calls one after another on one core, each call drawing its id
whether it succeeds or not. -/
def buildEach (core : ApiCore) : List Call → Session (List (Except ProtocolError HttpRequest))
  | [] => pure []
  | call :: calls => do
    let r ← ExceptT.lift (ExceptT.run
      (core.buildRequest call.method call.params call.version call.token))
    let rs ← core.buildEach calls
    pure (r :: rs)

theorem outcome_buildEach (core : ApiCore) (calls : List Call) (n : UInt64) :
    (core.buildEach calls).outcome n =
      (.ok (calls.mapIdx fun k call =>
        ((core.buildRequest call.method call.params call.version call.token).outcome
          (n + UInt64.ofNat k)).1),
        n + UInt64.ofNat calls.length) := by
  induction calls generalizing n with
  | nil => simp [buildEach]
  | cons call calls ih =>
    -- the call draws one id, whether it fails or not
    have hnext : ((core.buildRequest call.method call.params call.version call.token).outcome n).2 =
        n + 1 := by
      rw [outcome_buildRequest]
    rw [buildEach, Session.outcome_bind, Session.outcome_attempt]
    dsimp only
    rw [Session.outcome_bind, hnext, ih]
    -- the later calls draw from `n + 1`
    have hshift : ∀ k, n + 1 + UInt64.ofNat k = n + UInt64.ofNat (k + 1) := fun k => by
      rw [UInt64.add_assoc, Session.one_add_ofNat]
    have hzero : n + UInt64.ofNat 0 = n := UInt64.add_zero n
    simp only [Session.outcome_pure, List.mapIdx_cons, List.length_cons, hshift, hzero]

end ApiCore

/-- Calls made one after another on a core whose counter starts at 1: the `k`-th draws the id
`k + 1`, modulo `2 ^ 64` as the counter wraps, whether it succeeds or not; it fails with `Auth`
exactly when its method needs a token and there is none, and otherwise gives the envelope of the
call with its token in exactly one place, a `Bearer` header from 6.4 on without HTTP Basic
authentication and the body's `auth` member otherwise, no token for a method sent without one,
and at most one `Authorization` header. -/
theorem request_token_placement (core : ApiCore) (hcore : core.BasicOnly) (calls : List Call) :
    ∃ results, (core.buildEach calls).outcome 1 = (.ok results, UInt64.ofNat (calls.length + 1)) ∧
      results.length = calls.length ∧
      ∀ k (call : Call) r, calls[k]? = some call → results[k]? = some r →
        call.Built core (UInt64.ofNat (k + 1)) r := by
  -- the counter starts at 1, so the `k`-th call draws `1 + k`
  refine ⟨_, by rw [ApiCore.outcome_buildEach, Session.one_add_ofNat], by simp, ?_⟩
  intro k call r hcall hr
  simp only [List.getElem?_mapIdx, hcall, Option.map_some, Option.some.injEq] at hr
  subst hr
  rw [← Session.one_add_ofNat]
  exact ApiCore.built_buildRequest hcore call _

theorem request_token_placement_login :
    let core : ApiCore := ⟨"http://127.0.0.1/api_jsonrpc.php", ⟨30, 0⟩, none, none, none, none,
      false, Redactor.default⟩
    let calls : List Call := [⟨"host.get", .null, some (ApiVersion.new 7 0 0), none⟩,
      ⟨"host.get", .null, some (ApiVersion.new 7 0 0), some ⟨"token"⟩⟩,
      ⟨"apiinfo.version", .null, none, some ⟨"token"⟩⟩]
    core.BasicOnly ∧ ∃ results,
      (core.buildEach calls).outcome 1 = (.ok results, UInt64.ofNat (calls.length + 1)) ∧
      results.length = calls.length ∧
      ∀ k (call : Call) r, calls[k]? = some call → results[k]? = some r →
        call.Built core (UInt64.ofNat (k + 1)) r := by
  intro core calls
  have hcore : core.BasicOnly := fun b hb => by cases hb
  exact ⟨hcore, request_token_placement core hcore calls⟩

end Api

end MonitorWire
