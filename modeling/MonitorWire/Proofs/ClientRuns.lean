import Mathlib
import MonitorWire.Proofs.TokenPlacement

namespace MonitorWire

namespace Json

def readEscaped : List Char → Option (Char × List Char)
  | '\\' :: 'u' :: '0' :: '0' :: h :: l :: x => do
    let hv ← Bytes.hexValue? h
    let lv ← Bytes.hexValue? l
    pure (Char.ofNat (16 * hv + lv), x)
  | '\\' :: 'b' :: x => some (Char.ofNat 8, x)
  | '\\' :: 'f' :: x => some (Char.ofNat 12, x)
  | '\\' :: 't' :: x => some ('\t', x)
  | '\\' :: 'n' :: x => some ('\n', x)
  | '\\' :: 'r' :: x => some ('\r', x)
  | '\\' :: c :: x => some (c, x)
  | c :: x => some (c, x)
  | [] => none

theorem readEscaped_escapeChar (c : Char) (x : List Char) :
    readEscaped (escapeChar c ++ x) = some (c, x) := by
  unfold escapeChar
  split_ifs with h1 h2 h3 h4 h5 h6 h7 h8
  · simp at h1; subst h1; rfl
  · simp at h2; subst h2; rfl
  · have hc : c = Char.ofNat 8 := by rw [← Char.ofNat_toNat c, beq_iff_eq.mp h3]
    subst hc; rfl
  · simp at h4; subst h4; rfl
  · simp at h5; subst h5; rfl
  · have hc : c = Char.ofNat 12 := by rw [← Char.ofNat_toNat c, beq_iff_eq.mp h6]
    subst hc; rfl
  · simp at h7; subst h7; rfl
  · -- a control character without a short escape: its code in two hexadecimal digits
    have hhi : c.toNat / 16 < 16 := by omega
    have hlo : c.toNat % 16 < 16 := Nat.mod_lt _ (by omega)
    simp only [List.cons_append, readEscaped, Bytes.hexValue?_hexDigit _ hhi,
      Bytes.hexValue?_hexDigit _ hlo]
    simp [Nat.div_add_mod, Char.ofNat_toNat]
  · simp at h1 h2
    unfold readEscaped
    split <;> simp_all

theorem escapeChar_append_inj {c₁ c₂ : Char} {x₁ x₂ : List Char}
    (h : escapeChar c₁ ++ x₁ = escapeChar c₂ ++ x₂) : c₁ = c₂ ∧ x₁ = x₂ := by
  have h' := congrArg readEscaped h
  simpa [readEscaped_escapeChar] using h'

theorem head_escapeChar (c : Char) : ∃ d r, escapeChar c = d :: r ∧ d ≠ '"' := by
  unfold escapeChar
  split_ifs <;> simp_all

theorem flatMap_escapeChar_quote_inj {s₁ s₂ x₁ x₂ : List Char}
    (h : s₁.flatMap escapeChar ++ '"' :: x₁ = s₂.flatMap escapeChar ++ '"' :: x₂) :
    s₁ = s₂ ∧ x₁ = x₂ := by
  induction s₁ generalizing s₂ with
  | nil =>
    cases s₂ with
    | nil => simpa using h
    | cons c s =>
      obtain ⟨d, r, hd, hq⟩ := head_escapeChar c
      simp [hd] at h
      exact absurd h.1.symm hq
  | cons c₁ s₁ ih =>
    cases s₂ with
    | nil =>
      obtain ⟨d, r, hd, hq⟩ := head_escapeChar c₁
      simp [hd] at h
      exact absurd h.1 hq
    | cons c₂ s₂ =>
      simp only [List.flatMap_cons, List.append_assoc] at h
      obtain ⟨rfl, hrest⟩ := escapeChar_append_inj h
      obtain ⟨rfl, hx⟩ := ih hrest
      exact ⟨rfl, hx⟩

end Json

theorem RpcRequest.toList_write_toJson (r : RpcRequest) : ∃ rest,
    (r.toJson.write).toList = "\x7b\"jsonrpc\":\"2.0\",\"method\":\"".toList ++
      r.method.toList.flatMap Json.escapeChar ++ '"' :: rest := by
  simp only [RpcRequest.toJson, List.cons_append, Json.Value.write, Json.writeFields, Json.quote,
    String.toList_append, String.toList_ofList]
  simp [Json.escapeChar, jsonrpcVersion]

namespace Api

theorem requiresAuth_eq_false_iff {m : String} : requiresAuth m = false ↔ m ∈ unauthMethods := by
  simp [requiresAuth]

namespace HttpRequest

def Calls (r : HttpRequest) (method : String) : Prop :=
  ∃ params id auth, r.body = (RpcRequest.toJson ⟨method, params, id, auth⟩).write

/-- The request calls `method` carrying exactly `token`: its body is the envelope of a call to
the method, and its `Bearer` headers and `auth` member together hold exactly `token`. -/
def Carrying (r : HttpRequest) (method : String) (token : Option String) : Prop :=
  ∃ params id auth, r.body = (RpcRequest.toJson ⟨method, params, id, auth⟩).write ∧
    r.bearerTokens ++ auth.toList = token.toList

theorem Carrying.calls {r : HttpRequest} {method : String} {token : Option String}
    (h : r.Carrying method token) : r.Calls method := by
  obtain ⟨params, id, auth, hb, -⟩ := h
  exact ⟨params, id, auth, hb⟩

theorem calls_unique {r : HttpRequest} {m₁ m₂ : String} (h₁ : r.Calls m₁) (h₂ : r.Calls m₂) :
    m₁ = m₂ := by
  obtain ⟨p₁, i₁, a₁, hb₁⟩ := h₁
  obtain ⟨p₂, i₂, a₂, hb₂⟩ := h₂
  obtain ⟨rest₁, hr₁⟩ := RpcRequest.toList_write_toJson ⟨m₁, p₁, i₁, a₁⟩
  obtain ⟨rest₂, hr₂⟩ := RpcRequest.toList_write_toJson ⟨m₂, p₂, i₂, a₂⟩
  have h := hr₁.symm.trans ((congrArg String.toList (hb₁.symm.trans hb₂)).trans hr₂)
  rw [List.append_assoc, List.append_assoc, List.append_cancel_left_eq] at h
  exact String.toList_inj.mp (Json.flatMap_escapeChar_quote_inj h).1

def Tokenless (r : HttpRequest) : Prop := ∃ m, requiresAuth m = false ∧ r.Carrying m none

end HttpRequest

def SessionState.tokenFor (s : SessionState) (method : String) : Option String :=
  if requiresAuth method then s.token.map Secret.expose else none

theorem HttpRequest.Tokenless.carrying {r : HttpRequest} (h : r.Tokenless) (s : SessionState) :
    ∃ m, r.Carrying m (s.tokenFor m) := by
  obtain ⟨m, hm, hc⟩ := h
  exact ⟨m, by simpa [SessionState.tokenFor, hm] using hc⟩

namespace ApiCore

variable {core : ApiCore} {n n' : UInt64} {r : HttpRequest}

theorem Session.outcome_of_map_ok {α β : Type} {f : α → β} (hf : Function.Injective f)
    {x : Session α} {a : α} (h : (f <$> x).outcome n = (.ok (f a), n')) :
    x.outcome n = (.ok a, n') := by
  rw [Session.outcome_map] at h
  rcases hx : x.outcome n with ⟨_ | b, m⟩
  · simp [hx, Except.map] at h
  · simp only [hx, Except.map, Prod.mk.injEq, Except.ok.injEq] at h
    rw [hf h.1, h.2]

theorem carrying_of_buildRequest (hcore : core.BasicOnly) {method : String} {params : Json.Value}
    {version : Option ApiVersion} {token : Option Secret}
    (h : (core.buildRequest method params version token).outcome n = (.ok r, n')) :
    r.Carrying method (if requiresAuth method then token.map Secret.expose else none) := by
  have hb := built_buildRequest hcore ⟨method, params, version, token⟩ n
  simp only [h] at hb
  obtain ⟨auth, hbody, htok⟩ := hb.2.envelope
  exact ⟨_, n, auth, hbody, htok⟩

theorem tokenless_of_buildRequest (hcore : core.BasicOnly) {method : String}
    {params : Json.Value} {version : Option ApiVersion} {token : Option Secret}
    (hm : requiresAuth method = false)
    (h : (core.buildRequest method params version token).outcome n = (.ok r, n')) :
    r.Carrying method none := by
  simpa [hm] using carrying_of_buildRequest hcore h

theorem carrying_of_versionRequest (hcore : core.BasicOnly)
    (h : core.versionRequest.outcome n = (.ok r, n')) : r.Carrying versionMethod none :=
  tokenless_of_buildRequest hcore (requiresAuth_eq_false_iff.2 (by simp [unauthMethods])) h

theorem carrying_of_loginRequest (hcore : core.BasicOnly) {v : ApiVersion} {user : String}
    {password : Secret} (h : (core.loginRequest v user password).outcome n = (.ok r, n')) :
    r.Carrying loginMethod none := by
  unfold loginRequest at h
  exact tokenless_of_buildRequest hcore (requiresAuth_eq_false_iff.2 (by simp [unauthMethods])) h

theorem outcome_pendingLogin_authenticated {s : SessionState} (hs : s.isAuthenticated = true)
    (v : ApiVersion) (n : UInt64) : (core.pendingLogin s v).outcome n = (.ok none, n) := by
  simp [pendingLogin, hs]

theorem carrying_of_pendingLogin (hcore : core.BasicOnly) {s : SessionState} {v : ApiVersion}
    (h : (core.pendingLogin s v).outcome n = (.ok (some r), n')) : r.Carrying loginMethod none := by
  unfold pendingLogin at h
  split at h
  · simp at h
  · split at h
    · exact carrying_of_loginRequest hcore (Session.outcome_of_map_ok (Option.some_injective _) h)
    · simp at h

theorem carrying_of_checkAuthRequest (hcore : core.BasicOnly) {s : SessionState}
    (h : (core.checkAuthRequest s).outcome n = (.ok (some r), n')) :
    r.Carrying checkAuthMethod none := by
  unfold checkAuthRequest at h
  split at h
  · simp at h
  all_goals
    exact tokenless_of_buildRequest hcore (requiresAuth_eq_false_iff.2 (by simp [unauthMethods]))
      (Session.outcome_of_map_ok (Option.some_injective _) h)

theorem carrying_of_logoutStep (hcore : core.BasicOnly) {s : SessionState}
    (h : (core.logoutStep s).outcome n = (.ok (.remote r), n')) :
    r.Carrying logoutMethod (s.tokenFor logoutMethod) := by
  obtain ⟨version, auth⟩ := s
  unfold logoutStep at h
  split at h
  · simp at h
  · simp at h
  · next t hauth =>
    subst hauth
    have hc := carrying_of_buildRequest hcore
      (Session.outcome_of_map_ok (fun _ _ hr => LogoutStep.remote.inj hr) h)
    have hlogout : requiresAuth logoutMethod = true := by
      rw [← Bool.not_eq_false, requiresAuth_eq_false_iff]
      simp [unauthMethods, logoutMethod, versionMethod, loginMethod, checkAuthMethod]
    simpa [SessionState.tokenFor, SessionState.token, hlogout] using hc

end ApiCore

namespace ClientM

variable {σ α β : Type}

def outcome (x : ClientM σ α) (core : ApiCore) (post : Post σ) (st : ClientState σ) :
    Except ProtocolError α × ClientState σ := (x.run core post st).1

theorem outcome_bind (x : ClientM σ α) (f : α → ClientM σ β) (core : ApiCore) (post : Post σ)
    (st : ClientState σ) :
    (x >>= f).outcome core post st = match x.outcome core post st with
      | (.ok a, st') => (f a).outcome core post st'
      | (.error e, st') => (.error e, st') := by
  simp only [outcome, run, bind, ReaderT.bind, ExceptT.bind, ExceptT.mk, ExceptT.run, StateT.run,
    StateT.bind]
  generalize x (core, post) st = t
  obtain ⟨⟨_ | a, st'⟩, events⟩ := t <;> rfl

theorem outcome_map (f : α → β) (x : ClientM σ α) (core : ApiCore) (post : Post σ)
    (st : ClientState σ) :
    (f <$> x).outcome core post st =
      ((x.outcome core post st).1.map f, (x.outcome core post st).2) := by
  simp only [outcome, run, Functor.map, ExceptT.map, ExceptT.mk, ExceptT.run,
    StateT.run, StateT.bind, bind]
  generalize x (core, post) st = t
  obtain ⟨⟨_ | a, st'⟩, events⟩ := t <;> rfl

variable (core : ApiCore) (post : Post σ) (st : ClientState σ)

@[simp] theorem outcome_pure (a : α) : (pure a : ClientM σ α).outcome core post st = (.ok a, st) :=
  rfl

@[simp] theorem outcome_throw (e : ProtocolError) :
    (throw e : ClientM σ α).outcome core post st = (.error e, st) := rfl

@[simp] theorem outcome_read :
    (read : ClientM σ (ApiCore × Post σ)).outcome core post st = (.ok (core, post), st) := rfl

@[simp] theorem outcome_get : (get : ClientM σ (ClientState σ)).outcome core post st = (.ok st, st) :=
  rfl

@[simp] theorem outcome_set (st' : ClientState σ) :
    (set st' : ClientM σ PUnit).outcome core post st = (.ok ⟨⟩, st') := rfl

@[simp] theorem outcome_core : (ClientM.core : ClientM σ ApiCore).outcome core post st = (.ok core, st) :=
  rfl

@[simp] theorem outcome_state : (state : ClientM σ SessionState).outcome core post st = (.ok st.session, st) :=
  rfl

@[simp] theorem outcome_setState (s : SessionState) :
    (setState s : ClientM σ Unit).outcome core post st = (.ok (), { st with session := s }) := rfl

@[simp] theorem outcome_ofExcept (r : Except ProtocolError α) :
    (ofExcept r : ClientM σ α).outcome core post st = (r, st) := rfl

@[simp] theorem outcome_ofTraced (x : Traced α) :
    (ofTraced x : ClientM σ α).outcome core post st = (.ok x.value, st) := rfl

@[simp] theorem outcome_ofOutcome (x : Outcome α) :
    (ofOutcome x : ClientM σ α).outcome core post st = (x.result, st) := rfl

@[simp] theorem outcome_session (x : Session α) :
    (session x : ClientM σ α).outcome core post st =
      ((x.outcome st.nextId).1, { st with nextId := (x.outcome st.nextId).2 }) := rfl

theorem outcome_send (m : String) (r : HttpRequest) :
    (send m r : ClientM σ Json.Value).outcome core post st =
      ((post r st.transport).1.bind fun resp => (core.parseResponse m resp).result,
        { st with transport := (post r st.transport).2 }) := by
  rcases h : post r st.transport with ⟨_ | resp, tr⟩ <;>
    simp [send, outcome_bind, h, Except.bind]

theorem outcome_bind_ok {x : ClientM σ α} {f : α → ClientM σ β} {b : β} {st st' : ClientState σ}
    (h : (x >>= f).outcome core post st = (.ok b, st')) :
    ∃ a st₁, x.outcome core post st = (.ok a, st₁) ∧ (f a).outcome core post st₁ = (.ok b, st') := by
  rw [outcome_bind] at h
  rcases hx : x.outcome core post st with ⟨_ | a, st₁⟩
  · simp [hx] at h
  · exact ⟨a, st₁, rfl, by simpa [hx] using h⟩

@[simp] theorem outcome_pure_bind (a : α) (f : α → ClientM σ β) :
    (pure a >>= f).outcome core post st = (f a).outcome core post st := by
  rw [outcome_bind]
  rfl

@[simp] theorem outcome_state_bind (f : SessionState → ClientM σ β) :
    (state >>= f).outcome core post st = (f st.session).outcome core post st := by
  rw [outcome_bind]
  rfl

@[simp] theorem outcome_core_bind (f : ApiCore → ClientM σ β) :
    (ClientM.core >>= f).outcome core post st = (f core).outcome core post st := by
  rw [outcome_bind]
  rfl

@[simp] theorem outcome_ofExcept_bind (r : Except ProtocolError α) (f : α → ClientM σ β) :
    (ofExcept r >>= f).outcome core post st = match r with
      | .ok a => (f a).outcome core post st
      | .error e => (.error e, st) := by
  cases r <;> rfl

@[simp] theorem outcome_ofOutcome_bind (x : Outcome α) (f : α → ClientM σ β) :
    (ofOutcome x >>= f).outcome core post st = match x.result with
      | .ok a => (f a).outcome core post st
      | .error e => (.error e, st) := by
  rw [outcome_bind, outcome_ofOutcome]
  cases x.result <;> rfl

@[simp] theorem outcome_ofTraced_bind (x : Traced α) (f : α → ClientM σ β) :
    (ofTraced x >>= f).outcome core post st = (f x.value).outcome core post st := by
  rw [outcome_bind]
  rfl

theorem outcome_session_bind (x : Session α) (f : α → ClientM σ β) :
    (session x >>= f).outcome core post st = match x.outcome st.nextId with
      | (.ok a, n) => (f a).outcome core post { st with nextId := n }
      | (.error e, n) => (.error e, { st with nextId := n }) := by
  rw [outcome_bind, outcome_session]
  rcases x.outcome st.nextId with ⟨_ | a, n⟩ <;> rfl

end ClientM

def Post.logging {σ : Type} (post : Post σ) : Post (σ × List HttpRequest) :=
  fun r t => ((post r t.1).1, ((post r t.1).2, t.2 ++ [r]))

namespace ClientState

variable {σ : Type}

def log (st : ClientState (σ × List HttpRequest)) : List HttpRequest := st.transport.2

end ClientState

/-- A request posted in session `s` that carries no token, and asks for the version again or
logs in again only for a method `again` allows: the version once it is known, a login once the
session is authenticated. -/
structure HttpRequest.AskedIn (again : String → Prop) (r : HttpRequest) (s : SessionState) :
    Prop where
  tokenless : r.Tokenless
  version : s.version.isSome → r.Calls versionMethod → again versionMethod
  login : s.isAuthenticated → r.Calls loginMethod → again loginMethod

structure Settles {σ : Type} (again : String → Prop) (st st' : ClientState (σ × List HttpRequest)) :
    Prop where
  version : st.session.version.isSome → st'.session.version.isSome
  auth : st.session.isAuthenticated → st'.session.isAuthenticated
  posted : ∃ ps, st'.log = st.log ++ ps ∧ ∀ r ∈ ps, r.AskedIn again st.session

/-- A request for a method that needs no token, posted in `s`, is asked there when it asks for
the version only while it is unknown, or `again` allows it, and likewise for a login. -/
theorem HttpRequest.AskedIn.of_carrying {again : String → Prop} {r : HttpRequest}
    {s : SessionState} {m : String} (hr : r.Carrying m none) (hm : requiresAuth m = false)
    (hv : s.version.isSome → m = versionMethod → again versionMethod)
    (hl : s.isAuthenticated → m = loginMethod → again loginMethod) : r.AskedIn again s :=
  ⟨⟨m, hm, hr⟩, fun h hc => hv h (HttpRequest.calls_unique hr.calls hc),
    fun h hc => hl h (HttpRequest.calls_unique hr.calls hc)⟩

theorem SessionState.isAuthenticated_congr {s s' : SessionState} (h : s.auth = s'.auth) :
    s.isAuthenticated = s'.isAuthenticated := by
  obtain ⟨v, a⟩ := s
  obtain ⟨v', a'⟩ := s'
  subst h
  cases a <;> rfl

@[simp] theorem SessionState.isAuthenticated_setVersion (s : SessionState) (v : Option ApiVersion) :
    { s with version := v }.isAuthenticated = s.isAuthenticated :=
  isAuthenticated_congr rfl

namespace Settles

variable {σ : Type} {again : String → Prop} {st st₁ st₂ : ClientState (σ × List HttpRequest)}

theorem of_authenticate {t : Secret} {source : TokenSource}
    (hs : st₁.session = { st.session with auth := .authenticated t source })
    (hl : st₁.log = st.log) : Settles again st st₁ :=
  ⟨by simp [hs], fun _ => by simp [hs, SessionState.isAuthenticated, SessionState.token],
    ⟨[], by simp [hl], by simp⟩⟩

theorem of_version {v : ApiVersion} (hs : st₁.session = { st.session with version := some v })
    (hl : st₁.log = st.log) : Settles again st st₁ :=
  ⟨by simp [hs], fun h => by simpa [hs] using h, ⟨[], by simp [hl], by simp⟩⟩

theorem of_frame (hs : st₁.session = st.session) (hl : st₁.log = st.log) :
    Settles again st st₁ :=
  ⟨by simp [hs], by simp [hs], ⟨[], by simp [hl], by simp⟩⟩

theorem trans (h₁ : Settles again st st₁) (h₂ : Settles again st₁ st₂) : Settles again st st₂ := by
  obtain ⟨ps₁, hl₁, hp₁⟩ := h₁.posted
  obtain ⟨ps₂, hl₂, hp₂⟩ := h₂.posted
  refine ⟨fun h => h₂.version (h₁.version h), fun h => h₂.auth (h₁.auth h),
    ps₁ ++ ps₂, by simp [hl₂, hl₁], ?_⟩
  intro r hr
  rcases List.mem_append.mp hr with hr | hr
  · exact hp₁ r hr
  · obtain ⟨ht, hv, ha⟩ := hp₂ r hr
    exact ⟨ht, fun h => hv (h₁.version h), fun h => ha (h₁.auth h)⟩

theorem of_acceptLogin {core : ApiCore} {res : Json.Value} {s' : SessionState}
    (h : (core.acceptLogin st.session res).result = .ok s') :
    Settles again st { st with session := s' } := by
  obtain ⟨t, rfl⟩ := ApiCore.acceptLogin_ok h
  exact of_authenticate rfl rfl

theorem of_adoptVersion {core : ApiCore} {v w : ApiVersion} {s' : SessionState}
    (h : (core.adoptVersion st.session v).result = .ok (s', w)) :
    Settles again st { st with session := s' } := by
  obtain ⟨rfl, -, -⟩ := ApiCore.adoptVersion_ok h
  exact of_version rfl rfl

theorem mono {again' : String → Prop} (h : Settles again st st₁)
    (hm : ∀ m, again m → again' m) : Settles again' st st₁ := by
  obtain ⟨ps, hl, hp⟩ := h.posted
  refine ⟨h.version, h.auth, ps, hl, fun r hr => ?_⟩
  obtain ⟨ht, hv, ha⟩ := hp r hr
  exact ⟨ht, fun h c => hm _ (hv h c), fun h c => hm _ (ha h c)⟩

end Settles

namespace ClientM

variable {σ α β : Type} (core : ApiCore) {again : String → Prop}

theorem settles_bind {post : Post (σ × List HttpRequest)} {x : ClientM (σ × List HttpRequest) α}
    {f : α → ClientM (σ × List HttpRequest) β} {st : ClientState (σ × List HttpRequest)}
    (hx : Settles again st (x.outcome core post st).2)
    (hf : ∀ a st₁, x.outcome core post st = (.ok a, st₁) →
      Settles again st₁ ((f a).outcome core post st₁).2) :
    Settles again st ((x >>= f).outcome core post st).2 := by
  rw [outcome_bind]
  rcases h : x.outcome core post st with ⟨_ | a, st₁⟩
  · simpa [h] using hx
  · rw [h] at hx
    exact hx.trans (hf a st₁ h)

theorem settles_adopt {post : Post (σ × List HttpRequest)} (v : ApiVersion)
    (st : ClientState (σ × List HttpRequest)) :
    Settles again st ((adopt v).outcome core post st).2 := by
  unfold adopt
  simp only [outcome_core_bind, outcome_state_bind, outcome_ofOutcome_bind]
  rcases h : (core.adoptVersion st.session v).result with e | ⟨s, w⟩
  · exact Settles.of_frame rfl rfl
  · simp only [outcome_bind, outcome_setState, outcome_pure]
    exact Settles.of_adoptVersion h

variable (post : Post σ)

theorem outcome_send_logging (m : String) (r : HttpRequest) (st : ClientState (σ × List HttpRequest)) :
    ((send m r).outcome core post.logging st).2 =
      { st with transport := ((post r st.transport.1).2, st.log ++ [r]) } := by
  simp [outcome_send, Post.logging, ClientState.log]

theorem settles_send {m : String} {r : HttpRequest} {st : ClientState (σ × List HttpRequest)}
    (hr : r.AskedIn again st.session) : Settles again st ((send m r).outcome core post.logging st).2 := by
  rw [outcome_send_logging]
  exact ⟨id, id, [r], rfl, by simpa using hr⟩

theorem settles_refreshVersion (hcore : core.BasicOnly) (st : ClientState (σ × List HttpRequest))
    (hagain : st.session.version.isSome → again versionMethod) :
    Settles again st (refreshVersion.outcome core post.logging st).2 := by
  unfold refreshVersion
  simp only [outcome_core_bind, outcome_session_bind]
  rcases hr : core.versionRequest.outcome st.nextId with ⟨_ | r, n⟩
  · exact Settles.of_frame rfl rfl
  · have hasked : r.AskedIn again st.session :=
      .of_carrying (ApiCore.carrying_of_versionRequest hcore hr)
        (requiresAuth_eq_false_iff.2 (by simp [unauthMethods]))
        (fun h _ => hagain h) (fun _ h => absurd h (by decide))
    dsimp only
    have hid : Settles again st { st with nextId := n } := Settles.of_frame rfl rfl
    refine hid.trans (settles_bind core (settles_send core post hasked) fun res st₁ _ => ?_)
    simp only [outcome_ofExcept_bind]
    split
    · exact settles_adopt core _ st₁
    · exact Settles.of_frame rfl rfl

theorem settles_ensureVersion (hcore : core.BasicOnly) (st : ClientState (σ × List HttpRequest)) :
    Settles again st (ensureVersion.outcome core post.logging st).2 := by
  unfold ensureVersion
  simp only [outcome_state_bind]
  cases hv : st.session.version with
  | some v => exact Settles.of_frame rfl rfl
  | none =>
    rcases ha : core.assumedVersion with _ | v
    · -- no version is known or assumed: detect it as `refreshVersion` does
      rw [outcome_core_bind]
      simp only [ha]
      exact settles_refreshVersion core post hcore st (fun h => by simp [hv] at h)
    · simpa [ha] using settles_adopt core v st

theorem settles_ensureLogin (hcore : core.BasicOnly) (v : ApiVersion)
    (st : ClientState (σ × List HttpRequest)) :
    Settles again st ((ensureLogin v).outcome core post.logging st).2 := by
  unfold ensureLogin
  simp only [outcome_core_bind, outcome_state_bind, outcome_session_bind]
  rcases hp : (core.pendingLogin st.session v).outcome st.nextId with ⟨_ | _ | r, n⟩
  · exact Settles.of_frame rfl rfl
  · exact Settles.of_frame rfl rfl
  · -- a login is pending only in a session that is not authenticated
    have hna : st.session.isAuthenticated = false := by
      cases h : st.session.isAuthenticated
      · rfl
      · rw [ApiCore.outcome_pendingLogin_authenticated h] at hp
        cases hp
    have hasked : r.AskedIn again st.session :=
      .of_carrying (ApiCore.carrying_of_pendingLogin hcore hp)
        (requiresAuth_eq_false_iff.2 (by simp [unauthMethods]))
        (fun _ h => absurd h (by decide)) (fun h => by simp [hna] at h)
    dsimp only
    have hid : Settles again st { st with nextId := n } := Settles.of_frame rfl rfl
    refine hid.trans (settles_bind core (settles_send core post hasked) fun res st₁ _ => ?_)
    simp only [outcome_core_bind, outcome_state_bind, outcome_ofOutcome_bind]
    rcases ha : (core.acceptLogin st₁.session res).result with e | s'
    · exact Settles.of_frame rfl rfl
    · simp only [outcome_setState]
      exact Settles.of_acceptLogin ha

theorem settles_map {post : Post (σ × List HttpRequest)} (f : α → β)
    {x : ClientM (σ × List HttpRequest) α} {st : ClientState (σ × List HttpRequest)}
    (hx : Settles again st (x.outcome core post st).2) :
    Settles again st ((f <$> x).outcome core post st).2 := by
  rwa [outcome_map]

theorem settles_callVersion (hcore : core.BasicOnly) (m : String)
    (st : ClientState (σ × List HttpRequest)) :
    Settles again st ((callVersion m).outcome core post.logging st).2 := by
  unfold callVersion
  split
  · exact Settles.of_frame rfl rfl
  · exact settles_map core _ (settles_ensureVersion core post hcore st)

theorem settles_loginFor (hcore : core.BasicOnly) (m : String) (version : Option ApiVersion)
    (st : ClientState (σ × List HttpRequest)) :
    Settles again st ((loginFor m version).outcome core post.logging st).2 := by
  cases version with
  | none => exact Settles.of_frame rfl rfl
  | some v =>
    simp only [loginFor]
    split
    · exact settles_ensureLogin core post hcore v st
    · exact Settles.of_frame rfl rfl

theorem outcome_buildCall {post : Post σ} (m : String) (p : Json.Value)
    (version : Option ApiVersion) (st : ClientState σ) :
    (buildCall m p version).outcome core post st =
      (((core.buildRequest m p version st.session.token).outcome st.nextId).1,
        { st with nextId := ((core.buildRequest m p version st.session.token).outcome st.nextId).2 }) := by
  simp only [buildCall, outcome_state_bind, outcome_core_bind, outcome_session]

theorem settles_prepareCall (hcore : core.BasicOnly) (m : String) (p : Json.Value)
    (st : ClientState (σ × List HttpRequest)) :
    Settles again st ((prepareCall m p).outcome core post.logging st).2 := by
  unfold prepareCall
  refine settles_bind core (settles_callVersion core post hcore m st) fun version st₁ _ => ?_
  refine settles_bind core (settles_loginFor core post hcore m version st₁) fun _ st₂ _ => ?_
  rw [outcome_buildCall]
  exact Settles.of_frame rfl rfl

theorem carrying_of_prepareCall (hcore : core.BasicOnly) {post : Post σ} {m : String}
    {p : Json.Value} {st st' : ClientState σ} {r : HttpRequest}
    (h : (prepareCall m p).outcome core post st = (.ok r, st')) :
    r.Carrying m (st'.session.tokenFor m) := by
  obtain ⟨version, st₁, -, h⟩ := outcome_bind_ok core post h
  obtain ⟨_, st₂, -, h⟩ := outcome_bind_ok core post h
  rw [outcome_buildCall, Prod.mk.injEq] at h
  obtain ⟨hr, rfl⟩ := h
  exact ApiCore.carrying_of_buildRequest hcore (Prod.ext hr rfl)

theorem settles_startSession (hcore : core.BasicOnly) (user : String) (password : Secret)
    (st : ClientState (σ × List HttpRequest)) :
    Settles (· = loginMethod) st ((startSession user password).outcome core post.logging st).2 := by
  unfold startSession
  refine settles_bind core (settles_ensureVersion core post hcore st) fun v st₁ _ => ?_
  simp only [outcome_core_bind, outcome_session_bind]
  rcases hr : (core.loginRequest v user password).outcome st₁.nextId with ⟨_ | r, n⟩
  · exact Settles.of_frame rfl rfl
  · have hasked : r.AskedIn (· = loginMethod) st₁.session :=
      .of_carrying (ApiCore.carrying_of_loginRequest hcore hr)
        (requiresAuth_eq_false_iff.2 (by simp [unauthMethods]))
        (fun _ h => absurd h (by decide)) (fun _ _ => rfl)
    dsimp only
    have hid : Settles (· = loginMethod) st₁ { st₁ with nextId := n } := Settles.of_frame rfl rfl
    refine hid.trans (settles_bind core (settles_send core post hasked) fun res st₂ _ => ?_)
    simp only [outcome_core_bind, outcome_state_bind, outcome_ofOutcome_bind]
    rcases ha : (core.acceptLogin st₂.session res).result with e | s'
    · exact Settles.of_frame rfl rfl
    · simp only [outcome_bind, outcome_setState, outcome_pure]
      exact Settles.of_acceptLogin ha

theorem settles_login (hcore : core.BasicOnly) (user : String) (password : Secret)
    (st : ClientState (σ × List HttpRequest)) :
    Settles (· = loginMethod) st ((login user password).outcome core post.logging st).2 :=
  settles_bind core (settles_startSession core post hcore user password st)
    fun _ _ _ => Settles.of_frame rfl rfl

theorem settles_ensureAuthenticated (hcore : core.BasicOnly)
    (st : ClientState (σ × List HttpRequest)) :
    Settles again st (ensureAuthenticated.outcome core post.logging st).2 :=
  settles_bind core (settles_ensureVersion core post hcore st)
    fun v st₁ _ => settles_ensureLogin core post hcore v st₁

theorem settles_loginWithToken (hcore : core.BasicOnly) (token : Secret)
    (st : ClientState (σ × List HttpRequest)) :
    Settles again st ((loginWithToken token).outcome core post.logging st).2 := by
  unfold loginWithToken
  refine settles_bind core (settles_ensureVersion core post hcore st) fun _ st₁ _ => ?_
  simp only [outcome_state_bind, outcome_ofExcept_bind]
  rcases ha : ApiCore.acceptToken st₁.session token with e | s'
  · exact Settles.of_frame rfl rfl
  · obtain ⟨rfl, -⟩ := ApiCore.acceptToken_ok ha
    simp only [outcome_setState]
    exact Settles.of_authenticate rfl rfl

theorem logout_posts (hcore : core.BasicOnly) (st : ClientState (σ × List HttpRequest)) :
    (logout.outcome core post.logging st).2.session.version = st.session.version ∧
      ∃ ps, (logout.outcome core post.logging st).2.log = st.log ++ ps ∧
        ∀ r ∈ ps, r.Carrying logoutMethod (st.session.tokenFor logoutMethod) := by
  unfold logout
  simp only [outcome_core_bind, outcome_state_bind, outcome_session_bind]
  rcases hs : (core.logoutStep st.session).outcome st.nextId with ⟨_ | _ | _ | r, n⟩
  · exact ⟨rfl, [], by simp [ClientState.log]⟩
  · exact ⟨rfl, [], by simp [ClientState.log]⟩
  · exact ⟨rfl, [], by simp [ClientState.log]⟩
  · -- a login session: its `user.logout` request is posted, then the session forgotten
    have hr := ApiCore.carrying_of_logoutStep hcore hs
    dsimp only
    rw [outcome_bind, outcome_send]
    split
    · next h =>
      obtain ⟨-, rfl⟩ := Prod.mk.inj h
      simp only [outcome_core_bind, outcome_state_bind, outcome_ofTraced_bind, outcome_setState,
        ApiCore.finishLogout_value]
      exact ⟨trivial, [r], rfl, by simpa using hr⟩
    · next h =>
      obtain ⟨-, rfl⟩ := Prod.mk.inj h
      exact ⟨rfl, [r], rfl, by simpa using hr⟩

theorem settles_call_login (hcore : core.BasicOnly) (p : Json.Value)
    (st : ClientState (σ × List HttpRequest)) :
    Settles (· = loginMethod) st ((call loginMethod p).outcome core post.logging st).2 := by
  unfold call
  simp only [beq_self_eq_true, if_true, outcome_ofExcept_bind]
  split
  · next credentials _ => exact settles_startSession core post hcore credentials.1 credentials.2 st
  · exact Settles.of_frame rfl rfl

theorem call_logout_state {post : Post σ} (p : Json.Value) (st : ClientState σ) :
    ((call logoutMethod p).outcome core post st).2 = (logout.outcome core post st).2 := by
  unfold call
  simp only [show (logoutMethod == loginMethod) = false by decide, beq_self_eq_true,
    Bool.false_eq_true, if_false, if_true, outcome_bind]
  split <;> simp_all

theorem outcome_call {post : Post σ} {m : String} (hlogin : m ≠ loginMethod)
    (hlogout : m ≠ logoutMethod) (p : Json.Value) (st : ClientState σ) :
    (call m p).outcome core post st = (prepareCall m p >>= send m).outcome core post st := by
  unfold call
  simp [hlogin, hlogout]

end ClientM

end Api

end MonitorWire
