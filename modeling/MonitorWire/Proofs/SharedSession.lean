import Mathlib
import MonitorWire.Proofs.ClientRuns

namespace MonitorWire

namespace Api

inductive ClientOp where
  | call (method : String) (params : Json.Value)
  | version
  | refreshVersion
  | login (user : String) (password : Secret)
  | ensureAuthenticated
  | loginWithToken (token : Secret)
  | logout
  | checkAuth

namespace ClientOp

open ClientM

variable {σ : Type}

def run : ClientOp → ClientM σ Unit
  | .call m p => (fun _ => ()) <$> ClientM.call m p
  | .version => (fun _ => ()) <$> ensureVersion
  | .refreshVersion => (fun _ => ()) <$> ClientM.refreshVersion
  | .login user password => ClientM.login user password
  | .ensureAuthenticated => ClientM.ensureAuthenticated
  | .loginWithToken token => ClientM.loginWithToken token
  | .logout => ClientM.logout
  | .checkAuth => (fun _ => ()) <$> ClientM.checkAuth

/-- The part of the operation made holding the session's guard, with the request it leaves to
post after letting go of the guard (and the method the request calls), if any. A call of any
method but `user.login` and `user.logout` and a check of the session leave their request; the
other operations run whole. -/
def guarded : ClientOp → ClientM σ (Option (String × HttpRequest))
  | .call m p =>
    if m == loginMethod || m == logoutMethod then (fun _ => none) <$> ClientM.call m p
    else (fun r => some (m, r)) <$> prepareCall m p
  | .version => (fun _ => none) <$> ensureVersion
  | .refreshVersion => (fun _ => none) <$> ClientM.refreshVersion
  | .login user password => (fun _ => none) <$> ClientM.login user password
  | .ensureAuthenticated => (fun _ => none) <$> ClientM.ensureAuthenticated
  | .loginWithToken token => (fun _ => none) <$> ClientM.loginWithToken token
  | .logout => (fun _ => none) <$> ClientM.logout
  | .checkAuth => do
    let request ← session ((← core).checkAuthRequest (← state))
    return request.map (checkAuthMethod, ·)

def release : Option (String × HttpRequest) → ClientM σ Unit
  | some (m, r) => (fun _ => ()) <$> send m r
  | none => pure ()

def asksAnyway : ClientOp → String → Prop
  | .refreshVersion, m => m = versionMethod
  | .login _ _, m => m = loginMethod
  | .call m' _, m => m' = loginMethod ∧ m = loginMethod
  | _, _ => False

end ClientOp

structure InFlight where
  op : ClientOp
  method : String
  request : HttpRequest
  builtIn : SessionState

structure Shared (σ : Type) where
  client : ClientState (σ × List HttpRequest)
  inFlight : List InFlight

inductive Step where
  | begin (op : ClientOp)
  | finish (i : Nat)

namespace Shared

variable {σ : Type} (core : ApiCore) (post : Post σ)

def start (transport : σ) : Shared σ := ⟨ClientState.start core (transport, []), []⟩

def step (sh : Shared σ) : Step → Shared σ
  | .begin op =>
    match op.guarded.outcome core post.logging sh.client with
    | (.ok (some (m, r)), client) => ⟨client, sh.inFlight ++ [⟨op, m, r, client.session⟩]⟩
    | (_, client) => ⟨client, sh.inFlight⟩
  | .finish i =>
    match sh.inFlight[i]? with
    | some e =>
      ⟨((ClientOp.release (some (e.method, e.request))).outcome core post.logging sh.client).2,
        sh.inFlight.eraseIdx i⟩
    | none => sh

def run (sh : Shared σ) (steps : List Step) : Shared σ := steps.foldl (step core post) sh

def origin (sh : Shared σ) : Step → Option ClientOp
  | .begin op => some op
  | .finish i => sh.inFlight[i]?.map (·.op)

def builtIn (sh : Shared σ) : Step → SessionState
  | .begin _ => sh.client.session
  | .finish i => (sh.inFlight[i]?.map (·.builtIn)).getD sh.client.session

/-- What a step from `sh` to `sh'` keeps: a known version stays known, and each request it posts
carries the token of the session it was built in when its method needs one (and none
otherwise), asks for a known version only for `refreshVersion` or a call of `apiinfo.version`,
and logs in an authenticated session only for `login` or a call of `user.login`. -/
structure StepOk (sh : Shared σ) (step : Step) (sh' : Shared σ) : Prop where
  version_kept : sh.client.session.version.isSome → sh'.client.session.version.isSome
  posted : ∃ ps, sh'.client.log = sh.client.log ++ ps ∧ ∀ r ∈ ps,
    (∃ m, r.Carrying m ((sh.builtIn step).tokenFor m)) ∧
    (sh.client.session.version.isSome → r.Calls versionMethod →
      sh.origin step = some .refreshVersion ∨ ∃ p, sh.origin step = some (.call versionMethod p)) ∧
    (sh.client.session.isAuthenticated → r.Calls loginMethod →
      (∃ user password, sh.origin step = some (.login user password)) ∨
        ∃ p, sh.origin step = some (.call loginMethod p))

end Shared

namespace ClientM

variable {σ α β γ : Type} (core : ApiCore) (post : Post σ)

theorem outcome_of_map_ok {f : α → β} (hf : Function.Injective f) {x : ClientM σ α} {a : α}
    {st st' : ClientState σ} (h : (f <$> x).outcome core post st = (.ok (f a), st')) :
    x.outcome core post st = (.ok a, st') := by
  rw [outcome_map] at h
  rcases hx : x.outcome core post st with ⟨_ | b, st₁⟩
  · simp [hx, Except.map] at h
  · simp only [hx, Except.map, Prod.mk.injEq, Except.ok.injEq] at h
    rw [hf h.1, h.2]

theorem outcome_map_none {x : ClientM σ α} {st st' : ClientState σ} {mr : String × HttpRequest} :
    ((fun _ => none) <$> x).outcome core post st ≠ (.ok (some mr), st') := by
  rw [outcome_map]
  rcases x.outcome core post st with ⟨_ | b, st₁⟩ <;> simp [Except.map]

theorem outcome_map_bind (f : α → β) (g : β → ClientM σ γ) (x : ClientM σ α)
    (st : ClientState σ) :
    ((f <$> x) >>= g).outcome core post st = (x >>= fun a => g (f a)).outcome core post st := by
  rw [outcome_bind, outcome_bind, outcome_map]
  rcases x.outcome core post st with ⟨_ | a, st₁⟩ <;> rfl

theorem outcome_map_bind' (f : β → γ) (x : ClientM σ α) (g : α → ClientM σ β)
    (st : ClientState σ) :
    (f <$> (x >>= g)).outcome core post st = (x >>= fun a => f <$> g a).outcome core post st := by
  rw [outcome_map, outcome_bind, outcome_bind]
  rcases x.outcome core post st with ⟨_ | a, st₁⟩
  · rfl
  · simp only [outcome_map]

theorem outcome_map_unit (x : ClientM σ Unit) (st : ClientState σ) :
    ((fun _ => ()) <$> x).outcome core post st = x.outcome core post st := by
  rw [outcome_map]
  rcases x.outcome core post st with ⟨_ | ⟨⟩, st₁⟩ <;> rfl

end ClientM

namespace ClientOp

open ClientM

variable {σ : Type} (core : ApiCore) (post : Post σ)

theorem none_bind_release (x : ClientM σ α) (st : ClientState σ) :
    ((fun _ => none) <$> x >>= release).outcome core post st =
      ((fun _ => ()) <$> x).outcome core post st := by
  rw [outcome_map_bind, outcome_bind, outcome_map]
  rcases x.outcome core post st with ⟨_ | a, st₁⟩ <;> rfl

theorem guarded_bind_release (op : ClientOp) (st : ClientState σ) :
    (op.guarded >>= release).outcome core post st = op.run.outcome core post st := by
  cases op with
  | call m p =>
    by_cases hc : (m == loginMethod || m == logoutMethod) = true
    · simp only [guarded, run, hc, if_true]
      exact none_bind_release core post _ st
    · -- the call's prepared request is posted after
      have hlogin : m ≠ loginMethod := fun h => hc (by simp [h])
      have hlogout : m ≠ logoutMethod := fun h => hc (by simp [h])
      simp only [guarded, run, hc, Bool.false_eq_true, if_false]
      rw [outcome_map_bind, outcome_map, outcome_call core hlogin hlogout, ← outcome_map,
        outcome_map_bind']
      rfl
  | version => exact none_bind_release core post _ st
  | refreshVersion => exact none_bind_release core post _ st
  | login _ _ | ensureAuthenticated | loginWithToken _ | logout =>
    exact (none_bind_release core post _ st).trans (outcome_map_unit core post _ st)
  | checkAuth =>
    simp only [guarded, run, ClientM.checkAuth]
    rw [outcome_bind, outcome_map]
    simp only [outcome_core_bind, outcome_state_bind, outcome_session_bind]
    rcases (core.checkAuthRequest st.session).outcome st.nextId with ⟨_ | _ | r, n⟩
    · rfl
    · simp [release, Except.map]
    · -- the check's request is posted after
      simp only [outcome_pure, Option.map, release]
      rw [outcome_map, outcome_bind]
      rcases (send checkAuthMethod r).outcome core post { st with nextId := n } with
        ⟨_ | result, st₁⟩ <;> rfl

/-- The guarded part of an operation that does not log out settles the session, asking for the
version or a login whatever the session holds only where the operation does. -/
theorem settles_guarded (hcore : core.BasicOnly) (op : ClientOp) (hlogout : op ≠ .logout)
    (hcall : ∀ p, op ≠ .call logoutMethod p) (st : ClientState (σ × List HttpRequest)) :
    Settles op.asksAnyway st (op.guarded.outcome core post.logging st).2 := by
  cases op with
  | call m p =>
    by_cases hm : m = loginMethod
    · subst hm
      have h := settles_call_login core post hcore p st
      simp only [guarded, beq_self_eq_true, Bool.true_or, if_true]
      exact settles_map core _ (h.mono fun m hm => ⟨rfl, hm⟩)
    · have hm' : m ≠ logoutMethod := fun h => hcall p (by rw [h])
      have hc : (m == loginMethod || m == logoutMethod) = false := by simp [hm, hm']
      simp only [guarded, hc, Bool.false_eq_true, if_false]
      exact settles_map core _ (settles_prepareCall core post hcore m p st)
  | version => exact settles_map core _ (settles_ensureVersion core post hcore st)
  | refreshVersion =>
    exact settles_map core _ (settles_refreshVersion core post hcore st fun _ => rfl)
  | login user password =>
    exact settles_map core _ (settles_login core post hcore user password st)
  | ensureAuthenticated => exact settles_map core _ (settles_ensureAuthenticated core post hcore st)
  | loginWithToken token =>
    exact settles_map core _ (settles_loginWithToken core post hcore token st)
  | logout => exact absurd rfl hlogout
  | checkAuth =>
    -- a check of the session only builds its request while holding the guard
    simp only [guarded, outcome_core_bind, outcome_state_bind, outcome_session_bind]
    split <;> exact Settles.of_frame rfl rfl

theorem inFlight_of_guarded (hcore : core.BasicOnly) {op : ClientOp}
    {st st' : ClientState (σ × List HttpRequest)} {m : String} {r : HttpRequest}
    (h : op.guarded.outcome core post.logging st = (.ok (some (m, r)), st')) :
    r.Carrying m (st'.session.tokenFor m) ∧
      ((∃ p, op = .call m p ∧ m ≠ loginMethod) ∨ (op = .checkAuth ∧ m = checkAuthMethod)) := by
  cases op with
  | call m' p =>
    simp only [guarded] at h
    split at h
    · exact absurd h (outcome_map_none core _)
    · next hc =>
      -- the request left in flight is the one the call prepared, for its own method
      rcases hp : (prepareCall m' p).outcome core post.logging st with ⟨_ | r', st₁⟩
      · simp [outcome_map, hp, Except.map] at h
      · simp only [outcome_map, hp, Except.map, Prod.mk.injEq, Except.ok.injEq,
          Option.some.injEq] at h
        obtain ⟨⟨rfl, rfl⟩, rfl⟩ := h
        refine ⟨carrying_of_prepareCall core hcore hp, .inl ⟨p, rfl, fun hl => hc ?_⟩⟩
        simp [hl]
  | checkAuth =>
    simp only [guarded, outcome_core_bind, outcome_state_bind, outcome_session_bind] at h
    rcases hq : (core.checkAuthRequest st.session).outcome st.nextId with ⟨_ | _ | q, n⟩ <;>
      simp only [hq, outcome_pure, Option.map, Prod.mk.injEq, Except.ok.injEq, reduceCtorEq,
        Option.some.injEq, false_and] at h
    obtain ⟨⟨rfl, rfl⟩, rfl⟩ := h
    refine ⟨?_, .inr ⟨rfl, rfl⟩⟩
    have hfree : requiresAuth checkAuthMethod = false :=
      requiresAuth_eq_false_iff.2 (by simp [unauthMethods])
    simpa [SessionState.tokenFor, hfree] using ApiCore.carrying_of_checkAuthRequest hcore hq
  | version | refreshVersion | login _ _ | ensureAuthenticated | loginWithToken _ | logout =>
    exact absurd h (outcome_map_none core _)

end ClientOp

structure InFlight.Ok (e : InFlight) : Prop where
  carrying : e.request.Carrying e.method (e.builtIn.tokenFor e.method)
  op : (∃ p, e.op = .call e.method p ∧ e.method ≠ loginMethod) ∨
    (e.op = .checkAuth ∧ e.method = checkAuthMethod)

namespace Shared

open ClientM

variable {σ : Type} (core : ApiCore) (post : Post σ)

theorem client_step_begin (sh : Shared σ) (op : ClientOp) :
    (sh.step core post (.begin op)).client = (op.guarded.outcome core post.logging sh.client).2 := by
  simp only [step]
  rcases op.guarded.outcome core post.logging sh.client with ⟨_ | _ | ⟨m, r⟩, client⟩ <;> rfl

theorem stepOk_of_settles {sh sh' : Shared σ} {op : ClientOp}
    (h : Settles op.asksAnyway sh.client sh'.client) : StepOk sh (.begin op) sh' := by
  obtain ⟨ps, hl, hp⟩ := h.posted
  refine ⟨h.version, ps, hl, fun r hr => ?_⟩
  obtain ⟨ht, hv, ha⟩ := hp r hr
  refine ⟨ht.carrying _, fun hs hc => ?_, fun hs hc => ?_⟩
  · -- the version, asked anyway: only `refreshVersion` does
    have hask := hv hs hc
    cases op with
    | refreshVersion => exact .inl rfl
    | login _ _ => exact absurd (show versionMethod = loginMethod from hask) (by decide)
    | call _ _ => exact absurd (show versionMethod = loginMethod from hask.2) (by decide)
    | version | ensureAuthenticated | loginWithToken _ | logout | checkAuth => exact hask.elim
  · -- a login, asked anyway: only `login` and a call of `user.login` do
    have hask := ha hs hc
    cases op with
    | login user password => exact .inl ⟨user, password, rfl⟩
    | call m p =>
      obtain ⟨rfl, -⟩ := hask
      exact .inr ⟨p, rfl⟩
    | refreshVersion => exact absurd (show loginMethod = versionMethod from hask) (by decide)
    | version | ensureAuthenticated | loginWithToken _ | logout | checkAuth => exact hask.elim

theorem stepOk_begin (hcore : core.BasicOnly) (sh : Shared σ) (op : ClientOp) :
    StepOk sh (.begin op) (sh.step core post (.begin op)) := by
  have hclient := client_step_begin core post sh op
  by_cases hlogout : op = .logout ∨ ∃ p, op = .call logoutMethod p
  · -- logging out posts only `user.logout`, with the token of the session it ends
    have hstate : (op.guarded.outcome core post.logging sh.client).2 =
        (logout.outcome core post.logging sh.client).2 := by
      rcases hlogout with rfl | ⟨p, rfl⟩
      · simp only [ClientOp.guarded, outcome_map]
      · simp [ClientOp.guarded, outcome_map, call_logout_state]
    obtain ⟨hv, ps, hl, hp⟩ := logout_posts core post hcore sh.client
    rw [← hstate, ← hclient] at hv hl
    refine ⟨fun h => by rwa [hv], ps, hl, fun r hr => ⟨⟨_, hp r hr⟩, fun _ hc => ?_, fun _ hc => ?_⟩⟩
    · exact absurd (HttpRequest.calls_unique (hp r hr).calls hc) (by decide)
    · exact absurd (HttpRequest.calls_unique (hp r hr).calls hc) (by decide)
  · have hs := ClientOp.settles_guarded core post hcore op (fun h => hlogout (.inl h))
      (fun p h => hlogout (.inr ⟨p, h⟩)) sh.client
    rw [← hclient] at hs
    exact stepOk_of_settles hs

theorem stepOk_finish {sh : Shared σ} (hinv : ∀ e ∈ sh.inFlight, e.Ok) (i : Nat) :
    StepOk sh (.finish i) (sh.step core post (.finish i)) := by
  cases he : sh.inFlight[i]? with
  | none =>
    simp only [step, he]
    exact ⟨id, [], by simp, by simp⟩
  | some e =>
    have hok := hinv e (List.mem_of_getElem? he)
    have horigin : sh.origin (.finish i) = some e.op := by simp [origin, he]
    have hbuilt : sh.builtIn (.finish i) = e.builtIn := by simp [builtIn, he]
    simp only [step, he, ClientOp.release, outcome_map, outcome_send_logging]
    refine ⟨id, [e.request], rfl, fun r hr => ?_⟩
    rw [List.mem_singleton] at hr
    subst hr
    rw [horigin, hbuilt]
    refine ⟨⟨e.method, hok.carrying⟩, fun _ hc => ?_, fun _ hc => ?_⟩
    · -- a request for the version in flight is a call of `apiinfo.version`
      have hm := HttpRequest.calls_unique hok.carrying.calls hc
      rcases hok.op with ⟨p, hop, -⟩ | ⟨-, hcheck⟩
      · exact .inr ⟨p, by rw [hop, hm]⟩
      · exact absurd (hcheck.symm.trans hm) (by decide)
    · -- no login is ever in flight
      have hm := HttpRequest.calls_unique hok.carrying.calls hc
      rcases hok.op with ⟨p, -, hne⟩ | ⟨-, hcheck⟩
      · exact absurd hm hne
      · exact absurd (hcheck.symm.trans hm) (by decide)

theorem step_begin_finish {sh : Shared σ} (hidle : sh.inFlight = []) (op : ClientOp) :
    ((sh.step core post (.begin op)).step core post (.finish 0)).client =
      (op.run.outcome core post.logging sh.client).2 := by
  rw [← ClientOp.guarded_bind_release, outcome_bind]
  simp only [step, hidle]
  rcases op.guarded.outcome core post.logging sh.client with ⟨_ | _ | ⟨m, r⟩, client⟩ <;> rfl

theorem run_append_singleton (sh : Shared σ) (steps : List Step) (s : Step) :
    sh.run core post (steps ++ [s]) = (sh.run core post steps).step core post s := by
  simp [run, List.foldl_append]

theorem stepOk_step (hcore : core.BasicOnly) {sh : Shared σ} (hinv : ∀ e ∈ sh.inFlight, e.Ok)
    (s : Step) : StepOk sh s (sh.step core post s) := by
  cases s with
  | begin op => exact stepOk_begin core post hcore sh op
  | finish i => exact stepOk_finish core post hinv i

theorem inFlight_step (hcore : core.BasicOnly) {sh : Shared σ} (hinv : ∀ e ∈ sh.inFlight, e.Ok)
    (s : Step) : ∀ e ∈ (sh.step core post s).inFlight, e.Ok := by
  cases s with
  | begin op =>
    simp only [step]
    split
    · next m r client h =>
      intro e he
      rcases List.mem_append.mp he with he | he
      · exact hinv e he
      · rw [List.mem_singleton] at he
        subst he
        obtain ⟨hc, hop⟩ := ClientOp.inFlight_of_guarded core post hcore h
        exact ⟨hc, hop⟩
    · exact hinv
  | finish i =>
    simp only [step]
    split
    · exact fun e he => hinv e (List.mem_of_mem_eraseIdx he)
    · exact hinv

theorem inFlight_run (hcore : core.BasicOnly) (steps : List Step) :
    ∀ sh : Shared σ, (∀ e ∈ sh.inFlight, e.Ok) → ∀ e ∈ (sh.run core post steps).inFlight, e.Ok := by
  induction steps with
  | nil => exact fun _ hinv => hinv
  | cons s steps ih => exact fun sh hinv => ih _ (inFlight_step core post hcore hinv s)

/-- Callers sharing a client, over any transport and in any interleaving of their steps: every
step keeps a known version known, asks for a known version only for `refreshVersion` or a call
of `apiinfo.version`, logs in an authenticated session only for `login` or a call of
`user.login`, and posts requests that carry exactly the token of the session they were built in
when their method needs one, and no token otherwise. -/
theorem shared_client_settles (core : ApiCore) (hcore : core.BasicOnly) (post : Post σ)
    (transport : σ) (steps : List Step) (step : Step) :
    StepOk ((start core transport).run core post steps) step
      ((start core transport).run core post (steps ++ [step])) := by
  have hinv := inFlight_run core post hcore steps (start core transport) (by simp [start])
  rw [run_append_singleton]
  exact stepOk_step core post hcore hinv step

theorem shared_client_settles_interleaved :
    let core : ApiCore := ⟨"http://127.0.0.1/api_jsonrpc.php", ⟨30, 0⟩, none,
      some ("Admin", ⟨"zabbix"⟩), none, none, false, Redactor.default⟩
    let post : Post Nat := fun _ n =>
      (.ok ⟨200, "\x7b\"jsonrpc\":\"2.0\",\"result\":\"7.0.0\",\"id\":1\x7d"⟩, n + 1)
    let steps := [Step.begin (.call "host.get" .null), Step.begin (.login "Admin" ⟨"zabbix"⟩)]
    core.BasicOnly ∧ StepOk ((start core 0).run core post steps) (.finish 0)
      ((start core 0).run core post (steps ++ [.finish 0])) := by
  intro core post steps
  have hcore : core.BasicOnly := fun b hb => by cases hb
  exact ⟨hcore, shared_client_settles core hcore post 0 steps (.finish 0)⟩

end Shared

end Api

end MonitorWire
