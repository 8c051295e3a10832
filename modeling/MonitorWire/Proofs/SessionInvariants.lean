import Mathlib
import MonitorWire.Proofs.FrameRoundTrip
import MonitorWire.Api.Session

namespace MonitorWire

namespace ApiVersion

theorem compareText_empty (s : String) : compareText s "" ≠ .lt := by
  have h : ¬ s < "" := by
    show ¬ s.toList < "".toList
    simp
  unfold compareText compareOfLessAndEq
  rw [if_neg h]
  split <;> simp

theorem atLeast_eq_not_lt (a b : ApiVersion) : a.atLeast b = !a.lt b := rfl

theorem atLeast_tokenMin_iff (v : ApiVersion) :
    v.atLeast Api.tokenMinVersion = true ↔ 5 < v.major ∨ v.major = 5 ∧ 4 ≤ v.minor := by
  have hlast : (compare v.revision 0).then (compareText v.suffix "") ≠ .lt := by
    rw [Ne, Ordering.then_eq_lt, not_or, not_and]
    exact ⟨by simp [Nat.compare_eq_lt], fun _ => compareText_empty v.suffix⟩
  simp only [Api.tokenMinVersion, new, atLeast, order, bne_iff_ne, ne_eq, Ordering.then_eq_lt,
    Nat.compare_eq_lt, Nat.compare_eq_eq, hlast, and_false, or_false, not_or, not_and]
  omega

end ApiVersion

namespace Api

theorem SessionState.isStatic_iff (s : SessionState) :
    s.isStatic = true ↔ ∃ t, s.auth = .authenticated t .static := by
  obtain ⟨version, auth⟩ := s
  cases auth with
  | unauthenticated => simp [isStatic]
  | authenticated t source => cases source <;> simp [isStatic]

namespace ApiCore

theorem isSupported_iff (v : ApiVersion) :
    isSupported v = true ↔ 5 ≤ v.major ∧ (v.major < 7 ∨ v.major = 7 ∧ v.minor = 0) := by
  simp only [isSupported, pairLe, Bool.and_eq_true, Bool.or_eq_true, decide_eq_true_eq,
    beq_iff_eq]
  simp only [minSupported, maxSupported, ApiVersion.majorMinor, ApiVersion.new]
  omega

theorem result_checkVersion (core : ApiCore) (v : ApiVersion) :
    (core.checkVersion v).result =
      if isSupported v || core.skipVersionCheck then .ok ()
      else .error (.unsupportedVersion libraryName v.display) := by
  by_cases hs : isSupported v = true
  · simp [checkVersion, hs]
  · by_cases hk : core.skipVersionCheck = true
    · simp [checkVersion, hs, hk, Except.bind]
    · simp [checkVersion, hs, hk]

theorem adoptVersion_ok {core : ApiCore} {s s' : SessionState} {v w : ApiVersion}
    (h : (core.adoptVersion s v).result = .ok (s', w)) :
    s' = { s with version := some v } ∧ (isSupported v = true ∨ core.skipVersionCheck = true) ∧
      (s.isStatic = true → v.atLeast tokenMinVersion = true) := by
  have hcheck := result_checkVersion core v
  by_cases hs : (isSupported v || core.skipVersionCheck) = true
  · rw [if_pos hs] at hcheck
    by_cases ht : (s.isStatic && v.lt tokenMinVersion) = true
    · simp [adoptVersion, hcheck, Except.bind, ht] at h
    · simp only [adoptVersion, Outcome.result_bind, hcheck, Except.bind, ht, Bool.false_eq_true,
        if_false, Outcome.result_pure, Except.ok.injEq, Prod.mk.injEq] at h
      refine ⟨h.1.symm, by simpa using hs, fun hst => ?_⟩
      simp only [Bool.and_eq_true, hst, true_and] at ht
      simpa [ApiVersion.atLeast_eq_not_lt] using ht
  · rw [if_neg hs] at hcheck
    simp [adoptVersion, hcheck, Except.bind] at h

theorem acceptLogin_ok {core : ApiCore} {s s' : SessionState} {result : Json.Value}
    (h : (core.acceptLogin s result).result = .ok s') :
    ∃ t, s' = { s with auth := .authenticated t .login } := by
  cases result with
  | string t =>
      simp only [acceptLogin, Outcome.result_bind, Outcome.result_debug, Except.bind,
        Outcome.result_pure, Except.ok.injEq] at h
      exact ⟨⟨t⟩, h.symm⟩
  | _ => simp [acceptLogin] at h

theorem acceptToken_ok {s s' : SessionState} {token : Secret} (h : acceptToken s token = .ok s') :
    s' = { s with auth := .authenticated token .static } ∧
      ∀ v, s.version = some v → v.atLeast tokenMinVersion = true := by
  unfold acceptToken at h
  split at h
  · next v hv =>
      split at h
      · cases h
      · next hlt =>
          cases h
          refine ⟨rfl, fun w hw => ?_⟩
          rw [hv, Option.some.injEq] at hw
          subst hw
          simpa [ApiVersion.atLeast_eq_not_lt] using hlt
  · next hv =>
      cases h
      exact ⟨rfl, fun w hw => by simp [hv] at hw⟩

theorem finishLogout_value (core : ApiCore) (s : SessionState) :
    (core.finishLogout s).value = { s with auth := .unauthenticated } := rfl

end ApiCore

inductive SessionOp where
  | adoptVersion (v : ApiVersion)
  | acceptLogin (result : Json.Value)
  | acceptToken (token : Secret)
  | finishLogout

namespace SessionOp

def apply (core : ApiCore) (s : SessionState) : SessionOp → Except ProtocolError SessionState
  | .adoptVersion v => (core.adoptVersion s v).result.map Prod.fst
  | .acceptLogin result => (core.acceptLogin s result).result
  | .acceptToken token => ApiCore.acceptToken s token
  | .finishLogout => .ok (core.finishLogout s).value

/-- The state after an operation: the state it gives, or the state before if it failed. -/
def next (core : ApiCore) (s : SessionState) (op : SessionOp) : SessionState :=
  match op.apply core s with
  | .ok s' => s'
  | .error _ => s

end SessionOp

inductive Reachable (core : ApiCore) : SessionState → Prop
  | init : Reachable core core.initialState
  | step {s : SessionState} (op : SessionOp) : Reachable core s → Reachable core (op.next core s)

/-- A session's state is consistent when its version is a supported one (unless the check is
skipped) and a static token goes with a version from 5.4 on. -/
structure SessionState.Consistent (core : ApiCore) (s : SessionState) : Prop where
  version_supported : ∀ v, s.version = some v →
    (5 ≤ v.major ∧ (v.major < 7 ∨ v.major = 7 ∧ v.minor = 0)) ∨ core.skipVersionCheck = true
  static_version : ∀ t v, s.auth = .authenticated t .static → s.version = some v →
    5 < v.major ∨ v.major = 5 ∧ 4 ≤ v.minor

namespace SessionState

variable {core : ApiCore}

theorem consistent_initialState (core : ApiCore) : core.initialState.Consistent core := by
  -- a session starts with no version, static token or not
  have hnone : core.initialState.version = none := by
    unfold ApiCore.initialState
    split <;> rfl
  constructor
  · intro v hv
    simp [hnone] at hv
  · intro t v _ hv
    simp [hnone] at hv

theorem Consistent.setAuth {s : SessionState} (h : s.Consistent core) (auth : AuthState)
    (hauth : ∀ t v, auth = .authenticated t .static → s.version = some v →
      5 < v.major ∨ v.major = 5 ∧ 4 ≤ v.minor) :
    ({ s with auth := auth } : SessionState).Consistent core :=
  ⟨h.version_supported, fun t v ht hv => hauth t v ht hv⟩

theorem consistent_of_adoptVersion {s s' : SessionState} {v w : ApiVersion}
    (hop : (core.adoptVersion s v).result = .ok (s', w)) : s'.Consistent core := by
  obtain ⟨rfl, hsupp, hstatic⟩ := ApiCore.adoptVersion_ok hop
  constructor
  · intro v' hv'
    cases hv'
    exact hsupp.imp_left (ApiCore.isSupported_iff v).mp
  · intro t v' ht hv'
    cases hv'
    -- the token was static before the version came, so the version was checked against it
    have hst : s.isStatic = true := (isStatic_iff s).mpr ⟨t, ht⟩
    exact (ApiVersion.atLeast_tokenMin_iff v).mp (hstatic hst)

theorem Consistent.next {s : SessionState} (h : s.Consistent core) (op : SessionOp) :
    (op.next core s).Consistent core := by
  unfold SessionOp.next
  split
  · next s' hop =>
      cases op with
      | adoptVersion v =>
          cases hres : (core.adoptVersion s v).result with
          | error e => simp [SessionOp.apply, hres, Except.map] at hop
          | ok p =>
              simp only [SessionOp.apply, hres, Except.map, Except.ok.injEq] at hop
              subst hop
              exact consistent_of_adoptVersion hres
      | acceptLogin result =>
          obtain ⟨t, rfl⟩ := ApiCore.acceptLogin_ok hop
          exact h.setAuth _ fun t' v ht _ => by cases ht
      | acceptToken token =>
          obtain ⟨rfl, hver⟩ := ApiCore.acceptToken_ok hop
          exact h.setAuth _ fun t v _ hv => (ApiVersion.atLeast_tokenMin_iff v).mp (hver v hv)
      | finishLogout =>
          cases hop
          exact h.setAuth _ fun t v ht _ => by cases ht
  · exact h

theorem consistent_of_reachable {s : SessionState} (hs : Reachable core s) : s.Consistent core := by
  induction hs with
  | init => exact consistent_initialState core
  | step op _ ih => exact ih.next op

end SessionState

/-- Whatever operations a session goes through, in any order, its version stays a supported
one (unless the check is skipped) and a static token goes with a version from 5.4 on; an
operation that fails leaves the state as it was. -/
theorem session_state_consistent (core : ApiCore) {s : SessionState} (hs : Reachable core s) :
    s.Consistent core ∧ ∀ op : SessionOp, (∃ e, op.apply core s = .error e) → op.next core s = s := by
  refine ⟨SessionState.consistent_of_reachable hs, ?_⟩
  rintro op ⟨e, he⟩
  simp [SessionOp.next, he]

theorem session_state_consistent_static :
    let core : ApiCore := ⟨"http://127.0.0.1/api_jsonrpc.php", ⟨30, 0⟩, none, none,
      some ⟨"token"⟩, none, false, Redactor.default⟩
    let s := (SessionOp.adoptVersion (ApiVersion.new 6 0 0)).next core core.initialState
    Reachable core s ∧ s.Consistent core ∧
      ∀ op : SessionOp, (∃ e, op.apply core s = .error e) → op.next core s = s := by
  intro core s
  have hs : Reachable core s := .step _ .init
  exact ⟨hs, session_state_consistent core hs⟩

end Api

end MonitorWire
