import Mathlib
import MonitorWire.Config.Settings
import MonitorWire.Proofs.VersionRoundTrip

namespace MonitorWire

namespace Duration

theorem totalMillis_lt_iff (t : Duration) : t.totalMillis < 100 ↔ t < ofMillis 100 := by
  simp only [totalMillis, lt_def, ofMillis]
  omega

theorem secs_gt_iff (t : Duration) : 300 < t.secs ↔ ofMillis 301000 ≤ t := by
  simp only [le_def, ofMillis]
  omega

end Duration

theorem ProtocolError.message_configError (r : String) :
    (ProtocolError.configError r).message = "Configuration error: " ++ r := rfl

section Traverse

variable {ε α β : Type}

theorem except_bind_eq_error {x : Except ε α} {f : α → Except ε β} {e : ε} :
    x >>= f = .error e ↔ x = .error e ∨ ∃ a, x = .ok a ∧ f a = .error e := by
  cases x <;> simp [bind, Except.bind]

theorem exists_of_mapM_eq_error {f : α → Except ε β} {e : ε} {xs : List α}
    (h : xs.mapM f = .error e) : ∃ x ∈ xs, f x = .error e := by
  induction xs with
  | nil => simp [pure, Except.pure] at h
  | cons x xs ih =>
    rw [List.mapM_cons, except_bind_eq_error] at h
    rcases h with hx | ⟨b, -, h⟩
    · exact ⟨x, List.mem_cons_self, hx⟩
    · rw [except_bind_eq_error] at h
      rcases h with hxs | ⟨bs, -, h⟩
      · obtain ⟨x', hx', hf⟩ := ih hxs
        exact ⟨x', List.mem_cons_of_mem x hx', hf⟩
      · cases h

end Traverse

theorem Node.configError_of_parse_error {raw : String} {e : ProtocolError}
    (h : Node.parse raw = .error e) : ∃ r, e = .configError r := by
  simp only [Node.parse] at h
  split at h
  · cases h; exact ⟨_, rfl⟩
  · split at h
    · split at h
      · cases h
      · cases h; exact ⟨_, rfl⟩
    · cases h

theorem Cluster.configError_of_parse_error {raw : String} {e : ProtocolError}
    (h : Cluster.parse raw = .error e) : ∃ r, e = .configError r := by
  rw [Cluster.parse, except_bind_eq_error] at h
  rcases h with h | ⟨nodes, -, h⟩
  · obtain ⟨x, -, hx⟩ := exists_of_mapM_eq_error h
    exact Node.configError_of_parse_error hx
  · unfold ofNodes at h
    split at h
    · cases h; exact ⟨_, rfl⟩
    · cases h

theorem configError_of_parseClusters_error {server : String} {e : ProtocolError}
    (h : parseClusters server = .error e) : ∃ r, e = .configError r := by
  rw [parseClusters, except_bind_eq_error] at h
  rcases h with h | ⟨clusters, -, h⟩
  · obtain ⟨x, -, hx⟩ := exists_of_mapM_eq_error h
    exact Cluster.configError_of_parse_error hx
  · split at h
    · cases h; exact ⟨_, rfl⟩
    · cases h

namespace Config

inductive Section
  | sender
  | getter
  | api
  deriving DecidableEq, Repr

namespace Section

def name : Section → String
  | sender => "Sender"
  | getter => "Getter"
  | api => "API"

def timeout (c : ClientConfig) : Section → Duration
  | sender => c.sender.timeout
  | getter => c.getter.timeout
  | api => c.api.timeout

end Section

def complaints (name : String) : List String :=
  [name ++ " timeout too short (minimum: 100ms)", name ++ " timeout too long (maximum: 300s)"]

def allComplaints : List String :=
  [Section.sender, .getter, .api].flatMap fun S => complaints S.name

theorem mem_allComplaints {S : Section} {m : String} (h : m ∈ complaints S.name) :
    m ∈ allComplaints := by
  cases S <;> simp [allComplaints, h]

theorem head_of_mem_complaints {S : Section} {m : String} (h : m ∈ complaints S.name) :
    m.toList.head? = S.name.toList.head? := by
  have hname : S.name.toList ≠ [] := by
    cases S <;> simp [Section.name]
  simp only [complaints, List.mem_cons, List.not_mem_nil, or_false] at h
  rcases h with rfl | rfl <;> rw [String.toList_append, List.head?_append_of_ne_nil _ hname]

theorem head_of_mem_allComplaints {m : String} (h : m ∈ allComplaints) :
    m.toList.head? ∈ [some 'S', some 'G', some 'A'] := by
  obtain ⟨S, -, hS⟩ := List.mem_flatMap.1 h
  rw [head_of_mem_complaints hS]
  cases S <;> simp [Section.name]

theorem Section.eq_of_head_name {S T : Section}
    (h : S.name.toList.head? = T.name.toList.head?) : S = T := by
  cases S <;> cases T <;> simp [Section.name] at h ⊢

theorem eq_of_mem_complaints {S T : Section} {m : String} (hS : m ∈ complaints S.name)
    (hT : m ∈ complaints T.name) : S = T :=
  Section.eq_of_head_name ((head_of_mem_complaints hS).symm.trans (head_of_mem_complaints hT))

theorem mem_complaints_of_mem_timeoutProblems {name m : String} {t : Duration}
    (h : m ∈ timeoutProblems name t) : m ∈ complaints name := by
  unfold timeoutProblems at h
  split_ifs at h <;> simp_all [complaints]

theorem mem_timeoutProblems_short (name : String) (t : Duration) :
    name ++ " timeout too short (minimum: 100ms)" ∈ timeoutProblems name t ↔
      t < Duration.ofMillis 100 := by
  rw [← Duration.totalMillis_lt_iff]
  unfold timeoutProblems
  split_ifs with hshort <;> simp [hshort]

theorem mem_timeoutProblems_long (name : String) (t : Duration) :
    name ++ " timeout too long (maximum: 300s)" ∈ timeoutProblems name t ↔
      Duration.ofMillis 301000 ≤ t := by
  rw [← Duration.secs_gt_iff]
  unfold timeoutProblems
  split_ifs with hshort hlong
  · -- a timeout below 100 ms has no whole second
    have hsecs : ¬ 300 < t.secs := by
      simp only [Duration.totalMillis] at hshort
      omega
    simp [hsecs]
  · simp [hlong]
  · simp [hlong]

def Quiet (ms : List String) : Prop := ∀ m ∈ ms, m ∉ allComplaints

theorem Quiet.nil : Quiet [] := fun _ h => absurd h List.not_mem_nil

theorem quiet_singleton {t : String} (h : t ∉ allComplaints) : Quiet [t] := by
  intro m hm
  rw [List.mem_singleton] at hm
  exact hm ▸ h

theorem quiet_of_head {t : String} (h : t.toList.head? ∉ [some 'S', some 'G', some 'A']) :
    Quiet [t] :=
  quiet_singleton fun hall => h (head_of_mem_allComplaints hall)

theorem Quiet.append {a b : List String} (ha : Quiet a) (hb : Quiet b) : Quiet (a ++ b) := by
  intro m hm
  rcases List.mem_append.1 hm with hm | hm
  · exact ha m hm
  · exact hb m hm

theorem Quiet.ite {p : Prop} [Decidable p] {a b : List String} (ha : Quiet a) (hb : Quiet b) :
    Quiet (if p then a else b) := by
  split
  · exact ha
  · exact hb

theorem Quiet.mem_append_left {pre ms : List String} (h : Quiet pre) {m : String}
    (hm : m ∈ allComplaints) : m ∈ pre ++ ms ↔ m ∈ ms := by
  simp only [List.mem_append, or_iff_right_iff_imp]
  exact fun hpre => absurd hm (h m hpre)

theorem Quiet.mem_append_right {ms post : List String} (h : Quiet post) {m : String}
    (hm : m ∈ allComplaints) : m ∈ ms ++ post ↔ m ∈ ms := by
  simp only [List.mem_append, or_iff_left_iff_imp]
  exact fun hpost => absurd hm (h m hpost)

theorem SenderConfig.mem_validate_iff (c : SenderConfig) {m : String} (hm : m ∈ allComplaints) :
    m ∈ c.validate ↔ m ∈ timeoutProblems "Sender" c.timeout := by
  rw [SenderConfig.validate, Quiet.mem_append_right ?chunk hm, Quiet.mem_append_left ?server hm]
  case server =>
    refine Quiet.ite (quiet_singleton (by simp [allComplaints, complaints, Section.name])) ?_
    -- a failure to read the addresses is quoted after `Configuration error`
    split
    · obtain ⟨r, rfl⟩ := configError_of_parseClusters_error ‹_›
      exact quiet_of_head (by simp [ProtocolError.message_configError, String.toList_append])
    · exact Quiet.nil
  case chunk => exact Quiet.ite (quiet_of_head (by simp)) Quiet.nil

theorem GetterConfig.mem_validate_iff (c : GetterConfig) {m : String} (hm : m ∈ allComplaints) :
    m ∈ c.validate ↔ m ∈ timeoutProblems "Getter" c.timeout := by
  rw [GetterConfig.validate, Quiet.mem_append_left (Quiet.append ?host ?port) hm]
  case host =>
    exact Quiet.ite (quiet_singleton (by simp [allComplaints, complaints, Section.name])) Quiet.nil
  case port =>
    exact Quiet.ite (quiet_singleton (by simp [allComplaints, complaints, Section.name])) Quiet.nil

theorem ApiConfig.mem_validate_iff (c : ApiConfig) {m : String} (hm : m ∈ allComplaints) :
    m ∈ c.validate ↔ m ∈ timeoutProblems "API" c.timeout := by
  rw [ApiConfig.validate, Quiet.mem_append_right ?version hm,
    Quiet.mem_append_left (Quiet.append (Quiet.append (Quiet.append ?address ?login) ?token) ?basic)
      hm]
  case address =>
    refine Quiet.ite (quiet_singleton (by simp [allComplaints, complaints, Section.name])) ?_
    -- an address the endpoint fails on is quoted after `Invalid API URL`
    split
    · exact quiet_of_head (by simp [String.toList_append])
    · exact Quiet.nil
  case login => exact Quiet.ite (quiet_of_head (by simp)) Quiet.nil
  case token => exact Quiet.ite (quiet_of_head (by simp)) Quiet.nil
  case basic => exact Quiet.ite (quiet_of_head (by simp)) Quiet.nil
  case version =>
    -- a version that fails to read is quoted after `Invalid API version`; the reader is taken in
    -- its scanning form, so that splitting on its result does not compile its pattern
    simp only [ApiVersion.parse_eq]
    split
    · split
      · exact Quiet.nil
      · exact quiet_of_head (by simp [String.toList_append])
    · exact Quiet.nil

theorem LoggingConfig.quiet_validate (c : LoggingConfig) : Quiet c.validate :=
  Quiet.ite (quiet_of_head (by simp)) Quiet.nil

theorem ClientConfig.mem_validate_iff (c : ClientConfig) (S : Section) {m : String}
    (hm : m ∈ complaints S.name) :
    m ∈ c.validate ↔ m ∈ timeoutProblems S.name (S.timeout c) := by
  have hall := mem_allComplaints hm
  rw [ClientConfig.validate, Quiet.mem_append_right c.logging.quiet_validate hall]
  simp only [List.mem_append, c.sender.mem_validate_iff hall, c.getter.mem_validate_iff hall,
    c.api.mem_validate_iff hall]
  -- a complaint made by a section's check names that section
  have hsection : ∀ T : Section, m ∈ timeoutProblems T.name (T.timeout c) → T = S := fun T h =>
    eq_of_mem_complaints (mem_complaints_of_mem_timeoutProblems h) hm
  constructor
  · rintro ((h | h) | h)
    · obtain rfl := hsection .sender h
      exact h
    · obtain rfl := hsection .getter h
      exact h
    · obtain rfl := hsection .api h
      exact h
  · intro h
    cases S with
    | sender => exact .inl (.inl h)
    | getter => exact .inl (.inr h)
    | api => exact .inr h

theorem strict_eq_ok_iff (problems : List String) : strict problems = .ok () ↔ problems = [] := by
  unfold strict
  split <;> simp_all

/-- The settings checks and each section's timeout: a section is told its timeout is too short
exactly when it is below 100 ms, and too long exactly when it reaches 301 s; the strict check
passes exactly when no problem is listed. -/
theorem validate_timeout_range (c : ClientConfig) (S : Section) :
    (S.name ++ " timeout too short (minimum: 100ms)" ∈ c.validate ↔
        S.timeout c < Duration.ofMillis 100) ∧
      (S.name ++ " timeout too long (maximum: 300s)" ∈ c.validate ↔
        Duration.ofMillis 301000 ≤ S.timeout c) ∧
      (c.validateStrict = .ok () ↔ c.validate = []) := by
  refine ⟨?_, ?_, strict_eq_ok_iff c.validate⟩
  · rw [c.mem_validate_iff S (by simp [complaints]), mem_timeoutProblems_short]
  · rw [c.mem_validate_iff S (by simp [complaints]), mem_timeoutProblems_long]

/-- A sender timeout of 300.5 s exceeds 300 s, and no problem is listed for it. -/
theorem validate_passes_timeout_past_maximum :
    Duration.ofMillis 300000 < Duration.ofMillis 300500 ∧
      "Sender timeout too long (maximum: 300s)" ∉
        ({ sender := { timeout := Duration.ofMillis 300500 } } : ClientConfig).validate := by
  refine ⟨by decide, ?_⟩
  have hname : "Sender timeout too long (maximum: 300s)" =
      Section.sender.name ++ " timeout too long (maximum: 300s)" := rfl
  rw [hname, ClientConfig.mem_validate_iff _ .sender (by simp [complaints]),
    mem_timeoutProblems_long]
  decide

end Config

end MonitorWire
