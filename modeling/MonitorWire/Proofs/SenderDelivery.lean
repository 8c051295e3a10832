import Mathlib
import MonitorWire.Proofs.NetworkRuns
import MonitorWire.Proofs.ReplySums
import MonitorWire.Service.Sender

namespace MonitorWire

theorem ceilDiv_succ {n k : Nat} (hk : 0 < k) (hn : 0 < n) :
    (n + k - 1) / k = (n - k + k - 1) / k + 1 := by
  by_cases h : k ≤ n
  · rw [← Nat.add_div_right _ hk]
    congr 1
    omega
  · rw [Nat.div_eq_of_lt (by omega : n - k + k - 1 < k)]
    exact Nat.div_eq_of_lt_le (by omega) (by omega)

theorem chunksOf_eq {α : Type} {k : Nat} (hk : 0 < k) (xs : List α) :
    chunksOf k xs =
      (List.range ((xs.length + k - 1) / k)).map fun i => (xs.drop (i * k)).take k := by
  fun_induction chunksOf k xs with
  | case1 xs h => omega
  | case2 h => simp [Nat.div_eq_of_lt (by omega : k - 1 < k)]
  | case3 h x rest ih =>
    -- the first piece, then the pieces of what is left after it
    rw [ih, List.length_drop, ceilDiv_succ hk (n := (x :: rest).length) (by simp),
      List.range_succ_eq_map]
    simp [List.drop_drop, Nat.succ_mul, Nat.add_comm]

theorem numbered_eq {α : Type} (start : Nat) (xs : List α) :
    numbered start xs = (List.range' start xs.length).zip xs := by
  induction xs generalizing start with
  | nil => rfl
  | cons x rest ih => simp [numbered, ih, List.range'_succ]

/-- Chunk `i + 1` holds the items from `i * chunkSize` on, at most `chunkSize` of them, and
there are as many chunks as it takes to hold all the items. -/
theorem SenderCore.chunks_eq (c : SenderCore) (hk : 0 < c.chunkSize) (items : List Item) :
    c.chunks items = (List.range ((items.length + c.chunkSize - 1) / c.chunkSize)).map
      fun i => (i + 1, (items.drop (i * c.chunkSize)).take c.chunkSize) := by
  rw [chunks, numbered_eq, chunksOf_eq hk, List.length_map, List.length_range]
  apply List.ext_getElem (by simp)
  intro i h₁ h₂
  simp [Nat.add_comm]

theorem TrapperResult.chunk_of_parse {reply : String} {number : Nat} {r : TrapperResult}
    (h : (TrapperResult.parse reply number).result = .ok r) : r.chunk = number := by
  simp only [TrapperResult.parse] at h
  repeat' split at h
  -- every branch fails but the one that reads the counts, which keeps the number given
  all_goals simp only [Outcome.result_bind, Outcome.result_debug, Outcome.result_fail,
    Outcome.result_pure, Except.bind, reduceCtorEq, Except.ok.injEq] at h
  subst h
  rfl

namespace SenderResponse

theorem eq_ofReplies_of_add {replies : List (Node × TrapperResult)} {node : Node}
    {result : TrapperResult} {r : SenderResponse} (h : (ofReplies replies).add node result = .ok r) :
    r = ofReplies (replies ++ [(node, result)]) := by
  rw [add_ofReplies replies (node, result)] at h
  split_ifs at h
  exact (Except.ok.inj h).symm

theorem foldl_max_eq {l : List Nat} {a n : Nat} (hle : ∀ x ∈ l, x ≤ n) (ha : a ≤ n)
    (hmem : a = n ∨ n ∈ l) : l.foldl max a = n := by
  induction l generalizing a with
  | nil => simpa using hmem
  | cons x rest ih =>
    simp only [List.mem_cons, forall_eq_or_imp] at hle hmem
    refine ih hle.2 (max_le ha hle.1) ?_
    rcases hmem with rfl | rfl | hrest
    · exact .inl (max_eq_left hle.1)
    · exact .inl (max_eq_right ha)
    · exact .inr hrest

end SenderResponse

namespace Sender

open Net

variable {σ : Type} {s : Sender}

/-- Whether the sender keeps a connection the network made: its decorator may refuse it, and
a task gives a delaying decorator only the time allowed. -/
def keeps (s : Sender) : Bool :=
  match s.decorator with
  | some (.refuse _) => false
  | some (.delay d) => !(s.mode == .async && decide (d.totalNanos ≥ s.core.timeout.totalNanos))
  | _ => true

theorem outcome_connect (net : Network σ) (s : Sender) (node : Node) (st : σ) :
    ∃ e, ((s.link node).connect net s.mode).outcome st =
      (if (net.dial node s.core.timeout st).1 = .connected ∧ s.keeps = true then .ok ()
        else .error e, (net.dial node s.core.timeout st).2) := by
  rcases hd : net.dial node s.core.timeout st with ⟨d, st'⟩
  simp only [Link.connect, link, NetM.outcome_ask_bind, hd]
  cases d with
  | connected =>
    unfold keeps
    rcases s.decorator with _ | _ | e | d
    · exact ⟨.timeout, by simp⟩
    · exact ⟨.timeout, by simp⟩
    · exact ⟨e, by simp⟩
    · by_cases hslow : s.mode = .async ∧ s.core.timeout.totalNanos ≤ d.totalNanos
      · exact ⟨.timeout, by simp [hslow]⟩
      · exact ⟨.timeout, by simp [hslow]⟩
  | timedOut => exact ⟨_, by simp; rfl⟩
  | failed reason => exact ⟨_, by simp; rfl⟩
  | unresolved reason => cases s.mode <;> exact ⟨_, by simp; rfl⟩

/-- The failure of a cluster none of whose nodes gave a connection the sender keeps. -/
def unreachableFailure (c : Cluster) : ProtocolError :=
  .transport ("Couldn't connect to all of cluster nodes: " ++ c.display)

/-- The dials of a cluster's nodes in order: each gives no connection the sender keeps, up to
the first that gives one, which the sender takes. -/
inductive Failover (s : Sender) : List Node → List Contact → Option Node → Prop
  | exhausted : Failover s [] [] none
  | passed {node : Node} {rest : List Node} {d : Dial} {cs : List Contact} {taken : Option Node}
      (hd : ¬(d = .connected ∧ s.keeps = true)) (h : Failover s rest cs taken) :
      Failover s (node :: rest) (.dial node d :: cs) taken
  | taken {node : Node} {rest : List Node} (hk : s.keeps = true) :
      Failover s (node :: rest) [.dial node .connected] (some node)

theorem failover_connectFirst (net : Network σ) (s : Sender) (c : Cluster) (nodes : List Node)
    (st : σ) (log : List Contact) :
    ∃ cs taken st', (s.connectFirst net.logging c nodes).outcome (st, log) =
        (taken.elim (.error (unreachableFailure c)) .ok, (st', log ++ cs)) ∧
      Failover s nodes cs taken := by
  induction nodes generalizing st log with
  | nil => exact ⟨[], none, st, by simp [connectFirst, unreachable, unreachableFailure], .exhausted⟩
  | cons node rest ih =>
    obtain ⟨e, he⟩ := outcome_connect net.logging s node (st, log)
    simp only [connectFirst, NetM.outcome_debug_bind, NetM.outcome_attempt_bind, he, logging_dial]
    by_cases hk : (net.dial node s.core.timeout st).1 = .connected ∧ s.keeps = true
    · refine ⟨[.dial node .connected], some node, (net.dial node s.core.timeout st).2, ?_,
        .taken hk.2⟩
      simp [hk]
    · obtain ⟨cs, taken, st', hrun, hf⟩ := ih (net.dial node s.core.timeout st).2
        (log ++ [.dial node (net.dial node s.core.timeout st).1])
      refine ⟨.dial node (net.dial node s.core.timeout st).1 :: cs, taken, st', ?_, .passed hk hf⟩
      simp [hk, hrun]

structure Job where
  number : Nat
  items : List Item
  cluster : Cluster

def jobs (s : Sender) (items : List Item) : List Job :=
  (s.core.chunks items).flatMap fun chunk => s.core.clusters.map (Job.mk chunk.1 chunk.2)

def reading (answer : Answer) (number : Nat) : Except ProtocolError TrapperResult :=
  (answerText answer).bind fun text => (TrapperResult.parse text number).result

/-- One job carried out: the chunk's frame is built, failover takes a node of the cluster, and
that node alone gets the frame. The result is the node's answer or the first failure. -/
inductive Exchange (s : Sender) (job : Job) : List Contact → Except ProtocolError NodeResult → Prop
  | unbuilt {e : ProtocolError} (hp : (s.core.packet job.items).result = .error e) :
      Exchange s job [] (.error e)
  | unreachable {p : Packet} {cs : List Contact} (hp : (s.core.packet job.items).result = .ok p)
      (hf : Failover s job.cluster.nodes cs none) :
      Exchange s job cs (.error (unreachableFailure job.cluster))
  | answered {p : Packet} {cs : List Contact} {node : Node} (answer : Answer)
      (hp : (s.core.packet job.items).result = .ok p)
      (hf : Failover s job.cluster.nodes cs (some node)) :
      Exchange s job (cs ++ [.deliver node p.toBytes answer])
        ((reading answer job.number).map (NodeResult.mk node))

theorem Exchange.chunk {job : Job} {cs : List Contact} {nr : NodeResult}
    (h : Exchange s job cs (.ok nr)) : nr.result.chunk = job.number := by
  generalize hok : (Except.ok nr : Except ProtocolError NodeResult) = res at h
  cases h with
  | unbuilt => cases hok
  | unreachable => cases hok
  | answered answer hp hf =>
    unfold reading at hok
    cases ha : answerText answer with
    | error e => simp [ha, Except.bind, Except.map] at hok
    | ok text =>
      cases hr : (TrapperResult.parse text job.number).result with
      | error e => simp [ha, hr, Except.bind, Except.map] at hok
      | ok r =>
        simp only [ha, hr, Except.bind, Except.map, Except.ok.injEq] at hok
        subst hok
        exact TrapperResult.chunk_of_parse hr

/-- The jobs carried out in order from a response: each node's answer is added to it, and the
first failure, or a sum that cannot be formed, ends the send. -/
inductive Delivery (s : Sender) :
    SenderResponse → List Job → List Contact → Except ProtocolError (Except String SenderResponse) →
      Prop
  | done {resp : SenderResponse} : Delivery s resp [] [] (.ok (.ok resp))
  | failed {resp : SenderResponse} {job : Job} {rest : List Job} {cs : List Contact}
      {e : ProtocolError} (h : Exchange s job cs (.error e)) :
      Delivery s resp (job :: rest) cs (.error e)
  | overflow {resp : SenderResponse} {job : Job} {rest : List Job} {cs : List Contact}
      {nr : NodeResult} {m : String} (h : Exchange s job cs (.ok nr))
      (hadd : resp.add nr.node nr.result = .error m) :
      Delivery s resp (job :: rest) cs (.ok (.error m))
  | next {resp resp' : SenderResponse} {job : Job} {rest : List Job} {cs cs' : List Contact}
      {nr : NodeResult} {res : Except ProtocolError (Except String SenderResponse)}
      (h : Exchange s job cs (.ok nr)) (hadd : resp.add nr.node nr.result = .ok resp')
      (hrest : Delivery s resp' rest cs' res) :
      Delivery s resp (job :: rest) (cs ++ cs') res

namespace Delivery

theorem stop {resp : SenderResponse} {js : List Job} {cs : List Contact}
    {res : Except ProtocolError (Except String SenderResponse)} (h : Delivery s resp js cs res)
    (hstop : ∀ r, res ≠ .ok (.ok r)) (more : List Job) : Delivery s resp (js ++ more) cs res := by
  induction h with
  | done => exact absurd rfl (hstop _)
  | failed hex => exact .failed hex
  | overflow hex hadd => exact .overflow hex hadd
  | next hex hadd _ ih => exact .next hex hadd (ih hstop)

theorem append {resp r : SenderResponse} {js more : List Job} {cs cs' : List Contact}
    {res : Except ProtocolError (Except String SenderResponse)}
    (h : Delivery s resp js cs (.ok (.ok r))) (hmore : Delivery s r more cs' res) :
    Delivery s resp (js ++ more) (cs ++ cs') res := by
  generalize hok : (.ok (.ok r) : Except ProtocolError (Except String SenderResponse)) = ok at h
  induction h with
  | done => cases hok; exact hmore
  | failed => cases hok
  | overflow => cases hok
  | next hex hadd _ ih => simpa [List.append_assoc] using .next hex hadd (ih hok)

theorem ofReplies_eq {replies : List (Node × TrapperResult)} {r : SenderResponse} {js : List Job}
    {cs : List Contact} (h : Delivery s (SenderResponse.ofReplies replies) js cs (.ok (.ok r))) :
    ∃ more, r = SenderResponse.ofReplies (replies ++ more) ∧
      more.map (·.2.chunk) = js.map (·.number) := by
  generalize hresp : SenderResponse.ofReplies replies = resp at h
  generalize hok : (.ok (.ok r) : Except ProtocolError (Except String SenderResponse)) = ok at h
  induction h generalizing replies with
  | done => cases hok; exact ⟨[], by simp [← hresp], rfl⟩
  | failed => cases hok
  | overflow => cases hok
  | next hex hadd _ ih =>
    -- the answer of the first job joins the summary, and the rest of the delivery goes on from it
    subst hresp
    obtain ⟨more, hr, hc⟩ := ih (SenderResponse.eq_ofReplies_of_add hadd).symm hok
    refine ⟨_ :: more, by simpa using hr, ?_⟩
    simp [hc, hex.chunk]

end Delivery

theorem exchange_sendToCluster (net : Network σ) (s : Sender) {number : Nat}
    {items : List Item} {p : Packet} (hp : (s.core.packet items).result = .ok p)
    (resp : SenderResponse) (c : Cluster) (st : σ) (log : List Contact) :
    ∃ cs r st', (s.sendToCluster net.logging p number resp c).outcome (st, log) =
        (r.map fun nr => resp.add nr.node nr.result, (st', log ++ cs)) ∧
      Exchange s ⟨number, items, c⟩ cs r := by
  obtain ⟨cs, taken, st₁, hc, hf⟩ := failover_connectFirst net s c c.nodes st log
  rw [sendToCluster, NetM.outcome_bind, hc]
  cases taken with
  | none => exact ⟨cs, .error (unreachableFailure c), st₁, rfl, .unreachable hp hf⟩
  | some node =>
    -- the node taken gets the frame, and its answer is read
    dsimp only [Option.elim]
    rw [NetM.outcome_bind, Link.outcome_send]
    simp only [link, logging_deliver]
    generalize net.deliver node p.toBytes s.core.timeout st₁ = d
    obtain ⟨a, st₂⟩ := d
    refine ⟨_, _, st₂, ?_, .answered a hp hf⟩
    simp only [reading, List.append_assoc]
    cases answerText a with
    | error e => rfl
    | ok text =>
      simp only [Except.bind, NetM.outcome_ofOutcome_bind]
      cases (TrapperResult.parse text number).result <;> rfl

theorem delivery_sendChunk (net : Network σ) (s : Sender) {number : Nat} {items : List Item}
    {p : Packet} (hp : (s.core.packet items).result = .ok p) (clusters : List Cluster)
    (resp : SenderResponse) (st : σ) (log : List Contact) :
    ∃ cs, ((s.sendChunk net.logging p number resp clusters).outcome (st, log)).2.2 = log ++ cs ∧
      Delivery s resp (clusters.map (Job.mk number items)) cs
        ((s.sendChunk net.logging p number resp clusters).outcome (st, log)).1 := by
  induction clusters generalizing resp st log with
  | nil => exact ⟨[], by simp [sendChunk], by simpa [sendChunk] using .done⟩
  | cons c rest ih =>
    obtain ⟨cs, r, st₁, hc, hex⟩ := exchange_sendToCluster net s hp resp c st log
    rw [sendChunk, NetM.outcome_bind, hc]
    cases r with
    | error e => exact ⟨cs, rfl, .failed hex⟩
    | ok nr =>
      cases hadd : resp.add nr.node nr.result with
      | error m =>
        exact ⟨cs, by simp [Except.map, hadd], by simpa [Except.map, hadd] using .overflow hex hadd⟩
      | ok resp' =>
        obtain ⟨cs', hlog, hdel⟩ := ih resp' st₁ (log ++ cs)
        simp only [Except.map, hadd]
        exact ⟨cs ++ cs', by simp [hlog], .next hex hadd hdel⟩

theorem outcome_foldlM_sendNext_error (net : Network σ) (s : Sender) (m : String)
    (chunks : List (Nat × List Item)) (st : σ) :
    (chunks.foldlM (s.sendNext net) (.error m)).outcome st = (.ok (.error m), st) := by
  induction chunks with
  | nil => rfl
  | cons chunk rest ih => rw [List.foldlM_cons, NetM.outcome_bind]; exact ih

theorem delivery_foldlM (net : Network σ) (s : Sender) (hclusters : s.core.clusters ≠ [])
    (chunks : List (Nat × List Item)) (resp : SenderResponse) (st : σ) (log : List Contact) :
    ∃ cs, ((chunks.foldlM (s.sendNext net.logging) (.ok resp)).outcome (st, log)).2.2 = log ++ cs ∧
      Delivery s resp (chunks.flatMap fun chunk => s.core.clusters.map (Job.mk chunk.1 chunk.2)) cs
        ((chunks.foldlM (s.sendNext net.logging) (.ok resp)).outcome (st, log)).1 := by
  induction chunks generalizing resp st log with
  | nil => exact ⟨[], by simp, .done⟩
  | cons chunk rest ih =>
    obtain ⟨c, others, hc⟩ := List.exists_cons_of_ne_nil hclusters
    rw [List.foldlM_cons, NetM.outcome_bind, List.flatMap_cons]
    simp only [sendNext, NetM.outcome_ofOutcome_bind]
    cases hp : (s.core.packet chunk.2).result with
    | error e =>
      -- a frame that cannot be built fails the chunk's first job
      refine ⟨[], by simp, ?_⟩
      have hjob : (⟨chunk.1, chunk.2, c⟩ : Job).items = chunk.2 := rfl
      rw [hc, List.map_cons, List.cons_append]
      exact .failed (.unbuilt (hjob ▸ hp))
    | ok p =>
      dsimp only
      obtain ⟨cs, hlog, hdel⟩ := delivery_sendChunk net s hp s.core.clusters resp st log
      rcases hrun : (s.sendChunk net.logging p chunk.1 resp s.core.clusters).outcome (st, log) with
        ⟨res, st₁, log₁⟩
      rw [hrun] at hlog hdel
      dsimp only at hlog hdel
      subst hlog
      rcases res with e | _ | r
      · exact ⟨cs, rfl, hdel.stop (by simp) _⟩
      · refine ⟨cs, ?_, ?_⟩ <;> simp only [outcome_foldlM_sendNext_error]
        exact hdel.stop (by simp) _
      · obtain ⟨cs', hlog', hdel'⟩ := ih r st₁ (log ++ cs)
        exact ⟨cs ++ cs', by simp [hlog'], hdel.append hdel'⟩

theorem delivery_send (net : Network σ) (s : Sender) (hclusters : s.core.clusters ≠ [])
    (items : List Item) (st : σ) (log : List Contact) :
    ∃ cs, ((s.send net.logging items).outcome (st, log)).2.2 = log ++ cs ∧
      Delivery s {} (s.jobs items) cs ((s.send net.logging items).outcome (st, log)).1 :=
  delivery_foldlM net s hclusters (s.core.chunks items) {} st log

theorem number_le_of_mem_jobs (hk : 0 < s.core.chunkSize) {items : List Item} {job : Job}
    (hjob : job ∈ s.jobs items) :
    job.number ≤ (items.length + s.core.chunkSize - 1) / s.core.chunkSize := by
  simp only [jobs, s.core.chunks_eq hk, List.mem_flatMap, List.mem_map, List.mem_range] at hjob
  obtain ⟨_, ⟨i, hi, rfl⟩, _, _, rfl⟩ := hjob
  exact hi

theorem exists_last_job (hk : 0 < s.core.chunkSize) (hclusters : s.core.clusters ≠ [])
    {items : List Item} (hn : 0 < (items.length + s.core.chunkSize - 1) / s.core.chunkSize) :
    ∃ job ∈ s.jobs items, job.number = (items.length + s.core.chunkSize - 1) / s.core.chunkSize := by
  obtain ⟨c, others, hc⟩ := List.exists_cons_of_ne_nil hclusters
  simp only [jobs, s.core.chunks_eq hk, List.mem_flatMap, List.mem_map, List.mem_range, hc,
    List.mem_cons]
  -- the last chunk, bound for the first cluster
  exact ⟨_, ⟨_, ⟨_, Nat.sub_lt hn Nat.one_pos, rfl⟩, c, .inl rfl, rfl⟩, Nat.sub_add_cancel hn⟩

theorem foldl_max_numbers (hk : 0 < s.core.chunkSize) (hclusters : s.core.clusters ≠ [])
    (items : List Item) :
    ((s.jobs items).map (·.number)).foldl max 0 =
      (items.length + s.core.chunkSize - 1) / s.core.chunkSize := by
  refine SenderResponse.foldl_max_eq ?_ (Nat.zero_le _) ?_
  · intro n hn
    obtain ⟨job, hjob, rfl⟩ := List.mem_map.1 hn
    exact number_le_of_mem_jobs hk hjob
  · rcases Nat.eq_zero_or_pos ((items.length + s.core.chunkSize - 1) / s.core.chunkSize) with
      h0 | hpos
    · exact .inl h0.symm
    · obtain ⟨job, hjob, hnum⟩ := exists_last_job hk hclusters hpos
      exact .inr (hnum ▸ List.mem_map_of_mem hjob)

theorem ofReplies_of_send (net : Network σ) (hk : 0 < s.core.chunkSize)
    (hclusters : s.core.clusters ≠ []) (items : List Item) (st : σ) (log : List Contact)
    {r : SenderResponse} (h : ((s.send net.logging items).outcome (st, log)).1 = .ok (.ok r)) :
    ∃ replies, r = SenderResponse.ofReplies replies ∧
      replies.map (·.2.chunk) = (s.jobs items).map (·.number) ∧
      r.chunk = (items.length + s.core.chunkSize - 1) / s.core.chunkSize := by
  obtain ⟨cs, -, hdel⟩ := delivery_send net s hclusters items st log
  rw [h, ← SenderResponse.ofReplies_nil] at hdel
  obtain ⟨replies, hr, hc⟩ := hdel.ofReplies_eq
  rw [List.nil_append] at hr
  refine ⟨replies, hr, hc, ?_⟩
  rw [hr, ← foldl_max_numbers hk hclusters items, ← hc]
  rfl

section Agreement

variable {s₁ s₂ : Sender} (hcore : s₁.core = s₂.core) (hkeeps : s₁.keeps = s₂.keeps)
include hcore hkeeps

theorem outcome_connectFirst_congr (net : Network σ) (c : Cluster) (nodes : List Node) :
    (s₁.connectFirst net c nodes).outcome = (s₂.connectFirst net c nodes).outcome := by
  induction nodes with
  | nil => rfl
  | cons node rest ih =>
    funext st
    obtain ⟨e₁, h₁⟩ := outcome_connect net s₁ node st
    obtain ⟨e₂, h₂⟩ := outcome_connect net s₂ node st
    simp only [connectFirst, NetM.outcome_debug_bind, NetM.outcome_attempt_bind, h₁, h₂, hcore,
      hkeeps]
    split_ifs
    · rfl
    · simp only [NetM.outcome_debug_bind, ih]

theorem outcome_sendToCluster_congr (net : Network σ) (p : Packet) (number : Nat)
    (resp : SenderResponse) (c : Cluster) :
    (s₁.sendToCluster net p number resp c).outcome =
      (s₂.sendToCluster net p number resp c).outcome := by
  refine NetM.outcome_bind_congr (outcome_connectFirst_congr hcore hkeeps net c c.nodes)
    fun node => NetM.outcome_bind_congr ?_ fun _ => rfl
  funext st
  simp only [Link.outcome_send, link, hcore]

theorem outcome_sendChunk_congr (net : Network σ) (p : Packet) (number : Nat)
    (clusters : List Cluster) (resp : SenderResponse) :
    (s₁.sendChunk net p number resp clusters).outcome =
      (s₂.sendChunk net p number resp clusters).outcome := by
  induction clusters generalizing resp with
  | nil => rfl
  | cons c rest ih =>
    refine NetM.outcome_bind_congr (outcome_sendToCluster_congr hcore hkeeps net p number resp c)
      fun sum => ?_
    cases sum with
    | error m => rfl
    | ok resp' => exact ih resp'

theorem outcome_send_congr (net : Network σ) (items : List Item) :
    (s₁.send net items).outcome = (s₂.send net items).outcome := by
  rw [send, send, hcore]
  refine NetM.outcome_foldlM_congr (fun sum chunk => ?_) _ _
  cases sum with
  | error m => rfl
  | ok resp =>
    refine NetM.outcome_bind_congr (by rw [hcore]) fun p => ?_
    rw [hcore]
    exact outcome_sendChunk_congr hcore hkeeps net p chunk.1 s₂.core.clusters resp

end Agreement

/-- The delivery of items by a sender with a positive chunk size and at least one cluster, on
any network. Chunk `i + 1` holds the items from `i * chunkSize` on. The network is asked
exactly what `Delivery` allows: every cluster gets every chunk, in order, through the first of
its nodes that gives a connection the sender keeps, and the first failure or a sum that cannot
be formed ends the send. A send that goes through answers with the summary of one answer for
each job in order: the details of every answer, counters that are their sums modulo
`SenderResponse.counterBound`, their exact total time, and the number of chunks. A sender in
another mode that keeps the same connections gives the same result and leaves the network in
the same state. -/
theorem send_delivers_chunks_in_order (net : Network σ) (s : Sender) (hk : 0 < s.core.chunkSize)
    (hclusters : s.core.clusters ≠ []) (items : List Item) (st : σ) :
    s.core.chunks items =
        (List.range ((items.length + s.core.chunkSize - 1) / s.core.chunkSize)).map
          (fun i => (i + 1, (items.drop (i * s.core.chunkSize)).take s.core.chunkSize)) ∧
      Delivery s {} (s.jobs items) ((s.send net.logging items).outcome (st, [])).2.2
        ((s.send net.logging items).outcome (st, [])).1 ∧
      (∀ r, ((s.send net.logging items).outcome (st, [])).1 = .ok (.ok r) →
        ∃ replies, r = SenderResponse.ofReplies replies ∧
          replies.map (·.2.chunk) = (s.jobs items).map (·.number) ∧
          r.chunk = (items.length + s.core.chunkSize - 1) / s.core.chunkSize) ∧
      ∀ mode, { s with mode := mode }.keeps = s.keeps →
        ({ s with mode := mode }.send net items).outcome st = (s.send net items).outcome st := by
  refine ⟨s.core.chunks_eq hk items, ?_, fun r h => ofReplies_of_send net hk hclusters items st [] h,
    fun mode hkeeps => ?_⟩
  · obtain ⟨cs, hlog, hdel⟩ := delivery_send net s hclusters items st []
    rw [hlog, List.nil_append]
    exact hdel
  · -- only the mode differs, and it is seen only through the connections kept
    have hcore : ({ s with mode := mode } : Sender).core = s.core := rfl
    exact congrFun (outcome_send_congr hcore hkeeps net items) st

theorem chunks_of_three_items_by_two :
    0 < ({ core := ⟨[⟨[⟨"a", 10051⟩]⟩], 2, false, ⟨3, 0⟩⟩ } : Sender).core.chunkSize ∧
      ({ core := ⟨[⟨[⟨"a", 10051⟩]⟩], 2, false, ⟨3, 0⟩⟩ } : Sender).core.clusters ≠ [] ∧
      ({ core := ⟨[⟨[⟨"a", 10051⟩]⟩], 2, false, ⟨3, 0⟩⟩ } : Sender).core.chunks
          [⟨"h", "a", "1", none, none⟩, ⟨"h", "b", "2", none, none⟩, ⟨"h", "c", "3", none, none⟩] =
        [(1, [⟨"h", "a", "1", none, none⟩, ⟨"h", "b", "2", none, none⟩]),
          (2, [⟨"h", "c", "3", none, none⟩])] := by
  refine ⟨by decide, by decide, ?_⟩
  rw [(send_delivers_chunks_in_order
    (⟨fun _ _ st => (.timedOut, st), fun _ _ _ st => (.silent, st)⟩ : Network Unit)
    { core := ⟨[⟨[⟨"a", 10051⟩]⟩], 2, false, ⟨3, 0⟩⟩ } (by decide) (by decide)
    [⟨"h", "a", "1", none, none⟩, ⟨"h", "b", "2", none, none⟩, ⟨"h", "c", "3", none, none⟩]
    ()).1]
  rfl

end Sender

/-- Two answers whose processed counts add up to the counter bound: the summary a send answers
with counts nothing processed. -/
theorem processed_count_wraps_in_summary :
    (SenderResponse.ofReplies
      [(⟨"a", 10051⟩, ⟨18446744073709551615, 0, 18446744073709551615, ⟨0, 57000⟩, 1⟩),
        (⟨"b", 10051⟩, ⟨1, 0, 1, ⟨0, 57000⟩, 1⟩)]).processed = 0 :=
  rfl

end MonitorWire
