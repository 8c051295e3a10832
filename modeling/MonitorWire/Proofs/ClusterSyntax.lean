import Mathlib
import MonitorWire.Cluster
import MonitorWire.Proofs.TextForms

namespace MonitorWire

open Text

section Traverse

variable {ε α β : Type}

theorem except_bind_eq_ok {x : Except ε α} {f : α → Except ε β} {b : β} :
    x >>= f = .ok b ↔ ∃ a, x = .ok a ∧ f a = .ok b := by
  cases x <;> simp [bind, Except.bind]

theorem exists_of_mapM_eq_ok {f : α → Except ε β} :
    ∀ {xs : List α} {ys : List β}, xs.mapM f = .ok ys → ∀ y ∈ ys, ∃ x ∈ xs, f x = .ok y
  | [], ys, h, y, hy => by
    simp only [List.mapM_nil, pure, Except.pure, Except.ok.injEq] at h
    subst h
    cases hy
  | x :: xs, ys, h, y, hy => by
    rw [List.mapM_cons, except_bind_eq_ok] at h
    obtain ⟨b, hb, h⟩ := h
    rw [except_bind_eq_ok] at h
    obtain ⟨bs, hbs, h⟩ := h
    simp only [pure, Except.pure, Except.ok.injEq] at h
    subst h
    rcases List.mem_cons.1 hy with rfl | hy
    · exact ⟨x, List.mem_cons_self, hb⟩
    · obtain ⟨x', hx', hf⟩ := exists_of_mapM_eq_ok hbs y hy
      exact ⟨x', List.mem_cons_of_mem x hx', hf⟩

theorem mapM_map_eq_ok {f : α → Except ε β} {g : β → α} :
    ∀ {ys : List β}, (∀ y ∈ ys, f (g y) = .ok y) → (ys.map g).mapM f = .ok ys
  | [], _ => rfl
  | y :: ys, h => by
    rw [List.map_cons, List.mapM_cons, h y List.mem_cons_self,
      mapM_map_eq_ok (fun y' hy' => h y' (List.mem_cons_of_mem y hy'))]
    rfl

end Traverse

namespace Node

structure Readable (n : Node) : Prop where
  port_lt : n.port < 65536
  address_ne_any : n.address ≠ anyAddress
  head_not_space : ∀ c ∈ n.address.toList.head?, isSpace c = false

theorem make_readable {address : String} {port : Nat} (hport : port < 65536)
    (hhead : ∀ c ∈ address.toList.head?, isSpace c = false) : (make address port).Readable := by
  unfold make
  split
  · have hhead : localhost.toList.head? = some '1' := rfl
    refine ⟨hport, show localhost ≠ anyAddress by decide, fun c hc => ?_⟩
    rw [hhead, Option.mem_some_iff] at hc
    subst hc
    rfl
  · rename_i hany
    exact ⟨hport, by simpa using hany, hhead⟩

theorem mem_make_address {address : String} {port : Nat} {c : Char}
    (h : c ∈ (make address port).address.toList) : c ∈ address.toList ∨ c ∈ localhost.toList := by
  unfold make at h
  split at h
  · exact .inr h
  · exact .inl h

theorem readable_of_parse {raw : String} {n : Node} (h : parse raw = .ok n) :
    n.Readable ∧ ∀ c ∈ n.address.toList, c ∈ raw.toList ∨ c ∈ localhost.toList := by
  unfold parse at h
  dsimp only at h
  -- the trimmed text starts with no blank and holds only characters of the text
  have hhead := head_trimChars raw.toList
  have hmem : ∀ c ∈ (trim raw).toList, c ∈ raw.toList := fun c hc =>
    mem_of_mem_trimChars (by simpa [trim] using hc)
  split at h
  · cases h
  · split at h
    · rename_i address port hsplit
      split at h
      · rename_i p hp
        cases h
        obtain ⟨htext, -⟩ := splitLast_eq_some_iff.1 hsplit
        -- the address is the start of the trimmed text
        have hpre : address.toList <+: (trim raw).toList := by
          rw [htext]
          exact List.prefix_append _ _
        refine ⟨make_readable (parseUnsigned_lt hp) fun c hc => hhead c ?_, fun c hc => ?_⟩
        · rw [List.prefix_iff_eq_take.1 hpre, List.head?_take] at hc
          split at hc
          · cases hc
          · simpa [trim] using hc
        · rcases mem_make_address hc with hc | hc
          · exact .inl (hmem c (hpre.subset hc))
          · exact .inr hc
      · cases h
    · cases h
      refine ⟨make_readable (by decide) fun c hc => hhead c (by simpa [trim] using hc),
        fun c hc => ?_⟩
      rcases mem_make_address hc with hc | hc
      · exact .inl (hmem c hc)
      · exact .inr hc

theorem toList_display (n : Node) :
    n.display.toList = (n.address.toList ++ [':']) ++ (toString n.port).toList := by
  simp [display]

theorem trim_display {n : Node} (h : n.Readable) : trim n.display = n.display := by
  have hdigits : (toString n.port).toList ≠ [] := by simp
  rw [trim, trimChars_eq_self, String.ofList_toList]
  · intro c hc
    rw [toList_display, List.append_assoc, List.singleton_append] at hc
    cases ha : n.address.toList with
    | nil =>
      rw [ha, List.nil_append, List.head?_cons, Option.mem_some_iff] at hc
      subst hc
      decide
    | cons a rest => exact h.head_not_space c (by simpa [ha] using hc)
  · intro c hc
    rw [toList_display, List.getLast?_append_of_ne_nil _ hdigits] at hc
    exact isSpace_of_isDigit (isDigit_of_mem_toString (List.mem_of_getLast? hc))

theorem parse_display {n : Node} (h : n.Readable) : parse n.display = .ok n := by
  have hcolon : ':' ∉ (toString n.port).toList := fun hc =>
    absurd (isDigit_of_mem_toString hc) (by decide)
  have hsplit : splitLast ':' n.display = some (n.address, toString n.port) :=
    splitLast_eq_some_iff.2 ⟨by simp [toList_display], hcolon⟩
  have hmake : make n.address n.port = n := by
    simp [make, h.address_ne_any]
  unfold parse
  dsimp only
  rw [trim_display h, if_neg (by simp [String.isEmpty_iff, display]), hsplit]
  dsimp only
  rw [parseUnsigned_toString h.port_lt]
  dsimp only
  rw [hmake]

end Node

theorem mem_of_mem_intercalate {α : Type} {sep : List α} {x : α} :
    ∀ {l : List (List α)}, x ∈ sep.intercalate l → x ∈ sep ∨ ∃ p ∈ l, x ∈ p
  | [], h => by simp at h
  | [p], h => .inr ⟨p, List.mem_singleton_self p, by simpa using h⟩
  | p :: q :: rest, h => by
    rw [List.intercalate_cons_cons, List.mem_append, List.mem_append] at h
    rcases h with (h | h) | h
    · exact .inr ⟨p, List.mem_cons_self, h⟩
    · exact .inl h
    · rcases mem_of_mem_intercalate h with h | ⟨p', hp', h⟩
      · exact .inl h
      · exact .inr ⟨p', List.mem_cons_of_mem p hp', h⟩

namespace Cluster

/-- What reading guarantees of a cluster in a list of clusters: at least one node, every node
readable, and no separator in any address. -/
structure Readable (c : Cluster) : Prop where
  nodes_ne_nil : c.nodes ≠ []
  node_readable : ∀ n ∈ c.nodes, n.Readable
  no_separator : ∀ n ∈ c.nodes, ',' ∉ n.address.toList ∧ ';' ∉ n.address.toList

def render (c : Cluster) : String := ";".intercalate (c.nodes.map Node.display)

theorem readable_of_parse {raw : String} {c : Cluster} (h : parse raw = .ok c)
    (hcomma : ',' ∉ raw.toList) : c.Readable := by
  rw [parse, except_bind_eq_ok] at h
  obtain ⟨nodes, hnodes, hof⟩ := h
  unfold ofNodes at hof
  split at hof
  · cases hof
  · rename_i hne
    cases hof
    refine ⟨by simpa using hne, fun n hn => ?_, fun n hn => ?_⟩
    all_goals
      obtain ⟨piece, hpiece, hparse⟩ := exists_of_mapM_eq_ok hnodes n hn
      have hsplit := (List.mem_filter.1 hpiece).1
      obtain ⟨hreadable, hchars⟩ := Node.readable_of_parse hparse
    · exact hreadable
    · -- an address character comes from the piece, which has no separator, or is one of the
      -- local host address
      have hfrom : ∀ x ∈ n.address.toList, x ∈ raw.toList ∧ x ≠ ';' ∨ x ∈ Node.localhost.toList :=
        fun x hx => (hchars x hx).imp_left (mem_of_mem_splitChar hsplit)
      refine ⟨fun hx => ?_, fun hx => ?_⟩
      · rcases hfrom ',' hx with ⟨hraw, -⟩ | hlocal
        · exact hcomma hraw
        · exact absurd hlocal (by decide)
      · rcases hfrom ';' hx with ⟨-, hne⟩ | hlocal
        · exact hne rfl
        · exact absurd hlocal (by decide)

theorem not_mem_display {n : Node} {x : Char} (hx : x ∉ n.address.toList) (hcolon : x ≠ ':')
    (hdigit : x.isDigit = false) : x ∉ n.display.toList := by
  rw [Node.toList_display]
  simp only [List.mem_append, List.mem_singleton, not_or]
  exact ⟨⟨hx, hcolon⟩, fun h => by simp [isDigit_of_mem_toString h] at hdigit⟩

theorem isBlank_display (n : Node) : isBlank n.display = false := by
  have hcolon : ':' ∈ n.display.toList := by simp [Node.toList_display]
  rw [isBlank, List.all_eq_false]
  exact ⟨':', hcolon, by decide⟩

theorem parse_render {c : Cluster} (h : c.Readable) : parse c.render = .ok c := by
  have hsemi : ∀ p ∈ c.nodes.map Node.display, ';' ∉ p.toList := by
    simp only [List.mem_map, forall_exists_index, and_imp, forall_apply_eq_imp_iff₂]
    exact fun n hn => not_mem_display (h.no_separator n hn).2 (by decide) (by decide)
  have hsplit : splitChar ';' c.render = c.nodes.map Node.display :=
    splitChar_intercalate ';' (by simpa using h.nodes_ne_nil) hsemi
  have hfilter : (c.nodes.map Node.display).filter (fun p => !isBlank p) =
      c.nodes.map Node.display := by
    simp [List.filter_eq_self, isBlank_display]
  rw [parse, hsplit, hfilter,
    mapM_map_eq_ok fun n hn => Node.parse_display (h.node_readable n hn)]
  simp [bind, Except.bind, ofNodes, h.nodes_ne_nil]

theorem comma_not_mem_render {c : Cluster} (h : c.Readable) : ',' ∉ c.render.toList := by
  intro hc
  rw [render, String.toList_intercalate] at hc
  rcases mem_of_mem_intercalate hc with hc | ⟨p, hp, hc⟩
  · exact absurd hc (by decide)
  · simp only [List.map_map, List.mem_map, Function.comp_apply] at hp
    obtain ⟨n, hn, rfl⟩ := hp
    exact not_mem_display (h.no_separator n hn).1 (by decide) (by decide) hc

theorem isBlank_render {c : Cluster} (h : c.Readable) : isBlank c.render = false := by
  obtain ⟨n, rest, hnodes⟩ := List.exists_cons_of_ne_nil h.nodes_ne_nil
  have hcolon : ':' ∈ c.render.toList := by
    rw [render, String.toList_intercalate, hnodes]
    cases rest <;> simp [Node.toList_display, List.intercalate_cons_cons]
  rw [isBlank, List.all_eq_false]
  exact ⟨':', hcolon, by decide⟩

end Cluster

def renderClusters (cs : List Cluster) : String := ",".intercalate (cs.map Cluster.render)

theorem readable_of_parseClusters {s : String} {cs : List Cluster} (h : parseClusters s = .ok cs) :
    cs ≠ [] ∧ ∀ c ∈ cs, c.Readable := by
  rw [parseClusters, except_bind_eq_ok] at h
  obtain ⟨clusters, hclusters, hne⟩ := h
  split at hne
  · cases hne
  · rename_i hempty
    cases hne
    refine ⟨by simpa using hempty, fun c hc => ?_⟩
    obtain ⟨piece, hpiece, hparse⟩ := exists_of_mapM_eq_ok hclusters c hc
    have hcomma : ',' ∉ piece.toList := fun hx =>
      (mem_of_mem_splitChar (List.mem_filter.1 hpiece).1 hx).2 rfl
    exact Cluster.readable_of_parse hparse hcomma

theorem parseClusters_renderClusters {cs : List Cluster} (hne : cs ≠ [])
    (h : ∀ c ∈ cs, c.Readable) : parseClusters (renderClusters cs) = .ok cs := by
  have hsplit : splitChar ',' (renderClusters cs) = cs.map Cluster.render := by
    refine splitChar_intercalate ',' (by simpa using hne) ?_
    simp only [List.mem_map, forall_exists_index, and_imp, forall_apply_eq_imp_iff₂]
    exact fun c hc => Cluster.comma_not_mem_render (h c hc)
  have hfilter : (cs.map Cluster.render).filter (fun p => !isBlank p) = cs.map Cluster.render := by
    rw [List.filter_eq_self]
    simp only [List.mem_map, forall_exists_index, and_imp, forall_apply_eq_imp_iff₂]
    exact fun c hc => by simp [Cluster.isBlank_render (h c hc)]
  rw [parseClusters, hsplit, hfilter,
    mapM_map_eq_ok fun c hc => Cluster.parse_render (h c hc)]
  simp [bind, Except.bind, hne, pure, Except.pure]

/-- The server address syntax reads back what it writes: clusters read from a text are read
again, the same and in the same order, from their nodes printed `address:port`, joined by `;`
within a cluster and by `,` between clusters; a node read from a text is read again from its
printed form. -/
theorem server_address_round_trip :
    (∀ s cs, parseClusters s = .ok cs → parseClusters (renderClusters cs) = .ok cs) ∧
      ∀ s n, Node.parse s = .ok n → Node.parse n.display = .ok n := by
  refine ⟨fun s cs h => ?_, fun s n h => Node.parse_display (Node.readable_of_parse h).1⟩
  obtain ⟨hne, hreadable⟩ := readable_of_parseClusters h
  exact parseClusters_renderClusters hne hreadable

theorem server_address_round_trip_failover :
    let clusters : List Cluster :=
      [⟨[⟨"zbx-a", 10051⟩, ⟨"zbx-b", 20051⟩]⟩, ⟨[⟨"proxy", 10055⟩]⟩]
    let loopback : Node := ⟨"127.0.0.1", 10052⟩
    parseClusters "zbx-a;zbx-b:20051, proxy:10055" = .ok clusters ∧
      parseClusters (renderClusters clusters) = .ok clusters ∧
      Node.parse "0.0.0.0/0:10052" = .ok loopback ∧ Node.parse loopback.display = .ok loopback := by
  intro clusters loopback
  have hclusters : parseClusters "zbx-a;zbx-b:20051, proxy:10055" = .ok clusters := by
    decide +kernel
  have hlocal : Node.parse "0.0.0.0/0:10052" = .ok loopback := by
    decide +kernel
  exact ⟨hclusters, server_address_round_trip.1 _ _ hclusters, hlocal,
    server_address_round_trip.2 _ _ hlocal⟩

end MonitorWire
