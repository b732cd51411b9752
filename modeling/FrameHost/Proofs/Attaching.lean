import FrameHost.Proofs.Subtrees

/-!
# Attaching by a list of what is left

A subtree is attached by a loop over the nodes that are still to be visited: the loop takes one of
them, marks it and adds its children (`visit`). Nothing tells it which nodes it has seen, so that it
comes to an end rests on the page. A container is made around nodes that were made before it, and
later it can only lose children, so a child always has a smaller number than its parent
(`Grown.layered`). By induction on the number, the loop visits all that lies under a node and then
goes on with what was left before (`iterate_visit`); a node under several others is visited several
times, and marked the same each time. So the loop does what `setAttached` says, on every page that
operations on known nodes can make (`Grown.attaching_exact`).
-/

namespace FrameHost.Page

/-! ## Pages that operations make -/

/-- The page came about by operations that returned the nodes `given`, the last one first. An
operation is only given nodes that were returned before it. -/
inductive Grown : Page → List NodeId → Prop where
  | blank (origin : String) : Grown { origin } []
  | insertElement {p given} (h : Grown p given) (domId className : String) :
      Grown (p.insertElement domId className).1 ((p.insertElement domId className).2 :: given)
  | createIframe {p given} (h : Grown p given) (domId src : String) (style : Style) :
      Grown (p.createIframe domId src style).1 ((p.createIframe domId src style).2 :: given)
  | createLoader {p given} (h : Grown p given) (domId : String) (style : Style) :
      Grown (p.createLoader domId style).1 ((p.createLoader domId style).2 :: given)
  | createPlaceholder {p given} (h : Grown p given) (domId className text : String) :
      Grown (p.createPlaceholder domId className text).1
        ((p.createPlaceholder domId className text).2 :: given)
  | createContainer {p given} (h : Grown p given) (domId : String) (style : Style)
      {children : List NodeId} (hchildren : ∀ c ∈ children, c ∈ given) :
      Grown (p.createContainer domId style children).1
        ((p.createContainer domId style children).2 :: given)
  | replace {p given} (h : Grown p given) {old new : NodeId} (hold : old ∈ given)
      (hnew : new ∈ given) : Grown (p.replace old new) given
  | remove {p given} (h : Grown p given) {n : NodeId} (hn : n ∈ given) : Grown (p.remove n) given
  | setStyle {p given} (h : Grown p given) {n : NodeId} (hn : n ∈ given) (style : Style) :
      Grown (p.setStyle n style) given
  | showDocument {p given} (h : Grown p given) {n : NodeId} (hn : n ∈ given) (html : String) :
      Grown (p.showDocument n html) given
  | onLoad {p given} (h : Grown p given) {n : NodeId} (hn : n ∈ given) (hook : LoadHook) :
      Grown (p.onLoad n hook) given
  /-- An iframe loads; what its hooks do on the page are operations of their own. -/
  | takeLoads {p given} (h : Grown p given) {n : NodeId} (hn : n ∈ given) :
      Grown (p.takeLoads n).2 given
  | afterPaint {p given} (h : Grown p given) (hook : PaintHook) : Grown (p.afterPaint hook) given
  /-- The first hook on the next paint is taken, to be called. -/
  | takePaint {p given} (h : Grown p given) : Grown { p with paints := p.paints.tail } given
  | addListener {p given} (h : Grown p given) (l : Listener) : Grown (p.addListener l).1 given
  | removeListener {p given} (h : Grown p given) (id : ListenerId) :
      Grown (p.removeListener id) given
  | post {p given} (h : Grown p given) {message : Posted} (hn : message.target ∈ given) :
      Grown (p.post message) given
  | takePosted {p given} (h : Grown p given) : Grown { p with posted := [] } given

variable {p p' : Page} {given : List NodeId} {root n : NodeId} {attached : Bool}

/-! ## Children are made before their parents -/

/-- The nodes of the page are those in `given`, each was made before the next number, and a node has
children among them that were made before it. -/
structure Layered (p : Page) (given : List NodeId) : Prop where
  minted : ∀ n ∈ given, n ≤ p.lastId
  nodes : ∀ n, (p.node? n).isSome ↔ n ∈ given
  children : ∀ n, ∀ c ∈ p.childrenOf n, c ∈ given ∧ c < n

/-- A blank page is layered, with nothing given away. -/
theorem layered_blank (origin : String) : Layered { origin } [] where
  minted _ hn := by cases hn
  nodes _ := ⟨fun h => (by cases h), fun h => (by cases h)⟩
  children _ _ hc := by cases hc

/-- No node is added, and nodes can only lose children. -/
theorem Layered.of_subset (h : p.Layered given) (hlast : p.lastId ≤ p'.lastId)
    (hnodes : ∀ n, (p'.node? n).isSome = (p.node? n).isSome)
    (hchildren : ∀ n, p'.childrenOf n ⊆ p.childrenOf n) : p'.Layered given where
  minted n hn := Nat.le_trans (h.minted n hn) hlast
  nodes n := by rw [hnodes, h.nodes]
  children n c hc := h.children n c (hchildren n hc)

/-- Nodes are changed, but not their children. -/
theorem Layered.of_children (h : p.Layered given) (hlast : p.lastId ≤ p'.lastId)
    (hsame : ∀ n, (p'.node? n).map Node.children = (p.node? n).map Node.children) :
    p'.Layered given := by
  refine h.of_subset hlast (fun n => ?_) fun n => ?_
  · rw [← Option.isSome_map (f := Node.children), hsame, Option.isSome_map]
  · rw [childrenOf_congr (hsame n)]
    exact List.Subset.refl _

/-- Attaching or detaching a subtree moves no child, so the layers stay. -/
theorem Layered.setAttached (h : p.Layered given) (root : NodeId) (attached : Bool) :
    (p.setAttached root attached).Layered given :=
  h.of_children (Nat.le_refl _) fun n => map_node?_setAttached root n attached fun _ => rfl

/-- Removing a node moves no child either. -/
theorem Layered.remove (h : p.Layered given) (m : NodeId) : (p.remove m).Layered given := by
  have hdetached := h.setAttached m false
  unfold Page.remove
  dsimp only
  split
  · exact hdetached
  · -- The parent lists one node less.
    refine hdetached.of_subset (Nat.le_refl _) (fun n => ?_) fun n => ?_
    · rw [node?_modify]
      split
      · exact Option.isSome_map
      · rfl
    · unfold childrenOf
      rw [node?_modify]
      split
      · cases (p.setAttached m false).node? n with
        | none => exact List.Subset.refl _
        | some node => exact List.filter_sublist.subset
      · exact List.Subset.refl _

/-- A node is added around nodes that are there; others may change, but not their children. -/
theorem Layered.of_new (h : p.Layered given) {children : List NodeId}
    (hgiven : ∀ c ∈ children, c ∈ given) (hlast : p'.lastId = p.lastId + 1)
    (hnodes : ∀ n, (p'.node? n).map Node.children =
      if n = p.lastId + 1 then some children else (p.node? n).map Node.children) :
    p'.Layered ((p.lastId + 1) :: given) where
  minted n hn := by
    rcases List.mem_cons.mp hn with rfl | hn
    · exact Nat.le_of_eq hlast.symm
    · exact hlast ▸ Nat.le_succ_of_le (h.minted n hn)
  nodes n := by
    rw [← Option.isSome_map (f := Node.children), hnodes, List.mem_cons]
    by_cases hn : n = p.lastId + 1
    · simp [hn]
    · rw [if_neg hn, Option.isSome_map, h.nodes]
      exact ⟨.inr, fun h => h.resolve_left hn⟩
  children n c hc := by
    unfold childrenOf at hc
    rw [hnodes] at hc
    -- The children of the new node are below it.
    by_cases hn : n = p.lastId + 1
    · rw [if_pos hn] at hc
      have hc : c ∈ given := hgiven c hc
      exact ⟨List.mem_cons_of_mem _ hc, hn ▸ Nat.lt_succ_of_le (h.minted c hc)⟩
    · rw [if_neg hn] at hc
      obtain ⟨hmem, hlt⟩ := h.children n c hc
      exact ⟨List.mem_cons_of_mem _ hmem, hlt⟩

/-- A new node without children goes on top of the layers. -/
theorem Layered.add (h : p.Layered given) {node : Node} (hchildren : node.children = []) :
    (p.add node).1.Layered ((p.add node).2 :: given) := by
  have hnodes : ∀ n, ((p.add node).1.node? n).map Node.children =
      if n = p.lastId + 1 then some [] else (p.node? n).map Node.children := fun n => by
    rw [map_node?_add, hchildren]
  exact h.of_new (fun c hc => by cases hc) rfl hnodes

/-- A container made over given nodes is the one node left to give. -/
theorem Layered.createContainer (h : p.Layered given) (domId : String) (style : Style)
    {children : List NodeId} (hgiven : ∀ c ∈ children, c ∈ given) :
    (p.createContainer domId style children).1.Layered
      ((p.createContainer domId style children).2 :: given) :=
  h.of_new hgiven (lastId_createContainer _ _ _) fun n =>
    map_node?_createContainer domId style children n fun _ _ => rfl

/-- On every page that operations make, children were made before their parents. -/
theorem Grown.layered (h : p.Grown given) : p.Layered given := by
  induction h with
  | blank origin => exact layered_blank origin
  | insertElement _ _ _ ih => exact ih.add rfl
  | createIframe _ _ _ _ ih => exact ih.add rfl
  | createLoader _ _ _ ih => exact ih.add rfl
  | createPlaceholder _ _ _ _ ih => exact ih.add rfl
  | createContainer _ domId style hchildren ih => exact ih.createContainer domId style hchildren
  -- Attaching and removing leave the edges, or take some away.
  | replace _ _ _ ih => exact (ih.setAttached _ false).setAttached _ true
  | remove _ _ ih => exact ih.remove _
  | setStyle _ _ _ ih | showDocument _ _ _ ih =>
    exact ih.of_children (Nat.le_refl _) fun m => map_node?_modify _ m fun _ => rfl
  | addListener _ _ ih => exact ih.of_children (Nat.le_succ _) fun _ => rfl
  | onLoad _ _ _ ih | takeLoads _ _ ih | afterPaint _ _ ih | takePaint _ ih | removeListener _ _ ih
  | post _ _ ih | takePosted _ ih => exact ih.of_children (Nat.le_refl _) fun _ => rfl

/-- All that lies under a node that was returned was returned. -/
theorem Layered.mem_of_under (h : p.Layered given) (hroot : root ∈ given) (hn : p.Under root n) :
    n ∈ given :=
  hn.mem_of_closed hroot fun m c _ hc => (h.children m c hc).1

/-! ## Marks -/

/-- The page with the nodes of a set attached or detached. -/
def mark (p : Page) (attached : Bool) (S : NodeId → Prop) [DecidablePred S] : Page :=
  { p with nodes := p.nodes.map fun n node => if S n then { node with attached } else node }

section Mark

variable {S T : NodeId → Prop} [DecidablePred S] [DecidablePred T]

/-- Marking reads its set only up to which nodes are in it. -/
theorem mark_congr (h : ∀ n, S n ↔ T n) : p.mark attached S = p.mark attached T := by
  have hpick : (fun n (node : Node) => if S n then { node with attached } else node) =
      fun n node => if T n then { node with attached } else node :=
    funext fun n => funext fun node => if_congr (h n) rfl rfl
  unfold mark
  rw [hpick]

/-- Two node tables with the same entries are the same. -/
theorem nodes_ext {nodes nodes' : Table NodeId Node} (h : nodes.entries = nodes'.entries) :
    nodes = nodes' := by
  cases nodes
  cases nodes'
  cases h
  rfl

/-- Only the nodes of the page matter. -/
theorem mark_eq_self (h : ∀ n, S n → p.node? n = none) : p.mark attached S = p := by
  have hnodes : (p.nodes.map fun n node => if S n then { node with attached } else node) =
      p.nodes := by
    refine nodes_ext ((List.map_congr_left fun row hrow => ?_).trans (List.map_id _))
    have hsome : p.node? row.1 = some row.2 := Table.get?_eq_some_iff.mpr hrow
    have hnot : ¬ S row.1 := fun hS => by
      rw [h row.1 hS] at hsome
      cases hsome
    exact Prod.ext rfl (if_neg hnot)
  unfold mark
  rw [hnodes]

/-- A node that is marked twice is marked. -/
theorem mark_mark : (p.mark attached S).mark attached T = p.mark attached fun n => S n ∨ T n := by
  have hnodes : ((p.mark attached S).nodes.map fun n node =>
      if T n then { node with attached } else node) =
        p.nodes.map fun n node => if S n ∨ T n then { node with attached } else node := by
    refine nodes_ext ((List.map_map ..).trans (List.map_congr_left fun row _ => ?_))
    refine Prod.ext rfl ?_
    by_cases hS : S row.1 <;> by_cases hT : T row.1 <;> simp [hS, hT]
  unfold mark at hnodes ⊢
  rw [hnodes]

/-- Marking changes no children. -/
theorem childrenOf_mark (n : NodeId) : (p.mark attached S).childrenOf n = p.childrenOf n := by
  refine childrenOf_congr ?_
  unfold node? mark
  rw [Table.get?_map, Option.map_map]
  refine congrArg (fun f => Option.map f (p.nodes.get? n)) (funext fun node => ?_)
  by_cases hS : S n <;> simp [hS]

/-- Marking changes no subtree. -/
theorem under_mark (m n : NodeId) : (p.mark attached S).Under m n ↔ p.Under m n :=
  under_congr (S := fun _ => True) trivial (fun _ _ _ _ => trivial)
    (fun k _ => childrenOf_mark k) n

end Mark

/-- Attaching or detaching a node marks the nodes under it. -/
theorem setAttached_eq_mark (root : NodeId) (attached : Bool) :
    p.setAttached root attached = p.mark attached (p.Under root) :=
  mark_congr (S := (· ∈ p.subtree root)) fun _ => mem_subtree_iff

/-! ## The loop -/

/-- What lies under a node is the node and what lies under its children. -/
theorem under_iff : p.Under root n ↔ n = root ∨ ∃ c ∈ p.childrenOf root, p.Under c n := by
  constructor
  · intro h
    induction h with
    | root => exact .inl rfl
    | @child m c _ hc ih =>
      right
      rcases ih with rfl | ⟨d, hd, hm⟩
      · exact ⟨c, hc, .root⟩
      · exact ⟨d, hd, .child hm hc⟩
  · rintro (rfl | ⟨c, hc, h⟩)
    · exact .root
    · exact h.mem_of_closed (S := p.Under root) (.child .root hc) fun _ _ => .child

/-- One turn of the loop that attaches or detaches: of the nodes that are left, the one on top is
marked, and its children come on top of the others, the last child first. -/
def visit (attached : Bool) : Page × List NodeId → Page × List NodeId
  | (p, []) => (p, [])
  | (p, n :: left) =>
    match p.node? n with
    | none => (p, left)
    | some node =>
      (p.modify n fun node => { node with attached }, node.children.reverse ++ left)

/-- A visit takes one node: it marks it and goes on with its children, then with what was left. -/
theorem visit_cons (p : Page) (n : NodeId) (left : List NodeId) :
    visit attached (p, n :: left) =
      (p.mark attached (· = n), (p.childrenOf n).reverse ++ left) := by
  unfold visit childrenOf
  dsimp only
  cases hn : p.node? n with
  | none =>
    have hmissing : ∀ m, m = n → p.node? m = none := fun m hm => hm ▸ hn
    rw [mark_eq_self hmissing]
    rfl
  | some node => rfl

/-- The loop visits all that lies under some nodes, and goes on with what was left. The induction is
on a bound of the numbers of the nodes, and for each bound on the list of them. -/
theorem iterate_visit (attached : Bool) (bound : ℕ) :
    ∀ (ns : List NodeId), (∀ n ∈ ns, n < bound) → ∀ (p : Page),
      (∀ n, ∀ c ∈ p.childrenOf n, c < n) → ∀ (left : List NodeId),
        ∃ turns, (visit attached)^[turns] (p, ns ++ left) =
          (p.mark attached fun m => ∃ n ∈ ns, p.Under n m, left) := by
  have hnil : ∀ (p : Page) (left : List NodeId), ∃ turns,
      (visit attached)^[turns] (p, [] ++ left) =
        (p.mark attached fun m => ∃ n ∈ ([] : List NodeId), p.Under n m, left) := fun p left => by
    refine ⟨0, Prod.ext (mark_eq_self fun m hm => ?_).symm rfl⟩
    obtain ⟨n, hn, -⟩ := hm
    cases hn
  induction bound with
  | zero =>
    intro ns hns p _ left
    cases ns with
    | nil => exact hnil p left
    | cons n ns => exact absurd (hns n List.mem_cons_self) (Nat.not_lt_zero n)
  | succ bound ihbound =>
    intro ns hns
    induction ns with
    | nil => exact fun p _ left => hnil p left
    | cons n ns ih =>
      intro p hp left
      have hn : n < bound + 1 := hns n List.mem_cons_self
      let p₁ := p.mark attached (· = n)
      have hp₁ : ∀ m, p₁.childrenOf m = p.childrenOf m := childrenOf_mark
      -- The children have numbers below the bound before.
      obtain ⟨turns₁, h₁⟩ := ihbound (p.childrenOf n).reverse
        (fun c hc => Nat.lt_of_lt_of_le (hp n c (List.mem_reverse.mp hc)) (Nat.le_of_lt_succ hn))
        p₁ (fun m c hc => hp m c (hp₁ m ▸ hc)) (ns ++ left)
      let p₂ := p₁.mark attached fun m => ∃ c ∈ (p.childrenOf n).reverse, p₁.Under c m
      have hp₂ : ∀ m, p₂.childrenOf m = p.childrenOf m := fun m =>
        (childrenOf_mark m).trans (hp₁ m)
      obtain ⟨turns₂, h₂⟩ := ih (fun m hm => hns m (List.mem_cons_of_mem _ hm)) p₂
        (fun m c hc => hp m c (hp₂ m ▸ hc)) left
      refine ⟨turns₂ + (turns₁ + 1), ?_⟩
      rw [Function.iterate_add_apply, Function.iterate_add_apply, Function.iterate_one,
        List.cons_append, visit_cons, h₁, h₂, mark_mark, mark_mark]
      refine Prod.ext (mark_congr fun m => ?_) rfl
      have hunder : p.Under n m ↔ m = n ∨ ∃ c ∈ p.childrenOf n, p.Under c m := under_iff
      simp only [p₂, p₁, under_mark, List.mem_reverse, List.exists_mem_cons_iff]
      rw [hunder, or_assoc]

/-- The loop comes to an end with the subtree attached or detached. -/
theorem Layered.iterate_visit_root (h : p.Layered given) (root : NodeId) (attached : Bool) :
    ∃ turns, (visit attached)^[turns] (p, [root]) = (p.setAttached root attached, []) := by
  obtain ⟨turns, hturns⟩ := iterate_visit attached (root + 1) [root]
    (fun n hn => by rw [List.mem_singleton.mp hn]; exact Nat.lt_succ_self root) p
    (fun n c hc => (h.children n c hc).2) []
  refine ⟨turns, hturns.trans (Prod.ext ?_ rfl)⟩
  rw [setAttached_eq_mark]
  exact mark_congr fun m => by simp

/-- Attaching a subtree ends and is exact, on every page that operations on nodes returned earlier
make. The loop that begins with a node comes to an end, with the flag set at each node that lies
under that one; no other node changes, none of another field, and nothing else of the page. So where
a node takes the place of another, by one loop after the other, every node under the new one is
attached, every node under the old one and not under the new one is detached, and the others stay as
they are. -/
theorem Grown.attaching_exact (h : p.Grown given) :
    (∀ root attached,
      (∃ turns, (visit attached)^[turns] (p, [root]) = (p.setAttached root attached, [])) ∧
      (∀ n, (p.setAttached root attached).node? n = (p.node? n).map fun node =>
        if p.Under root n then { node with attached } else node) ∧
      (p.setAttached root attached).nodes.keys = p.nodes.keys ∧
      { p.setAttached root attached with nodes := p.nodes } = p) ∧
    ∀ old ∈ given, ∀ new ∈ given,
      (∃ turns turns' p', (visit false)^[turns] (p, [old]) = (p', []) ∧
        (visit true)^[turns'] (p', [new]) = (p.replace old new, [])) ∧
      (∀ n, p.Under new n → ∃ node, p.node? n = some node ∧
        (p.replace old new).node? n = some { node with attached := true }) ∧
      (∀ n, p.Under old n → ¬ p.Under new n → ∃ node, p.node? n = some node ∧
        (p.replace old new).node? n = some { node with attached := false }) ∧
      (∀ n, ¬ p.Under old n → ¬ p.Under new n → (p.replace old new).node? n = p.node? n) ∧
      { p.replace old new with nodes := p.nodes } = p := by
  have hlayered := h.layered
  refine ⟨fun root attached => ⟨hlayered.iterate_visit_root root attached, fun n =>
    node?_setAttached root n attached, ?_, rfl⟩, fun old hold new hnew => ⟨?_, ?_, ?_, ?_, rfl⟩⟩
  · exact List.map_map ..
  · -- A replacement is two walks: off the page, and onto it.
    obtain ⟨turns, hturns⟩ := hlayered.iterate_visit_root old false
    obtain ⟨turns', hturns'⟩ := (hlayered.setAttached old false).iterate_visit_root new true
    exact ⟨turns, turns', _, hturns, hturns'⟩
  · -- What is under the new node is attached, whether or not it was under the old one.
    intro n hn
    obtain ⟨node, hnode⟩ := Option.isSome_iff_exists.mp
      ((hlayered.nodes n).mpr (hlayered.mem_of_under hnew hn))
    refine ⟨node, hnode, ?_⟩
    rw [node?_replace, hnode, Option.map_some, if_pos hn]
  · intro n hn hnot
    obtain ⟨node, hnode⟩ := Option.isSome_iff_exists.mp
      ((hlayered.nodes n).mpr (hlayered.mem_of_under hold hn))
    refine ⟨node, hnode, ?_⟩
    rw [node?_replace, hnode, Option.map_some, if_neg hnot, if_pos hn]
  · intro n hold hnew
    rw [node?_replace]
    simp only [if_neg hnew, if_neg hold, Option.map_id']

/-- A container with an iframe in it, and with another container around the same iframe, takes the
place of an element: the loop visits the iframe twice and ends with both containers and the iframe
attached. -/
theorem attaching_shared_child :
    let element := ({ origin := "https://host.example.com" } : Page).insertElement "frame" ""
    let iframe := element.1.createIframe "iframe" "https://rooms.example.com" Style.empty
    let inner := iframe.1.createContainer "inner" Style.empty [iframe.2]
    let outer := inner.1.createContainer "outer" Style.empty [iframe.2, inner.2]
    outer.1.Grown [outer.2, inner.2, iframe.2, element.2] ∧
      (∃ turns turns' p', (visit false)^[turns] (outer.1, [element.2]) = (p', []) ∧
        (visit true)^[turns'] (p', [outer.2]) = (outer.1.replace element.2 outer.2, [])) ∧
      (outer.1.replace element.2 outer.2).isAttached iframe.2 = true ∧
      (outer.1.replace element.2 outer.2).isAttached element.2 = false := by
  intro element iframe inner outer
  have helement : element.1.Grown [element.2] := (Grown.blank _).insertElement _ _
  have hiframe : iframe.1.Grown [iframe.2, element.2] := helement.createIframe _ _ _
  have hinner : inner.1.Grown [inner.2, iframe.2, element.2] :=
    hiframe.createContainer _ _ (by simp)
  -- The iframe is a child of both containers.
  have hgrown : outer.1.Grown [outer.2, inner.2, iframe.2, element.2] :=
    hinner.createContainer _ _ (by simp)
  obtain ⟨-, hreplace⟩ := hgrown.attaching_exact
  obtain ⟨hloops, hunder, hdetached, -⟩ :=
    hreplace element.2 (by simp) outer.2 (by simp)
  obtain ⟨node, -, hnode⟩ := hunder iframe.2 (by decide +kernel)
  obtain ⟨node', -, hnode'⟩ := hdetached element.2 .root (by decide +kernel)
  exact ⟨hgrown, hloops, isAttached_of_node? hnode, isAttached_of_node? hnode'⟩

end FrameHost.Page
