import FrameHost.Proofs.Pages
import Mathlib.Data.Finset.Card
import Mathlib.Data.List.Dedup

/-!
# Subtrees

Nodes are attached and detached by subtrees. A subtree is collected in as many steps as the page has
nodes, and that is enough to collect all that lies under its root (`mem_subtree_iff`): every step that
does not find the last node finds one more node that has children. So each change of a page can be
told node by node (`node?_replace`, `node?_remove`, `lays_build`), and new nodes that take the place of
old ones attach and detach nothing else (`Adds.isAttached_replace`).
-/

namespace FrameHost.Page

variable {p p' : Page} {root : NodeId}

/-! ## What lies under a node -/

/-- A node lies under `root`: it is `root`, or a child of a node under it. -/
inductive Under (p : Page) (root : NodeId) : NodeId → Prop where
  | root : Under p root root
  | child {n c : NodeId} (hn : Under p root n) (hc : c ∈ p.childrenOf n) : Under p root c

/-- A set of nodes that has the children of its nodes has all that lies under them. -/
theorem Under.mem_of_closed {S : NodeId → Prop} (hroot : S root)
    (hclosed : ∀ n c, S n → c ∈ p.childrenOf n → S c) {n : NodeId} (h : p.Under root n) : S n := by
  induction h with
  | root => exact hroot
  | child _ hc ih => exact hclosed _ _ ih hc

/-- Where the nodes of a set with their children have the same children, the same lies under them. -/
theorem under_congr {S : NodeId → Prop} (hroot : S root)
    (hclosed : ∀ n c, S n → c ∈ p.childrenOf n → S c)
    (hsame : ∀ n, S n → p'.childrenOf n = p.childrenOf n) (n : NodeId) :
    p'.Under root n ↔ p.Under root n := by
  constructor
  · -- Inside the closed set both pages have the same edges, so either walk is in the other.
    intro h
    refine (h.mem_of_closed (S := fun m => S m ∧ p.Under root m) ⟨hroot, .root⟩ ?_).2
    rintro m c ⟨hm, hunder⟩ hc
    rw [hsame m hm] at hc
    exact ⟨hclosed m c hm hc, .child hunder hc⟩
  · intro h
    refine (h.mem_of_closed (S := fun m => S m ∧ p'.Under root m) ⟨hroot, .root⟩ ?_).2
    rintro m c ⟨hm, hunder⟩ hc
    exact ⟨hclosed m c hm hc, .child hunder ((hsame m hm).symm ▸ hc)⟩

/-! ## Collecting a subtree -/

/-- The nodes with their children are the nodes and their children. -/
theorem mem_withChildren {ns : List NodeId} {n : NodeId} :
    n ∈ p.withChildren ns ↔ n ∈ ns ∨ ∃ m ∈ ns, n ∈ p.childrenOf m := by
  unfold withChildren
  rw [List.mem_eraseDups, List.mem_append, List.mem_flatMap]

/-- One more step adds the children of what was reached. -/
theorem reached_succ (ns : List NodeId) (steps : ℕ) :
    p.reached ns (steps + 1) = p.withChildren (p.reached ns steps) := by
  induction steps generalizing ns with
  | zero => rfl
  | succ steps ih => exact ih (p.withChildren ns)

/-- What is reached from a node is under it. -/
theorem under_of_mem_reached {steps : ℕ} {n : NodeId} (h : n ∈ p.reached [root] steps) :
    p.Under root n := by
  induction steps generalizing n with
  | zero =>
    rw [List.mem_singleton.mp h]
    exact .root
  | succ steps ih =>
    rw [reached_succ] at h
    rcases mem_withChildren.mp h with h | ⟨m, hm, hn⟩
    · exact ih h
    · exact .child (ih hm) hn

/-- A list of nodes has the children of its nodes. -/
def IsFull (p : Page) (ns : List NodeId) : Prop := ∀ n ∈ ns, ∀ c ∈ p.childrenOf n, c ∈ ns

/-- A node with children is in the table. -/
theorem mem_keys_of_child {n c : NodeId} (h : c ∈ p.childrenOf n) : n ∈ p.nodes.keys := by
  by_contra hn
  have hnone : p.node? n = none := Table.lookup_eq_none hn
  unfold childrenOf at h
  rw [hnone] at h
  cases h

/-- After some steps either all is found, or more nodes of the table than steps were made. -/
theorem isFull_or_card (root : NodeId) (steps : ℕ) : p.IsFull (p.reached [root] steps) ∨
    steps + 1 ≤ ((p.reached [root] steps).toFinset ∩ p.nodes.keys.toFinset).card := by
  induction steps with
  | zero =>
    by_cases hroot : root ∈ p.nodes.keys
    · right
      refine Finset.card_pos.mpr ⟨root, ?_⟩
      rw [Finset.mem_inter, List.mem_toFinset, List.mem_toFinset]
      exact ⟨List.mem_singleton_self root, hroot⟩
    · left
      intro n hn c hc
      rw [List.mem_singleton.mp hn] at hc
      exact absurd (mem_keys_of_child hc) hroot
  | succ steps ih =>
    by_cases hfull : p.IsFull (p.reached [root] (steps + 1))
    · exact .inl hfull
    · right
      -- A node whose children are not all there was found by the last step.
      unfold IsFull at hfull
      push Not at hfull
      obtain ⟨m, hm, c, hc, hnot⟩ := hfull
      rw [reached_succ] at hm hnot
      have hnew : m ∉ p.reached [root] steps := fun hold =>
        hnot (mem_withChildren.mpr (.inr ⟨m, hold, hc⟩))
      have hnotfull : ¬ p.IsFull (p.reached [root] steps) := by
        intro hfull
        rcases mem_withChildren.mp hm with hold | ⟨n, hn, hchild⟩
        · exact hnew hold
        · exact hnew (hfull n hn m hchild)
      have hcard := ih.resolve_left hnotfull
      refine Nat.lt_of_le_of_lt hcard (Finset.card_lt_card ?_)
      rw [Finset.ssubset_iff_of_subset]
      · refine ⟨m, ?_, fun hmem => ?_⟩
        · rw [Finset.mem_inter, List.mem_toFinset, List.mem_toFinset, reached_succ]
          exact ⟨hm, mem_keys_of_child hc⟩
        · rw [Finset.mem_inter, List.mem_toFinset] at hmem
          exact hnew hmem.1
      · intro n hn
        rw [Finset.mem_inter, List.mem_toFinset, List.mem_toFinset] at hn ⊢
        rw [reached_succ]
        exact ⟨mem_withChildren.mpr (.inl hn.1), hn.2⟩

/-- A subtree has the children of all its nodes. -/
theorem isFull_subtree (root : NodeId) : p.IsFull (p.subtree root) := by
  rcases isFull_or_card (p := p) root p.nodes.size with hfull | hcard
  · exact hfull
  · have hkeys : p.nodes.keys.toFinset.card ≤ p.nodes.size := by
      refine Nat.le_trans (List.toFinset_card_le _) ?_
      unfold Table.keys Table.size
      rw [List.length_map]
    have hsub : (p.reached [root] p.nodes.size).toFinset ∩ p.nodes.keys.toFinset ⊆
        p.nodes.keys.toFinset := Finset.inter_subset_right
    have hinter := Finset.card_le_card hsub
    omega

/-- A node is reached from itself in no step. -/
theorem mem_reached_self (root : NodeId) (steps : ℕ) : root ∈ p.reached [root] steps := by
  induction steps with
  | zero => exact List.mem_singleton_self root
  | succ steps ih =>
    rw [reached_succ]
    exact mem_withChildren.mpr (.inl ih)

/-- The subtree at a node is what lies under it. -/
theorem mem_subtree_iff {n : NodeId} : n ∈ p.subtree root ↔ p.Under root n := by
  refine ⟨under_of_mem_reached, fun h => ?_⟩
  exact h.mem_of_closed (mem_reached_self root _) fun m c hm hc => isFull_subtree root m hm c hc

instance (p : Page) (root n : NodeId) : Decidable (p.Under root n) :=
  decidable_of_iff _ mem_subtree_iff

/-! ## Attaching and detaching -/

/-- Nodes with the same children field have the same children. -/
theorem childrenOf_congr {n : NodeId}
    (h : (p'.node? n).map Node.children = (p.node? n).map Node.children) :
    p'.childrenOf n = p.childrenOf n := by
  unfold childrenOf
  rw [h]

/-- The children of a node are those in its record. -/
theorem childrenOf_of_node? {n : NodeId} {node : Node} (h : p.node? n = some node) :
    p.childrenOf n = node.children := by
  unfold childrenOf
  rw [h]
  rfl

/-- Attaching or detaching a node says so of every node under it, and of no other. -/
theorem node?_setAttached (root n : NodeId) (attached : Bool) :
    (p.setAttached root attached).node? n =
      (p.node? n).map fun node => if p.Under root n then { node with attached } else node := by
  unfold node? setAttached
  dsimp only
  rw [Table.get?_map]
  refine congrArg (fun f => Option.map f (p.nodes.get? n)) (funext fun node => ?_)
  exact if_congr mem_subtree_iff rfl rfl

/-- Attaching or detaching a node moves none. -/
theorem under_setAttached (root m n : NodeId) (attached : Bool) :
    (p.setAttached root attached).Under m n ↔ p.Under m n :=
  under_congr (S := fun _ => True) trivial (fun _ _ _ _ => trivial)
    (fun k _ => childrenOf_congr (map_node?_setAttached root k attached fun _ => rfl)) n

/-- What lies under the new node is attached, whatever lies under the old one. -/
theorem node?_replace (old new n : NodeId) :
    (p.replace old new).node? n = (p.node? n).map fun node =>
      if p.Under new n then { node with attached := true }
      else if p.Under old n then { node with attached := false } else node := by
  unfold replace
  rw [node?_setAttached, node?_setAttached, Option.map_map]
  refine congrArg (fun f => Option.map f (p.node? n)) (funext fun node => ?_)
  dsimp only [Function.comp]
  have hnew := under_setAttached (p := p) old new n false
  by_cases hn : p.Under new n
  · rw [if_pos hn, if_pos (hnew.mpr hn)]
    split <;> rfl
  · rw [if_neg hn, if_neg fun h => hn (hnew.mp h)]

/-- A node that is removed is detached with all that lies under it, and its parent does not list it
any more. -/
theorem node?_remove {m : NodeId} {node : Node} (hm : p.node? m = some node) {parent : NodeId}
    (hparent : node.parent = some parent) (n : NodeId) :
    (p.remove m).node? n = (p.node? n).map fun node =>
      let node := if p.Under m n then { node with attached := false } else node
      if n = parent then { node with children := node.children.filter (· ≠ m) } else node := by
  -- Taking the subtree off the page leaves the parent as it was.
  have hfound : ((p.setAttached m false).node? m).bind Node.parent = some parent := by
    rw [node?_setAttached, hm, Option.map_some, if_pos .root]
    exact hparent
  unfold remove
  dsimp only
  rw [hfound]
  show ((p.setAttached m false).nodes.modify parent _).get? n = _
  rw [Table.get?_modify]
  have hdetached := node?_setAttached (p := p) m n false
  unfold node? at hdetached ⊢
  rw [hdetached]
  -- The parent loses the child from its list.
  by_cases hn : n = parent
  · rw [if_pos hn, Option.map_map]
    refine congrArg (fun f => Option.map f (p.nodes.get? n)) (funext fun node => ?_)
    exact (if_pos hn).symm
  · rw [if_neg hn]
    refine congrArg (fun f => Option.map f (p.nodes.get? n)) (funext fun node => ?_)
    exact (if_neg hn).symm

/-- Whether a node is attached. -/
def isAttached (p : Page) (n : NodeId) : Bool := ((p.node? n).map Node.attached).getD false

/-- Nodes with the same attached field are attached alike. -/
theorem isAttached_congr {n : NodeId}
    (h : (p'.node? n).map Node.attached = (p.node? n).map Node.attached) :
    p'.isAttached n = p.isAttached n := by
  unfold isAttached
  rw [h]

/-- A node is attached as its record says. -/
theorem isAttached_of_node? {n : NodeId} {node : Node} (h : p.node? n = some node) :
    p.isAttached n = node.attached := by
  unfold isAttached
  rw [h]
  rfl

/-- What does not lie under the new node is attached as before, unless it lies under the old one. -/
theorem isAttached_replace {old new n : NodeId} (hnew : ¬ p.Under new n) :
    (p.replace old new).isAttached n = (p.isAttached n && !decide (p.Under old n)) := by
  unfold isAttached
  rw [node?_replace, Option.map_map]
  cases p.node? n with
  | none => rfl
  | some node =>
    by_cases hold : p.Under old n <;> simp [hnew, hold]

/-- Removing a node detaches what is under it. -/
theorem isAttached_remove (m n : NodeId) :
    (p.remove m).isAttached n = (p.isAttached n && !decide (p.Under m n)) := by
  have hdetached : (p.setAttached m false).isAttached n =
      (p.isAttached n && !decide (p.Under m n)) := by
    unfold isAttached
    rw [node?_setAttached, Option.map_map]
    cases p.node? n with
    | none => rfl
    | some node => by_cases hold : p.Under m n <;> simp [hold]
  rw [← hdetached]
  unfold remove
  dsimp only
  split
  · rfl
  · -- The list of children of the parent does not matter here.
    exact isAttached_congr (map_node?_modify _ n fun _ => rfl)

/-! ## New nodes -/

/-- A new node is read under its number, and the others as before. -/
theorem node?_add (node : Node) (n : NodeId) :
    (p.add node).1.node? n = if n = p.lastId + 1 then some node else p.node? n :=
  Table.get?_insert _ _ _ _

/-- A modification is read at its own node only. -/
theorem node?_modify (m n : NodeId) (f : Node → Node) :
    (p.modify m f).node? n = if n = m then (p.node? n).map f else p.node? n :=
  Table.get?_modify _ _ _ _

/-- `p'` has the nodes of `S` more than `p`, and these have no other children. -/
structure Adds (p p' : Page) (S : NodeId → Prop) : Prop where
  fresh : ∀ n, S n → p.node? n = none
  closed : ∀ n c, S n → c ∈ p'.childrenOf n → S c
  others : ∀ n, ¬ S n → p'.node? n = p.node? n

section Adds

variable {S : NodeId → Prop} {old new n : NodeId}

/-- A node without children is added alone. -/
theorem adds_add {node : Node} (hchildren : node.children = [])
    (hfresh : p.node? (p.lastId + 1) = none) : p.Adds (p.add node).1 (· = p.lastId + 1) where
  fresh n hn := hn ▸ hfresh
  closed n c hn hc := by
    have hnode : (p.add node).1.node? n = some node := (node?_add node n).trans (if_pos hn)
    rw [childrenOf_of_node? hnode, hchildren] at hc
    cases hc
  others n hn := (node?_add node n).trans (if_neg hn)

/-- Nodes that are added change nothing in what lies under a node and is not one of them. -/
theorem Adds.under_iff (h : p.Adds p' S) (hn : ¬ S n) : p'.Under root n ↔ p.Under root n := by
  have hchildren : ∀ m, ¬ S m → p'.childrenOf m = p.childrenOf m := fun m hm =>
    childrenOf_congr (congrArg (Option.map Node.children) (h.others m hm))
  constructor
  · -- A walk that leaves the new nodes never was in them.
    intro hunder
    have hset := hunder.mem_of_closed (S := fun m => p.Under root m ∨ S m) (.inl .root)
      fun m c hm hc => ?_
    · exact hset.resolve_right hn
    · by_cases hS : S m
      · exact .inr (h.closed m c hS hc)
      · exact .inl (.child (hm.resolve_right hS) (hchildren m hS ▸ hc))
  · intro hunder
    refine hunder.mem_of_closed (S := fun m => p'.Under root m) .root fun m c hm hc => ?_
    by_cases hS : S m
    · -- The node was not there before, so nothing was a child of it.
      unfold childrenOf at hc
      rw [h.fresh m hS] at hc
      cases hc
    · exact .child hm ((hchildren m hS).symm ▸ hc)

/-- No earlier node is under a new one. -/
theorem Adds.not_under (h : p.Adds p' S) (hnew : S new) (hn : ¬ S n) : ¬ p'.Under new n :=
  fun hunder => hn (hunder.mem_of_closed hnew h.closed)

/-- A node that is added takes the place of an old one: what lay under that is detached. -/
theorem Adds.isAttached_replace (h : p.Adds p' S) (hnew : S new) (hn : ¬ S n) :
    (p'.replace old new).isAttached n = (p.isAttached n && !decide (p.Under old n)) := by
  have hsame : p'.isAttached n = p.isAttached n :=
    isAttached_congr (congrArg (Option.map Node.attached) (h.others n hn))
  rw [Page.isAttached_replace (h.not_under hnew hn), hsame, decide_eq_decide.mpr (h.under_iff hn)]

end Adds

/-- A change that need not be made twice is made once at each of some nodes. -/
theorem node?_foldl_modify (ns : List NodeId) (n : NodeId) {f : Node → Node}
    (hf : ∀ node, f (f node) = f node) :
    (ns.foldl (fun p n => p.modify n f) p).node? n =
      if n ∈ ns then (p.node? n).map f else p.node? n := by
  induction ns generalizing p with
  | nil => rfl
  | cons m ns ih =>
    rw [List.foldl_cons, ih, node?_modify]
    -- The same change twice is the change once, so a repetition in the list is harmless.
    by_cases hm : n = m
    · rw [if_pos hm, if_pos (List.mem_cons.mpr (.inl hm)), Option.map_map]
      have htwice : f ∘ f = f := funext hf
      rw [htwice]
      exact ite_self _
    · rw [if_neg hm]
      exact if_congr (by rw [List.mem_cons, or_iff_right hm]) rfl rfl

/-- The container is new, and the parent of its children. -/
theorem node?_createContainer (domId : String) (style : Style) (children : List NodeId)
    (hchildren : p.lastId + 1 ∉ children) (n : NodeId) :
    (p.createContainer domId style children).1.node? n =
      if n = p.lastId + 1 then some { kind := .container, domId, style, children }
      else if n ∈ children then
        (p.node? n).map fun node => { node with parent := some (p.lastId + 1) }
      else p.node? n := by
  -- The container is added, and then every child is told its parent.
  let f : Node → Node := fun node => { node with parent := some (p.lastId + 1) }
  have hparents := node?_foldl_modify
    (p := (p.add { kind := .container, domId, style, children }).1) children n (f := f) fun _ => rfl
  refine hparents.trans ?_
  rw [node?_add]
  by_cases hn : n = p.lastId + 1
  · have hout : n ∉ children := hn ▸ hchildren
    rw [if_neg hout, if_pos hn, if_pos hn]
  · rw [if_neg hn, if_neg hn]

section Build

variable {c : Config} {url : String} {look : Style} {loader : Option Style} {nodes : Mounted}

/-- The nodes of a mount: the iframe first, then the loader if there is to be one, then the
container. -/
structure Lays (p : Page) (c : Config) (p' : Page) (nodes : Mounted) : Prop where
  iframe : nodes.iframe = p.lastId + 1
  container : nodes.container = p'.lastId
  loader : (nodes.loader = none ∧ nodes.container = p.lastId + 2) ∨
    (nodes.loader = some (p.lastId + 2) ∧ nodes.container = p.lastId + 3)
  iframeNode : ∃ node, p'.node? nodes.iframe = some node ∧ node.kind = .iframe ∧
    node.domId = c.frameId ∧ node.children = [] ∧ node.parent = some nodes.container
  loaderNode : ∀ l, nodes.loader = some l → ∃ node, p'.node? l = some node ∧
    node.domId = loaderId c.frameId ∧ node.children = [] ∧ node.parent = some nodes.container
  containerNode : ∃ node, p'.node? nodes.container = some node ∧ node.kind = .container ∧
    node.domId = containerId c.frameId ∧ node.children = nodes.loader.toList ++ [nodes.iframe]
  others : ∀ n, n ≤ p.lastId ∨ nodes.container < n → p'.node? n = p.node? n

/-- The iframe is there, and perhaps the loader; the container is put around them. -/
theorem lays_createContainer (p p₁ : Page) (loader : Option NodeId)
    (hlast : (loader = none ∧ p₁.lastId = p.lastId + 1) ∨
      (loader = some (p.lastId + 2) ∧ p₁.lastId = p.lastId + 2))
    (hiframe : p₁.node? (p.lastId + 1) =
      some { kind := .iframe, domId := c.frameId, src := some url, style := look })
    (hloader : ∀ l, loader = some l → ∃ node, p₁.node? l = some node ∧
      node.domId = loaderId c.frameId ∧ node.children = [])
    (hothers : ∀ n, n ≤ p.lastId ∨ p₁.lastId < n → p₁.node? n = p.node? n) :
    p.Lays c
      (p₁.createContainer (containerId c.frameId) (Look.container c.width c.height)
        (loader.toList ++ [p.lastId + 1])).1
      ⟨p.lastId + 1, loader, p₁.lastId + 1⟩ := by
  have hmem : ∀ n : ℕ, n ∈ loader.toList ++ [p.lastId + 1] ↔ loader = some n ∨ n = p.lastId + 1 := by
    intro n
    rw [List.mem_append, Option.mem_toList, List.mem_singleton]
  -- Its children have smaller numbers.
  have hle : ∀ n : ℕ, loader = some n ∨ n = p.lastId + 1 → p.lastId < n ∧ n < p₁.lastId + 1 := by
    rintro n (hn | hn)
    · rcases hlast with ⟨hnone, -⟩ | ⟨hsome, hlast⟩
      · cases hnone.symm.trans hn
      · have hn' : (p.lastId + 2 : ℕ) = n := Option.some.inj (hsome.symm.trans hn)
        omega
    · rcases hlast with ⟨-, hlast⟩ | ⟨-, hlast⟩ <;> omega
  have hnode := node?_createContainer (p := p₁) (containerId c.frameId)
    (Look.container c.width c.height) (loader.toList ++ [p.lastId + 1]) fun h =>
      Nat.lt_irrefl _ (hle _ ((hmem _).mp h)).2
  have hchild : ∀ n node, loader = some n ∨ n = p.lastId + 1 → p₁.node? n = some node →
      (p₁.createContainer (containerId c.frameId) (Look.container c.width c.height)
        (loader.toList ++ [p.lastId + 1])).1.node? n =
          some { node with parent := some (p₁.lastId + 1) } := by
    intro n node hn hfound
    rw [hnode, if_neg (Nat.ne_of_lt (hle n hn).2), if_pos ((hmem n).mpr hn), hfound]
    rfl
  refine ⟨rfl, (lastId_createContainer _ _ _).symm, ?_, ?_, fun l hl => ?_, ?_, fun n hn => ?_⟩
  · exact hlast.imp (And.imp_right (congrArg (· + 1))) (And.imp_right (congrArg (· + 1)))
  · exact ⟨_, hchild _ _ (.inr rfl) hiframe, rfl, rfl, rfl, rfl⟩
  · obtain ⟨node, hfound, hid, hnone⟩ := hloader l hl
    exact ⟨_, hchild l node (.inl hl) hfound, hid, hnone, rfl⟩
  · exact ⟨_, (hnode _).trans (if_pos rfl), rfl, rfl, rfl⟩
  · have hn' : n ≤ p.lastId ∨ p₁.lastId + 1 < n := hn
    have hlast' : p.lastId < p₁.lastId := by
      rcases hlast with ⟨-, hlast⟩ | ⟨-, hlast⟩ <;> omega
    have hout : ¬ (loader = some n ∨ n = p.lastId + 1) := fun h => by
      have hbound := hle n h
      omega
    have hne : n ≠ p₁.lastId + 1 := by omega
    have hold : n ≤ p.lastId ∨ p₁.lastId < n := by omega
    rw [hnode, if_neg hne, if_neg fun h => hout ((hmem n).mp h), hothers n hold]

/-- The nodes built for a mount are laid out. -/
theorem lays_build (h : p.build c url look loader = (p', nodes)) : p.Lays c p' nodes := by
  let p₁ := (p.createIframe c.frameId url look).1
  have hp₁ : ∀ n, p₁.node? n = if n = p.lastId + 1 then
      some { kind := .iframe, domId := c.frameId, src := some url, style := look }
      else p.node? n := node?_add _
  unfold build at h
  -- The iframe is the first node, a loader the second, and the container the last.
  cases loader with
  | none =>
    have hlays := lays_createContainer p p₁ none (.inl ⟨rfl, rfl⟩) ((hp₁ _).trans (if_pos rfl))
      (fun l hl => by cases hl) fun n hn => by
        have hn' : n ≤ p.lastId ∨ p.lastId + 1 < n := hn
        have hne : n ≠ p.lastId + 1 := by omega
        rw [hp₁, if_neg hne]
    obtain ⟨rfl, rfl⟩ := Prod.mk.inj h
    exact hlays
  | some look' =>
    let p₂ := (p₁.createLoader (loaderId c.frameId) look').1
    have hp₂ : ∀ n, p₂.node? n = if n = p.lastId + 2 then
        some { kind := .loader, domId := loaderId c.frameId, style := look' }
        else p₁.node? n := node?_add _
    have hiframe : p₂.node? (p.lastId + 1) = p₁.node? (p.lastId + 1) :=
      (hp₂ _).trans (if_neg (Nat.succ_ne_self _).symm)
    have hlays := lays_createContainer p p₂ (some (p.lastId + 2)) (.inr ⟨rfl, rfl⟩)
      (hiframe.trans ((hp₁ _).trans (if_pos rfl)))
      (fun l hl => by
        cases hl
        exact ⟨_, (hp₂ _).trans (if_pos rfl), rfl, rfl⟩) fun n hn => by
        have hn' : n ≤ p.lastId ∨ p.lastId + 2 < n := hn
        have hne : n ≠ p.lastId + 2 := by omega
        have hne' : n ≠ p.lastId + 1 := by omega
        rw [hp₂, if_neg hne, hp₁, if_neg hne']
    obtain ⟨rfl, rfl⟩ := Prod.mk.inj h
    exact hlays

end Build

end FrameHost.Page
