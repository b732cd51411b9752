import FrameHost.Proofs.Estates

/-!
# Slots

A frame has one slot on the page. While the frame is mounted its container stands there, with the
iframe and perhaps the loader (`Page.Holds`), and otherwise an element that the host or the end of a
mount has put there (`Page.Vacant`). Either way the page shows one node with the frame ID as its DOM
id, and the next mount finds its place (`Holds.place?`, `Vacant.place?`). A change of the slot leaves
nothing attached of what it takes away (`Lays.holds`, `Holds.vacant`, `Holds.remove`).
-/

namespace FrameHost

/-! ## DOM ids -/

/-- The ID of a container is ten characters longer than the frame's. -/
theorem length_containerId (frameId : String) : (containerId frameId).length = frameId.length + 10 := by
  unfold containerId
  rw [String.length_append]
  rfl

/-- The ID of a loader is seven characters longer than the frame's. -/
theorem length_loaderId (frameId : String) : (loaderId frameId).length = frameId.length + 7 := by
  unfold loaderId
  rw [String.length_append]
  rfl

/-- No container has the frame's own ID. -/
theorem containerId_ne (frameId : String) : containerId frameId ≠ frameId := by
  intro heq
  have hlength := congrArg String.length heq
  rw [length_containerId] at hlength
  omega

/-- No loader has the frame's own ID. -/
theorem loaderId_ne (frameId : String) : loaderId frameId ≠ frameId := by
  intro heq
  have hlength := congrArg String.length heq
  rw [length_loaderId] at hlength
  omega

/-- No loader has the container's ID. -/
theorem loaderId_ne_containerId (frameId : String) : loaderId frameId ≠ containerId frameId := by
  intro heq
  have hlength := congrArg String.length heq
  rw [length_loaderId, length_containerId] at hlength
  omega

namespace Page

variable {p p' p₀ : Page} {f c domId : String} {n l top : NodeId} {nodes : Mounted} {node : Node}
  {T T' : String → Prop}

/-! ## What a page shows -/

/-- The page shows a node with a DOM id. -/
def Shows (p : Page) (domId : String) (n : NodeId) : Prop :=
  p.isAttached n = true ∧ p.domId? n = some domId

/-- The page shows this node with a DOM id, and no other. -/
def Sole (p : Page) (domId : String) (n : NodeId) : Prop := ∀ m, p.Shows domId m ↔ m = n

/-- The DOM ID of a node is the one in its record. -/
theorem domId?_of_node? (h : p.node? n = some node) : p.domId? n = some node.domId :=
  congrArg (Option.map Node.domId) h

/-- An attached node with a DOM ID is shown with it. -/
theorem shows_of_node? (h : p.node? n = some node) (hattached : node.attached = true)
    (hid : node.domId = domId) : p.Shows domId n :=
  ⟨(isAttached_of_node? h).trans hattached, hid ▸ domId?_of_node? h⟩

/-- The nodes that the page shows with a DOM id, in the order in which they were made. -/
def shown (p : Page) (domId : String) : List NodeId :=
  (p.nodes.entries.filter fun row => row.2.attached && row.2.domId == domId).map Prod.fst

/-- The list of the nodes shown has exactly these. -/
theorem mem_shown : n ∈ p.shown domId ↔ p.Shows domId n := by
  unfold shown
  constructor
  · intro h
    obtain ⟨row, hrow, rfl⟩ := List.mem_map.mp h
    obtain ⟨hmem, htest⟩ := List.mem_filter.mp hrow
    rw [Bool.and_eq_true, beq_iff_eq] at htest
    exact shows_of_node? (Table.get?_eq_some_iff.mpr hmem) htest.1 htest.2
  · rintro ⟨hattached, hid⟩
    obtain ⟨node, hnode, hid⟩ := Option.map_eq_some_iff.mp hid
    rw [isAttached_of_node? hnode] at hattached
    refine List.mem_map.mpr ⟨(n, node), List.mem_filter.mpr ⟨Table.get?_eq_some_iff.mp hnode, ?_⟩, rfl⟩
    simp [hattached, hid]

/-- A look-up by DOM ID finds the first of the nodes shown. -/
theorem find?_eq_head? (p : Page) (domId : String) : p.find? domId = (p.shown domId).head? := by
  unfold find? shown
  rw [List.head?_map, List.head?_filter]

/-- Where the list of the nodes shown is empty, none is. -/
theorem not_shows_of_shown (h : p.shown domId = []) (n : NodeId) : ¬ p.Shows domId n := by
  rw [← mem_shown, h]
  exact List.not_mem_nil

/-- Where the list has one node, it is the sole one. -/
theorem sole_of_shown (h : p.shown domId = [n]) : p.Sole domId n := by
  intro m
  rw [← mem_shown, h, List.mem_singleton]

/-- Where no node is shown, none is found. -/
theorem find?_eq_none (h : ∀ n, ¬ p.Shows domId n) : p.find? domId = none := by
  have hshown : p.shown domId = [] :=
    List.eq_nil_iff_forall_not_mem.mpr fun n hn => h n (mem_shown.mp hn)
  rw [find?_eq_head?, hshown]
  rfl

/-- A sole node is the one that is found. -/
theorem Sole.find? (h : p.Sole domId n) : p.find? domId = some n := by
  have hn := mem_shown.mpr ((h n).mpr rfl)
  rw [find?_eq_head?]
  cases hshown : p.shown domId with
  | nil =>
    rw [hshown] at hn
    cases hn
  | cons m ms =>
    -- The first one is shown too, so it is this one.
    have hm : m ∈ p.shown domId := hshown ▸ List.mem_cons_self
    exact congrArg some ((h m).mp (mem_shown.mp hm))

/-! ## Beside the slot -/

/-- Beside the slot of the frame ID `f`: if `p` shows the node, `p₀` did so too, and it is not what a
mount under `f` looks for. -/
def Beside (p₀ p : Page) (f : String) (n : NodeId) : Prop :=
  p.isAttached n = true →
    p₀.isAttached n = true ∧ p.domId? n ≠ some f ∧ p.domId? n ≠ some (containerId f)

/-- A node beside the slot has neither of the slot's DOM IDs. -/
theorem Beside.not_shows (h : p₀.Beside p f n) : ¬ p.Shows f n ∧ ¬ p.Shows (containerId f) n :=
  ⟨fun hs => (h hs.1).2.1 hs.2, fun hs => (h hs.1).2.2 hs.2⟩

/-- When new nodes take the place of what `top` was the root of, what was not there stays beside. -/
theorem Adds.beside {S : NodeId → Prop} {new : NodeId} (ha : p.Adds p' S) (hnew : S new)
    (hbeside : ∀ m, ¬ p.Under top m → p₀.Beside p f m) (hn : ¬ S n) :
    p₀.Beside (p'.replace top new) f n := by
  intro hattached
  rw [ha.isAttached_replace hnew hn, Bool.and_eq_true, Bool.not_eq_true', decide_eq_false_iff_not]
    at hattached
  have hid : (p'.replace top new).domId? n = p.domId? n := by
    calc (p'.replace top new).domId? n
        = p'.domId? n := domId?_replace _ _ _
      _ = p.domId? n := congrArg (Option.map Node.domId) (ha.others n hn)
  rw [hid]
  exact hbeside n hattached.2 hattached.1

/-! ## The two states of a slot -/

/-- The slot of the frame ID `f` holds the nodes of a mount. -/
structure Holds (p₀ p : Page) (f : String) (nodes : Mounted) : Prop where
  lt : nodes.iframe < nodes.container
  /-- There is no room for more than one loader. -/
  le : nodes.container ≤ nodes.iframe + 2
  iframe : p.Shows f nodes.iframe
  container : p.Shows (containerId f) nodes.container
  children : p.childrenOf nodes.container = nodes.loader.toList ++ [nodes.iframe]
  loader : ∀ l, nodes.loader = some l → nodes.iframe < l ∧ l < nodes.container
  /-- The loader, which is attached as long as the frame has it. -/
  between : ∀ l, nodes.iframe < l → l < nodes.container → ∃ node, p.node? l = some node ∧
    node.domId = loaderId f ∧ node.children = [] ∧ node.parent = some nodes.container ∧
    (node.attached = true → nodes.loader = some l)
  beside : ∀ n, ¬ nodes.Owns n → p₀.Beside p f n

/-- The slot of the frame ID `f` is vacant: an element of class `c` stands there, with a text of `T`. -/
structure Vacant (p₀ p : Page) (f c : String) (T : String → Prop) (n : NodeId) : Prop where
  element : ∃ node, p.node? n = some node ∧ node.attached = true ∧ node.domId = f ∧
    node.kind = .element ∧ node.className = c ∧ T node.text
  beside : ∀ m, m ≠ n → p₀.Beside p f m

/-- A vacant slot may show its text among more. -/
theorem Vacant.mono (h : p₀.Vacant p f c T n) (hT : ∀ t, T t → T' t) : p₀.Vacant p f c T' n := by
  obtain ⟨node, hnode, hattached, hid, hkind, hclass, htext⟩ := h.element
  exact ⟨⟨node, hnode, hattached, hid, hkind, hclass, hT _ htext⟩, h.beside⟩

/-- The element of a vacant slot is the sole one with the frame's ID. -/
theorem Vacant.sole (h : p₀.Vacant p f c T n) : p.Sole f n := by
  obtain ⟨node, hnode, hattached, hid, -⟩ := h.element
  intro m
  refine ⟨fun hshows => ?_, fun hm => ?_⟩
  · by_contra hne
    exact (h.beside m hne).not_shows.1 hshows
  · exact hm ▸ shows_of_node? hnode hattached hid

/-- Where a slot is vacant there is no container. -/
theorem Vacant.not_shows_container (h : p₀.Vacant p f c T n) (m : NodeId) :
    ¬ p.Shows (containerId f) m := by
  obtain ⟨node, hnode, -, hid, -⟩ := h.element
  intro hshows
  by_cases hm : m = n
  · have hids := hshows.2.symm.trans (hm ▸ domId?_of_node? hnode)
    exact containerId_ne f ((Option.some.inj hids).trans hid)
  · exact (h.beside m hm).not_shows.2 hshows

/-- The element of a vacant slot is where a mount goes. -/
theorem Vacant.place? (h : p₀.Vacant p f c T n) : p.place? f = some (.element n) := by
  unfold Page.place?
  rw [find?_eq_none h.not_shows_container, h.sole.find?]
  rfl

/-- The element of a vacant slot has the slot's class. -/
theorem Vacant.className (h : p₀.Vacant p f c T n) : p.className n = c := by
  obtain ⟨node, hnode, -, -, -, hclass, -⟩ := h.element
  unfold Page.className
  rw [hnode]
  exact hclass

/-- The nodes of a mount: the iframe, the container, and in between the loader. -/
theorem Holds.cases (h : p₀.Holds p f nodes) (hn : nodes.Owns n) : n = nodes.iframe ∨
    n = nodes.container ∨ ∃ node, p.node? n = some node ∧ node.domId = loaderId f ∧
      (node.attached = true → nodes.loader = some n) := by
  obtain ⟨hge, hle⟩ := hn
  rcases Nat.lt_or_eq_of_le hge with hlt | heq
  · rcases Nat.lt_or_eq_of_le hle with hgt | heq
    · obtain ⟨node, hnode, hid, -, -, hloader⟩ := h.between n hlt hgt
      exact .inr (.inr ⟨node, hnode, hid, hloader⟩)
    · exact .inr (.inl heq)
  · exact .inl heq.symm

/-- The iframe of a mount is the sole node with the frame's ID. -/
theorem Holds.sole (h : p₀.Holds p f nodes) : p.Sole f nodes.iframe := by
  intro m
  refine ⟨fun hshows => ?_, fun hm => hm ▸ h.iframe⟩
  -- The other nodes of the mount have other DOM ids.
  by_cases howns : nodes.Owns m
  · rcases h.cases howns with hm | rfl | ⟨node, hnode, hid, -⟩
    · exact hm
    · exact absurd (Option.some.inj (h.container.2.symm.trans hshows.2)) (containerId_ne f)
    · have hids := (domId?_of_node? hnode).symm.trans hshows.2
      exact absurd (hid.symm.trans (Option.some.inj hids)) (loaderId_ne f)
  · exact absurd hshows (h.beside m howns).not_shows.1

/-- The container of a mount is the sole node with the container's ID. -/
theorem Holds.sole_container (h : p₀.Holds p f nodes) : p.Sole (containerId f) nodes.container := by
  intro m
  refine ⟨fun hshows => ?_, fun hm => hm ▸ h.container⟩
  by_cases howns : nodes.Owns m
  · rcases h.cases howns with rfl | hm | ⟨node, hnode, hid, -⟩
    · exact absurd (Option.some.inj (h.iframe.2.symm.trans hshows.2)) (containerId_ne f).symm
    · exact hm
    · have hids := (domId?_of_node? hnode).symm.trans hshows.2
      exact absurd (hid.symm.trans (Option.some.inj hids)) (loaderId_ne_containerId f)
  · exact absurd hshows (h.beside m howns).not_shows.2

/-- The container of a mount is where the next mount goes. -/
theorem Holds.place? (h : p₀.Holds p f nodes) : p.place? f = some (.container nodes.container) := by
  unfold Page.place?
  rw [h.sole_container.find?]

/-- What does not lie under the element of a vacant slot is beside the slot. -/
theorem Vacant.beside_of_not_under (h : p₀.Vacant p f c T n) (l : NodeId) (hl : ¬ p.Under n l) :
    p₀.Beside p f l := by
  refine h.beside l ?_
  rintro rfl
  exact hl .root

/-- What does not lie under the container is beside the slot, or a loader that is gone. -/
theorem Holds.beside_of_not_under (h : p₀.Holds p f nodes) (l : NodeId)
    (hl : ¬ p.Under nodes.container l) : p₀.Beside p f l := by
  have hchild : ∀ m, m ∈ nodes.loader.toList ++ [nodes.iframe] → p.Under nodes.container m :=
    fun m hm => .child .root (h.children ▸ hm)
  -- Of the estate, what is attached is under the container.
  by_cases howns : nodes.Owns l
  · rcases h.cases howns with rfl | rfl | ⟨node, hnode, -, hloader⟩
    · exact absurd (hchild _ (List.mem_append_right _ (List.mem_singleton_self _))) hl
    · exact absurd .root hl
    · intro hattached
      rw [isAttached_of_node? hnode] at hattached
      have hmem := Option.mem_toList.mpr (hloader hattached)
      exact absurd (hchild l (List.mem_append_left _ hmem)) hl
  · exact h.beside l howns

/-! ## Changes of a slot -/

section Shapes

variable (hshapes : ∀ n, (p'.node? n).map Node.shape = (p.node? n).map Node.shape)
include hshapes

/-- What is shown depends on the shapes of the nodes only. -/
theorem shows_of_shapes (domId : String) (n : NodeId) : p'.Shows domId n ↔ p.Shows domId n := by
  have hattached := map_node?_of_shape (hshapes n) Node.attached fun _ => rfl
  have hid := map_node?_of_shape (hshapes n) Node.domId fun _ => rfl
  unfold Shows domId?
  rw [isAttached_congr hattached, hid]

/-- Being beside a slot depends on the shapes of the nodes only. -/
theorem Beside.of_shapes (h : p₀.Beside p f n) : p₀.Beside p' f n := by
  have hattached := map_node?_of_shape (hshapes n) Node.attached fun _ => rfl
  have hid := map_node?_of_shape (hshapes n) Node.domId fun _ => rfl
  unfold Beside domId? at h ⊢
  rwa [isAttached_congr hattached, hid]

/-- A node that is there is there still, with the same shape. -/
theorem node?_of_shapes (h : p.node? n = some node) :
    ∃ node', p'.node? n = some node' ∧ node'.shape = node.shape := by
  have hshape := hshapes n
  rw [h, Option.map_some] at hshape
  exact Option.map_eq_some_iff.mp hshape

/-- Being vacant depends on the shapes of the nodes only. -/
theorem Vacant.of_shapes (h : p₀.Vacant p f c T n) : p₀.Vacant p' f c T n := by
  obtain ⟨node, hnode, hattached, hid, hkind, hclass, htext⟩ := h.element
  obtain ⟨node', hnode', hshape⟩ := node?_of_shapes hshapes hnode
  refine ⟨⟨node', hnode', ?_, ?_, ?_, ?_, ?_⟩, fun m hm => (h.beside m hm).of_shapes hshapes⟩
  · exact (congrArg Node.attached hshape).trans hattached
  · exact (congrArg Node.domId hshape).trans hid
  · exact (congrArg Node.kind hshape).trans hkind
  · exact (congrArg Node.className hshape).trans hclass
  · have htext' : node'.shape.text = node.shape.text := congrArg Node.text hshape
    exact htext' ▸ htext

/-- Holding a mount depends on the shapes of the nodes only. -/
theorem Holds.of_shapes (h : p₀.Holds p f nodes) : p₀.Holds p' f nodes where
  lt := h.lt
  le := h.le
  iframe := (shows_of_shapes hshapes f _).mpr h.iframe
  container := (shows_of_shapes hshapes _ _).mpr h.container
  children := by
    have hshape := hshapes nodes.container
    have hchildren := map_node?_of_shape hshape Node.children fun _ => rfl
    exact (childrenOf_congr hchildren).trans h.children
  loader := h.loader
  -- A loader's node has kept its shape, and so all that is said of it.
  between l hlt hgt := by
    obtain ⟨node, hnode, hid, hchildren, hparent, hloader⟩ := h.between l hlt hgt
    obtain ⟨node', hnode', hshape⟩ := node?_of_shapes hshapes hnode
    have hattached : node'.shape.attached = node.shape.attached := congrArg Node.attached hshape
    refine ⟨node', hnode', ?_, ?_, ?_, fun h => hloader (hattached.symm.trans h)⟩
    · exact (congrArg Node.domId hshape).trans hid
    · exact (congrArg Node.children hshape).trans hchildren
    · exact (congrArg Node.parent hshape).trans hparent
  beside n hn := (h.beside n hn).of_shapes hshapes

end Shapes

/-- A mount puts its nodes in the place of whatever was in the slot. -/
theorem Lays.holds {config : Config} (h : p.Lays config p' nodes) (hid : config.frameId = f)
    (hnumbered : ∀ n, p.lastId < n → p.node? n = none)
    (hbeside : ∀ n, ¬ p.Under top n → p₀.Beside p f n) :
    p₀.Holds (p'.replace top nodes.container) f nodes := by
  obtain ⟨iframe, hiframe, -, hiframeId, -⟩ := h.iframeNode
  obtain ⟨container, hcontainer, -, hcontainerId, hchildren⟩ := h.containerNode
  have hchild : ∀ n, n ∈ nodes.loader.toList ++ [nodes.iframe] → p'.Under nodes.container n :=
    fun n hn => .child .root (by rwa [childrenOf_of_node? hcontainer, hchildren])
  -- What lies under the container is attached with it.
  have hattached : ∀ n node, p'.Under nodes.container n → p'.node? n = some node →
      (p'.replace top nodes.container).node? n = some { node with attached := true } := by
    intro n node hunder hnode
    rw [node?_replace, hnode, Option.map_some, if_pos hunder]
  have hordered := h.ordered
  refine ⟨hordered.lt, ?_, ?_, ?_, ?_, hordered.loader, fun l hlt hgt => ?_, fun n hn => ?_⟩
  · have hfirst := h.iframe
    rcases h.loader with ⟨-, hlast⟩ | ⟨-, hlast⟩ <;> lia
  · have hunder := hchild _ (List.mem_append_right _ (List.mem_singleton_self _))
    exact shows_of_node? (hattached _ _ hunder hiframe) rfl (hiframeId.trans hid)
  · exact shows_of_node? (hattached _ _ .root hcontainer) rfl (hid ▸ hcontainerId)
  · rw [childrenOf_of_node? (hattached _ _ .root hcontainer)]
    exact hchildren
  · -- What lies strictly between the iframe and the container is the loader.
    have howns : nodes.Owns l := ⟨Nat.le_of_lt hlt, Nat.le_of_lt hgt⟩
    have hloader : nodes.loader = some l := by
      rcases h.owns_cases howns with heq | hloader | heq
      · exact absurd heq (Nat.ne_of_gt hlt)
      · exact hloader
      · exact absurd heq (Nat.ne_of_lt hgt)
    obtain ⟨node, hnode, hloaderId, hnone, hparent⟩ := h.loaderNode l hloader
    have hunder := hchild l (List.mem_append_left _ (Option.mem_toList.mpr hloader))
    exact ⟨_, hattached l node hunder hnode, hid ▸ hloaderId, hnone, hparent, fun _ => hloader⟩
  · exact (h.adds hnumbered).beside hordered.owns_container hbeside hn

/-- The end of a mount leaves an element in the slot. -/
theorem Holds.vacant {text : String} (h : p₀.Holds p f nodes)
    (hnumbered : p.node? (p.lastId + 1) = none) (htext : T text) :
    p₀.Vacant ((p.createPlaceholder f c text).1.replace nodes.container (p.lastId + 1)) f c T
      (p.lastId + 1) := by
  let placeholder : Node := { kind := .element, domId := f, className := c, text }
  have hadds : p.Adds (p.add placeholder).1 (· = p.lastId + 1) := adds_add rfl hnumbered
  refine ⟨⟨{ placeholder with attached := true }, ?_, rfl, rfl, rfl, rfl, htext⟩, fun m hm => ?_⟩
  · have hnode : (p.add placeholder).1.node? (p.lastId + 1) = some placeholder :=
      (node?_add _ _).trans (if_pos rfl)
    show ((p.add placeholder).1.replace nodes.container (p.lastId + 1)).node? (p.lastId + 1) = _
    rw [node?_replace, hnode, Option.map_some, if_pos .root]
  · exact hadds.beside rfl h.beside_of_not_under hm

/-- A loader that goes leaves the iframe alone in the container. -/
theorem Holds.remove (h : p₀.Holds p f nodes) (hlt : nodes.iframe < l) (hgt : l < nodes.container) :
    p₀.Holds (p.remove l) f { nodes with loader := none } := by
  obtain ⟨loader, hnode, hid, hnone, hparent, -⟩ := h.between l hlt hgt
  have hremove := node?_remove hnode hparent
  have hids : ∀ n, (p.remove l).domId? n = p.domId? n := fun n => by
    unfold domId?
    rw [hremove, Option.map_map]
    refine congrArg (fun f => Option.map f (p.node? n)) (funext fun node => ?_)
    dsimp only [Function.comp]
    split <;> split <;> rfl
  -- Nothing lies under the loader but the loader.
  have hunder : ∀ n, p.Under l n ↔ n = l := by
    refine fun n => ⟨fun hunder => ?_, fun heq => heq ▸ .root⟩
    refine hunder.mem_of_closed (S := fun m => m = l) rfl fun m c hm hc => ?_
    rw [hm, childrenOf_of_node? hnode, hnone] at hc
    cases hc
  have hattached : ∀ n, (p.remove l).isAttached n = (p.isAttached n && !decide (n = l)) := fun n => by
    rw [isAttached_remove, decide_eq_decide.mpr (hunder n)]
  have hshows : ∀ {domId n}, n ≠ l → p.Shows domId n → (p.remove l).Shows domId n := by
    intro domId n hne hshows
    refine ⟨?_, (hids n).trans hshows.2⟩
    rw [hattached, hshows.1]
    simp [hne]
  refine ⟨h.lt, h.le, hshows (Nat.ne_of_lt hlt) h.iframe, hshows (Nat.ne_of_gt hgt) h.container, ?_,
    nofun, fun m hmlt hmgt => ?_, fun n hn hshown => ?_⟩
  · -- There was no other loader.
    have hloader : ∀ l', nodes.loader = some l' → l' = l := fun l' hl' => by
      have hbounds := h.loader l' hl'
      have hle := h.le
      lia
    have hne : nodes.iframe ≠ l := Nat.ne_of_lt hlt
    have hchildren := h.children
    unfold childrenOf at hchildren ⊢
    rw [hremove]
    cases hcontainer : p.node? nodes.container with
    | none =>
      rw [hcontainer] at hchildren
      simp at hchildren
    | some container =>
      rw [hcontainer] at hchildren
      have hnot : ¬ p.Under l nodes.container := fun hu =>
        absurd ((hunder _).mp hu) (Nat.ne_of_gt hgt)
      change container.children = _ at hchildren
      cases hcase : nodes.loader with
      | none => simp [hnot, hchildren, hcase, hne]
      | some l' => simp [hnot, hchildren, hcase, hne, hloader l' hcase]
  · -- There is room for one loader only.
    have hle := h.le
    have hm : m = l := by
      change m < nodes.container at hmgt
      change nodes.iframe < m at hmlt
      lia
    have hcontainer : l ≠ nodes.container := Nat.ne_of_lt hgt
    refine ⟨{ loader with attached := false }, ?_, hid, hnone, hparent, fun h => by cases h⟩
    rw [hm, hremove, hnode]
    simp [hcontainer, (hunder l).mpr rfl]
  · rw [hattached, Bool.and_eq_true] at hshown
    rw [hids]
    exact h.beside n hn hshown.1

end Page

end FrameHost
