import FrameHost.Proofs.Frames

/-!
# What pages keep

Most changes of a page are changes of its nodes: they leave alone what waits for iframes to load and
what listens (`Redraws`), and they keep the address that an iframe shows (`src?`) and the DOM ids of
nodes (`domId?`). The nodes that a mount makes are new (`build_spec`, `builds_build`). Frames get new
hooks only where they are mounted and where their content is shown; everything else that happens to a
page takes hooks away, or leaves them (`Ages`), and most of it leaves the nodes alone but for their
looks (`Retouches`).
-/

namespace FrameHost

/-- The mount that a hook on a paint belongs to: the frame, and its generation. -/
def PaintHook.mount? : PaintHook → Option (FrameRef × ℕ)
  | .host _ => none
  | .fade f g _ | .retire f g _ => some (f, g)

/-- The hooks of frames among those that wait for a paint. -/
def Page.fading (p : Page) : List PaintHook := p.paints.filter (·.mount?.isSome)

/-- A node but for its style and for what is written into it. -/
def Node.shape (node : Node) : Node := { node with style := Style.empty, document := none }

/-- Whether a change of the page adds nodes, or puts nodes in or out of it. -/
def Page.Edit.reshapes : Page.Edit → Bool
  | .add _ | .wrap _ _ _ | .replace _ _ | .remove _ => true
  | _ => false

namespace Page

variable {p p' p'' : Page}

/-! ## Changes of nodes -/

/-- Nodes are changed or added; what waits for iframes to load, and what listens, stays. -/
structure Redraws (p p' : Page) : Prop where
  lastId : p.lastId ≤ p'.lastId
  loads : p'.loads = p.loads
  listeners : p'.listeners = p.listeners

/-- A page redraws itself. -/
theorem Redraws.refl (p : Page) : p.Redraws p := ⟨Nat.le_refl _, rfl, rfl⟩

/-- A page redrawn twice is redrawn. -/
theorem Redraws.trans (h : p.Redraws p') (h' : p'.Redraws p'') : p.Redraws p'' :=
  ⟨Nat.le_trans h.lastId h'.lastId, h'.loads.trans h.loads, h'.listeners.trans h.listeners⟩

/-- A new node redraws the page. -/
theorem redraws_add (node : Node) : p.Redraws (p.add node).1 := ⟨Nat.le_succ _, rfl, rfl⟩

/-- Modifying a node redraws the page. -/
theorem redraws_modify (n : NodeId) (g : Node → Node) : p.Redraws (p.modify n g) :=
  ⟨Nat.le_refl _, rfl, rfl⟩

/-- Modifying several nodes redraws the page. -/
theorem redraws_foldl_modify (ns : List NodeId) (g : Node → Node) :
    p.Redraws (ns.foldl (fun p n => p.modify n g) p) := by
  induction ns generalizing p with
  | nil => exact Redraws.refl p
  | cons n ns ih => exact (redraws_modify n g).trans ih

/-- A new container redraws the page. -/
theorem redraws_createContainer (domId : String) (style : Style) (children : List NodeId) :
    p.Redraws (p.createContainer domId style children).1 :=
  (redraws_add _).trans (redraws_foldl_modify children _)

/-- Replacing a node redraws the page. -/
theorem redraws_replace (old new : NodeId) : p.Redraws (p.replace old new) :=
  ⟨Nat.le_refl _, rfl, rfl⟩

/-- A style redraws the page. -/
theorem redraws_setStyle (n : NodeId) (style : Style) : p.Redraws (p.setStyle n style) :=
  redraws_modify n _

/-- A document shown redraws the page. -/
theorem redraws_showDocument (n : NodeId) (html : String) : p.Redraws (p.showDocument n html) :=
  redraws_modify n _

/-- Removing a node redraws the page. -/
theorem redraws_remove (n : NodeId) : p.Redraws (p.remove n) := by
  have hdetached : p.Redraws (p.setAttached n false) := ⟨Nat.le_refl _, rfl, rfl⟩
  unfold remove
  dsimp only
  split
  · exact hdetached
  · exact hdetached.trans (redraws_modify _ _)

/-- Waiting for the painting redraws the page. -/
theorem redraws_afterPaint (hook : PaintHook) : p.Redraws (p.afterPaint hook) :=
  ⟨Nat.le_refl _, rfl, rfl⟩

/-- Posting a message redraws the page. -/
theorem redraws_post? (message : Option Posted) : p.Redraws (p.post? message) := by
  cases message <;> exact ⟨Nat.le_refl _, rfl, rfl⟩

/-- Restoring a frame's own attributes redraws the page. -/
theorem redraws_restored (frame : Frame) : p.Redraws (Host.restoredPage p frame) := by
  unfold Host.restoredPage
  split
  · exact Redraws.refl p
  · exact (redraws_add _).trans (redraws_replace _ _)

/-! ## Fields of nodes

A field that a change of nodes does not set stays as it is. -/

section Fields

variable {α : Type} {field : Node → α}

/-- A new node is read under its number, and no other changes. -/
theorem map_node?_add (node : Node) (n : NodeId) :
    ((p.add node).1.node? n).map field =
      if n = p.lastId + 1 then some (field node) else (p.node? n).map field := by
  unfold node? add
  dsimp only
  rw [Table.get?_insert]
  split <;> rfl

/-- A modification that keeps a field keeps it for every node. -/
theorem map_node?_modify (m n : NodeId) {g : Node → Node}
    (hg : ∀ node, field (g node) = field node) :
    ((p.modify m g).node? n).map field = (p.node? n).map field := by
  unfold node? modify
  dsimp only
  rw [Table.get?_modify]
  split
  · cases p.nodes.get? n with
    | none => rfl
    | some node => exact congrArg some (hg node)
  · rfl

/-- Modifications that keep a field keep it for every node. -/
theorem map_node?_foldl_modify (ns : List NodeId) (n : NodeId) {g : Node → Node}
    (hg : ∀ node, field (g node) = field node) :
    ((ns.foldl (fun p n => p.modify n g) p).node? n).map field = (p.node? n).map field := by
  induction ns generalizing p with
  | nil => rfl
  | cons m ns ih => exact ih.trans (map_node?_modify m n hg)

/-- Attaching a subtree keeps every field but the one that says so. -/
theorem map_node?_setAttached (root n : NodeId) (attached : Bool)
    (hfield : ∀ node : Node, field { node with attached } = field node) :
    ((p.setAttached root attached).node? n).map field = (p.node? n).map field := by
  unfold node? setAttached
  dsimp only
  rw [Table.get?_map]
  cases p.nodes.get? n with
  | none => rfl
  | some node =>
    -- Only the flag is set, which the field does not see.
    show some (field (if n ∈ p.subtree root then { node with attached } else node)) = _
    split
    · exact congrArg some (hfield node)
    · rfl

/-- A replacement keeps every field but the one that says what is attached. -/
theorem map_node?_replace (old new n : NodeId)
    (hfield : ∀ (node : Node) (attached : Bool), field { node with attached } = field node) :
    ((p.replace old new).node? n).map field = (p.node? n).map field :=
  (map_node?_setAttached new n true (hfield · true)).trans
    (map_node?_setAttached old n false (hfield · false))

/-- The container is a new node; of the others only the parents change. -/
theorem map_node?_createContainer (domId : String) (style : Style) (children : List NodeId)
    (n : NodeId)
    (hfield : ∀ (node : Node) (parent : Option NodeId), field { node with parent } = field node) :
    ((p.createContainer domId style children).1.node? n).map field =
      if n = p.lastId + 1 then some (field { kind := .container, domId, style, children })
      else (p.node? n).map field :=
  (map_node?_foldl_modify children n fun node => hfield node _).trans (map_node?_add _ n)

end Fields

/-- Modifying nodes numbers none. -/
theorem lastId_foldl_modify (ns : List NodeId) (g : Node → Node) :
    (ns.foldl (fun p n => p.modify n g) p).lastId = p.lastId := by
  induction ns generalizing p with
  | nil => rfl
  | cons n ns ih => exact ih

/-- Modifying nodes leaves the paint hooks waiting. -/
theorem paints_foldl_modify (ns : List NodeId) (g : Node → Node) :
    (ns.foldl (fun p n => p.modify n g) p).paints = p.paints := by
  induction ns generalizing p with
  | nil => rfl
  | cons n ns ih => exact ih

/-- A container takes one number. -/
theorem lastId_createContainer (domId : String) (style : Style) (children : List NodeId) :
    (p.createContainer domId style children).1.lastId = p.lastId + 1 :=
  lastId_foldl_modify children _

/-- A new container leaves the paint hooks waiting. -/
theorem paints_createContainer (domId : String) (style : Style) (children : List NodeId) :
    (p.createContainer domId style children).1.paints = p.paints :=
  paints_foldl_modify children _

/-- Removing a listener leaves the paint hooks waiting. -/
theorem paints_removeListener? (l : Option ListenerId) :
    (p.removeListener? l).paints = p.paints := by
  cases l <;> rfl

/-- Posting leaves the paint hooks waiting. -/
theorem paints_post? (message : Option Posted) : (p.post? message).paints = p.paints := by
  cases message <;> rfl

/-- Removing a node leaves the paint hooks waiting. -/
theorem paints_remove (n : NodeId) : (p.remove n).paints = p.paints := by
  unfold remove
  dsimp only
  split <;> rfl

/-! ## Addresses and DOM ids -/

/-- The address that a node shows. -/
def src? (p : Page) (n : NodeId) : Option String := (p.node? n).bind Node.src

/-- The source of a node is the one its record names. -/
theorem src?_eq (n : NodeId) : p.src? n = ((p.node? n).map Node.src).join := by
  unfold src?
  cases p.node? n <;> rfl

/-- A replacement changes no source. -/
theorem src?_replace (old new n : NodeId) : (p.replace old new).src? n = p.src? n := by
  rw [src?_eq, src?_eq, map_node?_replace old new n fun _ _ => rfl]

/-- A load hook changes no source. -/
theorem src?_onLoad (m n : NodeId) (hook : LoadHook) : (p.onLoad m hook).src? n = p.src? n := rfl

/-- The DOM id of a node. -/
def domId? (p : Page) (n : NodeId) : Option String := (p.node? n).map Node.domId

/-- A replacement changes no DOM ID. -/
theorem domId?_replace (old new n : NodeId) : (p.replace old new).domId? n = p.domId? n :=
  map_node?_replace old new n fun _ _ => rfl

/-- A load hook changes no DOM ID. -/
theorem domId?_onLoad (m n : NodeId) (hook : LoadHook) :
    (p.onLoad m hook).domId? n = p.domId? n := rfl

/-! ## New nodes -/

/-- What a mount makes of the page: an iframe and a container, perhaps with a loader in between. No
other node changes. -/
structure Builds (p : Page) (c : Config) (url : String) (look : Style) (p' : Page)
    (nodes : Mounted) : Prop where
  iframe : nodes.iframe = p.lastId + 1
  container : nodes.iframe < nodes.container
  last : nodes.container = p'.lastId
  redraws : p.Redraws p'
  paints : p'.paints = p.paints
  /-- A field of the iframe, of the container and of the nodes that were there, other than their
  parent. -/
  fields : ∀ {α : Type} (field : Node → α),
    (∀ (node : Node) (parent : Option NodeId), field { node with parent } = field node) →
      (p'.node? nodes.iframe).map field =
          some (field { kind := .iframe, domId := c.frameId, src := some url, style := look }) ∧
        (∃ style children, (p'.node? nodes.container).map field =
          some (field { kind := .container, domId := containerId c.frameId, style, children })) ∧
        ∀ n, n ≤ p.lastId ∨ nodes.container < n → (p'.node? n).map field = (p.node? n).map field

/-- The iframe is there, and perhaps more; the container comes last. -/
theorem builds_createContainer {c : Config} {url : String} {look : Style} {p₁ : Page}
    (loader : Option NodeId) (children : List NodeId) (hlast : p.lastId + 1 ≤ p₁.lastId)
    (hredraws : p.Redraws p₁) (hpaints : p₁.paints = p.paints)
    (hiframe : p₁.node? (p.lastId + 1) =
      some { kind := .iframe, domId := c.frameId, src := some url, style := look })
    (hkept : ∀ n, n ≤ p.lastId ∨ p₁.lastId < n → p₁.node? n = p.node? n) :
    p.Builds c url look
      (p₁.createContainer (containerId c.frameId) (Look.container c.width c.height) children).1
      ⟨p.lastId + 1, loader, p₁.lastId + 1⟩ where
  iframe := rfl
  container := Nat.lt_succ_of_le hlast
  last := (lastId_createContainer _ _ _).symm
  redraws := hredraws.trans (redraws_createContainer _ _ _)
  paints := (paints_createContainer _ _ _).trans hpaints
  fields field hfield := by
    refine ⟨?_, ?_, fun n hn => ?_⟩
    · -- The iframe was made before the container.
      have hne : p.lastId + 1 ≠ p₁.lastId + 1 := by omega
      rw [map_node?_createContainer _ _ _ _ hfield, if_neg hne, hiframe]
      rfl
    · refine ⟨_, _, (map_node?_createContainer _ _ _ _ hfield).trans (if_pos rfl)⟩
    · have hn' : n ≤ p.lastId ∨ p₁.lastId + 1 < n := hn
      have hne : n ≠ p₁.lastId + 1 := by omega
      rw [map_node?_createContainer _ _ _ _ hfield, if_neg hne, hkept n (by omega)]

section Build

variable {c : Config} {url : String} {look : Style} {loader : Option Style} {nodes : Mounted}

/-- The nodes of a mount are built beside what is there. -/
theorem builds_build (h : p.build c url look loader = (p', nodes)) :
    p.Builds c url look p' nodes := by
  have hadded : ∀ (p : Page) (node : Node) n, (p.add node).1.node? n =
      if n = p.lastId + 1 then some node else p.node? n := fun p node n => Table.get?_insert _ _ _ _
  let iframe : Node := { kind := .iframe, domId := c.frameId, src := some url, style := look }
  have hiframe : (p.add iframe).1.node? (p.lastId + 1) = some iframe :=
    (hadded p iframe _).trans (if_pos rfl)
  have hkept : ∀ n, n ≤ p.lastId ∨ p.lastId + 1 < n → (p.add iframe).1.node? n = p.node? n := by
    intro n hn
    have hne : n ≠ p.lastId + 1 := by omega
    rw [hadded p iframe n, if_neg hne]
  unfold build at h
  cases loader with
  | none =>
    have hbuilt := builds_createContainer (p := p) (c := c) none [p.lastId + 1]
      (Nat.le_refl _) (redraws_add iframe) rfl hiframe hkept
    obtain ⟨rfl, rfl⟩ := Prod.mk.inj h
    exact hbuilt
  | some look' =>
    -- The loader is another node than the iframe.
    have hloader := fun n => hadded (p.add iframe).1
      { kind := .loader, domId := loaderId c.frameId, style := look' } n
    have hne : ∀ n, n ≤ p.lastId + 1 ∨ p.lastId + 2 < n → n ≠ (p.add iframe).1.lastId + 1 := by
      intro n hn
      show n ≠ p.lastId + 1 + 1
      omega
    have hbuilt := builds_createContainer (p := p) (c := c) (some (p.lastId + 2))
      [p.lastId + 2, p.lastId + 1] (Nat.le_succ _) ((redraws_add iframe).trans (redraws_add _)) rfl
      ((hloader _).trans ((if_neg (hne _ (.inl (Nat.le_refl _)))).trans hiframe))
      fun n hn => by
        have hn' : n ≤ p.lastId ∨ p.lastId + 2 < n := hn
        rw [hloader n, if_neg (hne n (by omega)), hkept n (by omega)]
    obtain ⟨rfl, rfl⟩ := Prod.mk.inj h
    exact hbuilt

/-- The iframe that a mount makes is a new node that shows the address it is given. -/
theorem build_spec (h : p.build c url look loader = (p', nodes)) :
    nodes.iframe = p.lastId + 1 ∧ nodes.iframe ≤ p'.lastId ∧ p.Redraws p' ∧
      p'.src? nodes.iframe = some url := by
  have hb := builds_build h
  obtain ⟨hsrc, -, -⟩ := hb.fields Node.src fun _ _ => rfl
  refine ⟨hb.iframe, ?_, hb.redraws, ?_⟩
  · exact hb.last ▸ Nat.le_of_lt hb.container
  · rw [src?_eq, hsrc]
    rfl

end Build

/-! ## Hooks of frames -/

/-- What waits for an iframe to load. -/
def hooksAt (p : Page) (n : NodeId) : List LoadHook := (p.loads.get? n).getD []

/-- The nodes that are there keep their DOM ids and get no more children, and new nodes get new
numbers. -/
structure KeepsNodes (p p' : Page) : Prop where
  lastId : p.lastId ≤ p'.lastId
  domIds : ∀ n ≤ p.lastId, p'.domId? n = p.domId? n
  children : ∀ n ≤ p.lastId, p'.childrenOf n ⊆ p.childrenOf n
  made : ∀ n, p'.lastId < n → p'.domId? n = p.domId? n

/-- Nodes that are kept twice are kept. -/
theorem KeepsNodes.trans (h : p.KeepsNodes p') (h' : p'.KeepsNodes p'') : p.KeepsNodes p'' where
  lastId := Nat.le_trans h.lastId h'.lastId
  domIds n hn := (h'.domIds n (Nat.le_trans hn h.lastId)).trans (h.domIds n hn)
  children n hn := List.Subset.trans (h'.children n (Nat.le_trans hn h.lastId)) (h.children n hn)
  made n hn := (h'.made n hn).trans (h.made n (Nat.lt_of_le_of_lt h'.lastId hn))

/-- A page with the same nodes keeps them, however far it has numbered. -/
theorem keepsNodes_of_nodes (hlast : p.lastId ≤ p'.lastId) (hnodes : p'.nodes = p.nodes) :
    p.KeepsNodes p' := by
  have hnode : ∀ n, p'.node? n = p.node? n := fun n => by
    unfold node?
    rw [hnodes]
  refine ⟨hlast, fun n _ => ?_, fun n _ => ?_, fun n _ => ?_⟩
  · exact congrArg (Option.map Node.domId) (hnode n)
  · unfold childrenOf
    rw [hnode]
    exact List.Subset.refl _
  · exact congrArg (Option.map Node.domId) (hnode n)

/-- Nodes are changed, but neither their DOM ids nor their children. -/
theorem keepsNodes_of_fields (hlast : p.lastId ≤ p'.lastId)
    (hfields : ∀ {α : Type} (field : Node → α),
      (∀ (node : Node) (parent : Option NodeId), field { node with parent } = field node) →
      (∀ (node : Node) (attached : Bool), field { node with attached } = field node) →
      ∀ n, n ≤ p.lastId ∨ p'.lastId < n → (p'.node? n).map field = (p.node? n).map field) :
    p.KeepsNodes p' := by
  refine ⟨hlast, fun n hn => ?_, fun n hn => ?_, fun n hn => ?_⟩
  · exact hfields Node.domId (fun _ _ => rfl) (fun _ _ => rfl) n (.inl hn)
  · unfold childrenOf
    rw [hfields Node.children (fun _ _ => rfl) (fun _ _ => rfl) n (.inl hn)]
    exact List.Subset.refl _
  · exact hfields Node.domId (fun _ _ => rfl) (fun _ _ => rfl) n (.inr hn)

/-- The page changes, but nodes stay what they are and frames get no new hooks. -/
structure Ages (p p' : Page) : Prop extends KeepsNodes p p' where
  loads : ∀ n f g, .connect f g ∈ p'.hooksAt n → .connect f g ∈ p.hooksAt n
  fading : p'.fading.Sublist p.fading

/-- A page ages by staying as it is. -/
theorem Ages.refl (p : Page) : p.Ages p :=
  ⟨keepsNodes_of_nodes (Nat.le_refl _) rfl, fun _ _ _ h => h, List.Sublist.refl _⟩

/-- A page that has aged twice has aged. -/
theorem Ages.trans (h : p.Ages p') (h' : p'.Ages p'') : p.Ages p'' where
  toKeepsNodes := h.toKeepsNodes.trans h'.toKeepsNodes
  loads n f g hhook := h.loads n f g (h'.loads n f g hhook)
  fading := h'.fading.trans h.fading

/-- An older page has no paint hook of a frame that the younger one had not. -/
theorem Ages.paints (h : p.Ages p') (hook : PaintHook) (hhook : hook ∈ p'.paints)
    (hm : hook.mount? ≠ none) : hook ∈ p.paints := by
  have hfading : hook ∈ p'.fading :=
    List.mem_filter.mpr ⟨hhook, Option.isSome_iff_ne_none.mpr hm⟩
  exact (List.mem_filter.mp (h.fading.subset hfading)).1

/-- Only nodes are changed or added. -/
theorem Redraws.ages (h : p.Redraws p') (hpaints : p'.paints = p.paints)
    (hnodes : p.KeepsNodes p') : p.Ages p' where
  toKeepsNodes := hnodes
  loads n f g hhook := by
    unfold hooksAt at hhook ⊢
    rwa [h.loads] at hhook
  fading := by
    have hsame : p'.fading = p.fading := congrArg (List.filter _) hpaints
    exact hsame ▸ List.Sublist.refl _

/-- A page ages by a new node. -/
theorem ages_add (node : Node) : p.Ages (p.add node).1 := by
  refine (redraws_add node).ages rfl (keepsNodes_of_fields (Nat.le_succ _) ?_)
  intro α field _ _ n hn
  have hn' : n ≤ p.lastId ∨ p.lastId + 1 < n := hn
  have hne : n ≠ p.lastId + 1 := by omega
  exact (map_node?_add node n).trans (if_neg hne)

/-- A page ages by a modification that keeps the DOM ID and gives no new children. -/
theorem ages_modify (n : NodeId) {g : Node → Node} (hid : ∀ node, (g node).domId = node.domId)
    (hchildren : ∀ node, (g node).children ⊆ node.children) : p.Ages (p.modify n g) := by
  have hids : ∀ m, (p.modify n g).domId? m = p.domId? m := fun m => map_node?_modify n m hid
  refine (redraws_modify n g).ages rfl ⟨Nat.le_refl _, fun m _ => hids m, fun m _ => ?_, fun m _ =>
    hids m⟩
  unfold childrenOf node? modify
  rw [Table.get?_modify]
  split
  · cases p.nodes.get? m with
    | none => exact List.Subset.refl _
    | some node => exact hchildren node
  · exact List.Subset.refl _

/-- A page ages by a new container. -/
theorem ages_createContainer (domId : String) (style : Style) (children : List NodeId) :
    p.Ages (p.createContainer domId style children).1 := by
  have hlast := lastId_createContainer (p := p) domId style children
  refine (redraws_createContainer _ _ _).ages (paints_createContainer _ _ _)
    (keepsNodes_of_fields (by omega) ?_)
  intro α field hparent _ n hn
  have hne : n ≠ p.lastId + 1 := by omega
  rw [map_node?_createContainer _ _ _ n hparent, if_neg hne]

/-- A page ages by a replacement. -/
theorem ages_replace (old new : NodeId) : p.Ages (p.replace old new) :=
  (redraws_replace old new).ages rfl <| keepsNodes_of_fields (Nat.le_refl _)
    fun _ _ hattached n _ => map_node?_replace old new n hattached

/-- A page ages by a removal. -/
theorem ages_remove (n : NodeId) : p.Ages (p.remove n) := by
  have hredraws : p.Redraws (p.setAttached n false) := ⟨Nat.le_refl _, rfl, rfl⟩
  have hdetached : p.Ages (p.setAttached n false) :=
    hredraws.ages rfl <| keepsNodes_of_fields (Nat.le_refl _)
      fun _ _ hattached m _ => map_node?_setAttached n m false (hattached · false)
  unfold remove
  dsimp only
  split
  · exact hdetached
  · exact hdetached.trans (ages_modify _ (fun _ => rfl) fun _ => List.filter_sublist.subset)

/-- A page ages when a frame's own attributes are restored. -/
theorem ages_restored (frame : Frame) : p.Ages (Host.restoredPage p frame) := by
  unfold Host.restoredPage
  split
  · exact Ages.refl p
  · exact (ages_add _).trans (ages_replace _ _)

/-- A hook on the loading of an iframe stands behind those that wait already. -/
theorem hooksAt_onLoad (m n : NodeId) (hook : LoadHook) :
    (p.onLoad m hook).hooksAt n = if n = m then p.hooksAt n ++ [hook] else p.hooksAt n := by
  unfold hooksAt onLoad
  dsimp only
  rw [Table.get?_insert]
  split
  · next hn =>
    rw [hn]
    rfl
  · rfl

/-- What waits for an iframe to load is taken there, and nowhere else. -/
theorem hooksAt_takeLoads (m n : NodeId) :
    (p.takeLoads m).2.hooksAt n = if n = m then [] else p.hooksAt n := by
  unfold hooksAt takeLoads
  dsimp only
  rw [Table.get?_erase]
  split <;> rfl

/-! ## Changes of looks -/

/-- Nodes get another look at most, and frames get no new hooks. -/
structure Retouches (p p' : Page) : Prop extends Ages p p' where
  shapes : ∀ n, (p'.node? n).map Node.shape = (p.node? n).map Node.shape

/-- A field that belongs to the shape of a node. -/
theorem map_node?_of_shape {α : Type} {n : NodeId}
    (h : (p'.node? n).map Node.shape = (p.node? n).map Node.shape) (field : Node → α)
    (hfield : ∀ node : Node, field node.shape = field node) :
    (p'.node? n).map field = (p.node? n).map field := by
  have hcomp : field ∘ Node.shape = field := funext hfield
  have hshape := congrArg (Option.map field) h
  rwa [Option.map_map, Option.map_map, hcomp] at hshape

/-- A page is retouched by nothing. -/
theorem Retouches.refl (p : Page) : p.Retouches p := ⟨Ages.refl p, fun _ => rfl⟩

/-- A page retouched twice is retouched. -/
theorem Retouches.trans (h : p.Retouches p') (h' : p'.Retouches p'') : p.Retouches p'' :=
  ⟨h.toAges.trans h'.toAges, fun n => (h'.shapes n).trans (h.shapes n)⟩

/-- The nodes stay as they are, and frames get no new hooks. -/
theorem retouches_of_nodes (hlast : p.lastId ≤ p'.lastId) (hnodes : p'.nodes = p.nodes)
    (hloads : ∀ n f g, .connect f g ∈ p'.hooksAt n → .connect f g ∈ p.hooksAt n)
    (hfading : p'.fading.Sublist p.fading) : p.Retouches p' := by
  refine ⟨⟨keepsNodes_of_nodes hlast hnodes, hloads, hfading⟩, fun n => ?_⟩
  unfold node?
  rw [hnodes]

/-- A modification that keeps the shape of its node retouches the page. -/
theorem retouches_modify (n : NodeId) {g : Node → Node}
    (hg : ∀ node, (g node).shape = node.shape) : p.Retouches (p.modify n g) := by
  have hid : ∀ node, (g node).shape.domId = node.shape.domId := fun node =>
    congrArg Node.domId (hg node)
  have hchildren : ∀ node, (g node).shape.children ⊆ node.shape.children := fun node => by
    rw [hg]
    exact List.Subset.refl _
  exact ⟨ages_modify n hid hchildren, fun m => map_node?_modify n m hg⟩

/-- A style retouches the page. -/
theorem retouches_setStyle (n : NodeId) (style : Style) : p.Retouches (p.setStyle n style) :=
  retouches_modify n fun _ => rfl

/-- A document shown retouches the page. -/
theorem retouches_showDocument (n : NodeId) (html : String) :
    p.Retouches (p.showDocument n html) :=
  retouches_modify n fun _ => rfl

/-- Posting a message retouches the page. -/
theorem retouches_post? (message : Option Posted) : p.Retouches (p.post? message) := by
  cases message with
  | none => exact Retouches.refl p
  | some message =>
    exact retouches_of_nodes (Nat.le_refl _) rfl (fun _ _ _ h => h) (List.Sublist.refl _)

/-- A new listener retouches the page. -/
theorem retouches_addListener (l : Listener) : p.Retouches (p.addListener l).1 :=
  retouches_of_nodes (Nat.le_succ _) rfl (fun _ _ _ h => h) (List.Sublist.refl _)

/-- Removing a listener numbers no node. -/
@[simp] theorem lastId_removeListener? (l : Option ListenerId) :
    (p.removeListener? l).lastId = p.lastId := by
  cases l <;> rfl

/-- Removing a listener retouches the page. -/
theorem retouches_removeListener? (l : Option ListenerId) : p.Retouches (p.removeListener? l) := by
  cases l with
  | none => exact Retouches.refl p
  | some l => exact retouches_of_nodes (Nat.le_refl _) rfl (fun _ _ _ h => h) (List.Sublist.refl _)

/-- An edit that keeps the shapes retouches the page. -/
theorem retouches_edit {e : Edit} (he : e.reshapes = false) : p.Retouches (p.edit e) := by
  cases e with
  | add | wrap | replace | remove => cases he
  | setStyle n style => exact retouches_setStyle n style
  | showDocument n html => exact retouches_showDocument n html
  -- The host's own hooks belong to no mount, so those of mounts stay.
  | onLoad m cb =>
    refine retouches_of_nodes (Nat.le_refl _) rfl (fun n f g hhook => ?_)
      (List.Sublist.refl _)
    change _ ∈ (p.onLoad m (.host cb)).hooksAt n at hhook
    rw [hooksAt_onLoad] at hhook
    split at hhook
    · rcases List.mem_append.mp hhook with hhook | hhook
      · exact hhook
      · cases List.mem_singleton.mp hhook
    · exact hhook
  | takeLoads m =>
    refine retouches_of_nodes (Nat.le_refl _) rfl (fun n f g hhook => ?_)
      (List.Sublist.refl _)
    change _ ∈ (p.takeLoads m).2.hooksAt n at hhook
    rw [hooksAt_takeLoads] at hhook
    split at hhook
    · cases hhook
    · exact hhook
  -- Nor is its hook one that fades a loader.
  | afterPaint cb =>
    refine retouches_of_nodes (Nat.le_refl _) rfl (fun _ _ _ h => h) ?_
    have hsame : (p.edit (.afterPaint cb)).fading = p.fading := by
      show (p.paints ++ [PaintHook.host cb]).filter _ = _
      rw [List.filter_append]
      exact List.append_nil _
    exact hsame ▸ List.Sublist.refl _
  | takePaint =>
    exact retouches_of_nodes (Nat.le_refl _) rfl (fun _ _ _ h => h)
      ((List.tail_sublist p.paints).filter _)
  | addListener cb => exact retouches_addListener _
  | removeListener id => exact retouches_removeListener? (some id)
  | post | takePosted =>
    exact retouches_of_nodes (Nat.le_refl _) rfl (fun _ _ _ h => h) (List.Sublist.refl _)

/-- Whatever happens to a page apart from the moves of frames gives them no hooks. -/
theorem ages_edit (e : Edit) : p.Ages (p.edit e) := by
  cases e with
  | add node => exact ages_add node
  | wrap domId style children => exact ages_createContainer domId style children
  | replace old new => exact ages_replace old new
  | remove n => exact ages_remove n
  | _ => exact (retouches_edit rfl).toAges

/-- A page ages when the nodes of a mount are built. -/
theorem Builds.ages {c : Config} {url : String} {look : Style} {nodes : Mounted}
    (h : p.Builds c url look p' nodes) : p.Ages p' := by
  refine h.redraws.ages h.paints (keepsNodes_of_fields h.redraws.lastId ?_)
  intro α field hparent _ n hn
  exact (h.fields field hparent).2.2 n (h.last ▸ hn)

end Page

end FrameHost
