import FrameHost.Proofs.StaleHooks
import FrameHost.Proofs.Subtrees

/-!
# The nodes of a frame

A mount makes the nodes of its frame one after the other, so they are the nodes with the numbers from
that of the iframe to that of the container (`Mounted.Owns`). What is owned by different frames is
apart, and no node of a frame has a child that is not of the frame (`Host.Estates`). A loader that
fades, or is to go, is among the nodes of its frame as long as that is in the same mount
(`Host.Aims`). So whatever a frame does to its own nodes, other frames keep theirs.
-/

namespace FrameHost

/-- The loader that a hook on a paint is about. -/
def PaintHook.loader? : PaintHook → Option NodeId
  | .host _ => none
  | .fade _ _ l | .retire _ _ l => some l

namespace Mounted

variable {nodes nodes' : Mounted}

/-- A node was made by the mount that made `nodes`. -/
def Owns (nodes : Mounted) (n : NodeId) : Prop := nodes.iframe ≤ n ∧ n ≤ nodes.container

/-- The loader, if there is one, was made after the iframe and before the container. -/
structure Ordered (nodes : Mounted) : Prop where
  lt : nodes.iframe < nodes.container
  loader : ∀ l, nodes.loader = some l → nodes.iframe < l ∧ l < nodes.container

/-- The nodes of the same mount, perhaps without the loader. -/
structure Continues (nodes nodes' : Mounted) : Prop where
  iframe : nodes'.iframe = nodes.iframe
  container : nodes'.container = nodes.container
  loader : ∀ l, nodes'.loader = some l → nodes.loader = some l

/-- A mount continues as it is. -/
theorem Continues.refl (nodes : Mounted) : nodes.Continues nodes := ⟨rfl, rfl, fun _ hl => hl⟩

/-- A mount continues without its loader. -/
theorem Continues.unloaded (nodes : Mounted) : nodes.Continues { nodes with loader := none } :=
  ⟨rfl, rfl, nofun⟩

/-- A mount that continues owns the same nodes, the loader that is gone included. -/
theorem Continues.owns_iff (h : nodes.Continues nodes') (n : NodeId) :
    nodes'.Owns n ↔ nodes.Owns n := by
  unfold Owns
  rw [h.iframe, h.container]

/-- A mount that continues keeps its nodes in order. -/
theorem Continues.ordered (h : nodes.Continues nodes') (ho : nodes.Ordered) : nodes'.Ordered where
  lt := by
    rw [h.iframe, h.container]
    exact ho.lt
  loader l hl := by
    rw [h.iframe, h.container]
    exact ho.loader l (h.loader l hl)

/-- The iframe is one of the mount's nodes. -/
theorem Ordered.owns_iframe (h : nodes.Ordered) : nodes.Owns nodes.iframe :=
  ⟨Nat.le_refl _, Nat.le_of_lt h.lt⟩

/-- The container is one of the mount's nodes. -/
theorem Ordered.owns_container (h : nodes.Ordered) : nodes.Owns nodes.container :=
  ⟨Nat.le_of_lt h.lt, Nat.le_refl _⟩

/-- The loader, if there is one, is one of the mount's nodes. -/
theorem Ordered.owns_loader (h : nodes.Ordered) {l : NodeId} (hl : nodes.loader = some l) :
    nodes.Owns l :=
  ⟨Nat.le_of_lt (h.loader l hl).1, Nat.le_of_lt (h.loader l hl).2⟩

end Mounted

namespace Page

variable {p p' : Page}

/-- New nodes, of which only new ones are children. -/
structure Founds (p p' : Page) (nodes : Mounted) : Prop where
  new : p.lastId < nodes.iframe
  ordered : nodes.Ordered
  container_le : nodes.container ≤ p'.lastId
  closed : ∀ n c, nodes.Owns n → c ∈ p'.childrenOf n → nodes.Owns c

/-- Nodes that are laid are in order, the container last. -/
theorem Lays.ordered {c : Config} {nodes : Mounted} (h : p.Lays c p' nodes) : nodes.Ordered := by
  have hiframe := h.iframe
  rcases h.loader with ⟨hloader, hcontainer⟩ | ⟨hloader, hcontainer⟩
  · refine ⟨by lia, fun l hl => ?_⟩
    rw [hloader] at hl
    cases hl
  · refine ⟨by lia, fun l hl => ?_⟩
    have hl' : p.lastId + 2 = l := Option.some.inj (hloader.symm.trans hl)
    lia

/-- A node that a mount makes is the iframe, the loader or the container. -/
theorem Lays.owns_cases {c : Config} {nodes : Mounted} (h : p.Lays c p' nodes) {n : NodeId}
    (hn : nodes.Owns n) : n = nodes.iframe ∨ nodes.loader = some n ∨ n = nodes.container := by
  obtain ⟨hge, hle⟩ := hn
  have hiframe := h.iframe
  rcases h.loader with ⟨-, hcontainer⟩ | ⟨hloader, hcontainer⟩
  · have hcases : n = nodes.iframe ∨ n = nodes.container := by lia
    exact hcases.imp_right .inr
  · have hcases : n = nodes.iframe ∨ n = p.lastId + 2 ∨ n = nodes.container := by lia
    refine hcases.imp_right (Or.imp_left fun hn => ?_)
    rw [hn]
    exact hloader

/-- Laying nodes founds an estate of new ones. -/
theorem Lays.founds {c : Config} {nodes : Mounted} (h : p.Lays c p' nodes) : p.Founds p' nodes := by
  have hordered := h.ordered
  refine ⟨?_, hordered, Nat.le_of_eq h.container, fun n m hn hm => ?_⟩
  · rw [h.iframe]
    exact Nat.lt_succ_self _
  · -- The iframe and the loader have no children, the container has these two.
    rcases h.owns_cases hn with rfl | hl | rfl
    · obtain ⟨node, hnode, -, -, hnone, -⟩ := h.iframeNode
      rw [childrenOf_of_node? hnode, hnone] at hm
      cases hm
    · obtain ⟨node, hnode, -, hnone, -⟩ := h.loaderNode n hl
      rw [childrenOf_of_node? hnode, hnone] at hm
      cases hm
    · obtain ⟨node, hnode, -, -, hchildren⟩ := h.containerNode
      rw [childrenOf_of_node? hnode, hchildren] at hm
      rcases List.mem_append.mp hm with hm | hm
      · exact hordered.owns_loader (Option.mem_toList.mp hm)
      · rw [List.mem_singleton.mp hm]
        exact hordered.owns_iframe

/-- Laying nodes adds those the mount owns and no others. -/
theorem Lays.adds {c : Config} {nodes : Mounted} (h : p.Lays c p' nodes)
    (hnumbered : ∀ n, p.lastId < n → p.node? n = none) : p.Adds p' nodes.Owns where
  fresh n hn := hnumbered n (Nat.lt_of_lt_of_le h.founds.new hn.1)
  closed := h.founds.closed
  others n hn := by
    have hiframe := h.iframe
    unfold Mounted.Owns at hn
    refine h.others n ?_
    lia

end Page

namespace Host

variable {h h' : Host} {f : FrameRef} {frame frame' : Frame} {m : Move} {nodes nodes' : Mounted}
  {hook : PaintHook}

/-! ## Nodes that belong to frames -/

/-- The nodes of a frame. -/
def nodesOf? (h : Host) (f : FrameRef) : Option Mounted := (h.frame? f).bind Frame.nodes

/-- The nodes of a frame are those its state names. -/
theorem nodesOf?_of_frame? (hf : h.frame? f = some frame) : h.nodesOf? f = frame.nodes := by
  unfold nodesOf?
  rw [hf]
  rfl

/-- Nodes read for a frame are the ones its state names. -/
theorem nodesOf?_eq_some : h.nodesOf? f = some nodes ↔
    ∃ frame, h.frame? f = some frame ∧ frame.nodes = some nodes := Option.bind_eq_some_iff

/-- The nodes of frames have been made by their mounts, and those of different frames are apart; what
lies under a node of a frame is a node of the frame. -/
structure Estates (h : Host) : Prop where
  housed : h.Housed
  /-- No node has a number that is not given out yet. -/
  numbered : ∀ n, h.page.lastId < n → h.page.node? n = none
  ordered : ∀ f nodes, h.nodesOf? f = some nodes → nodes.Ordered
  apart : ∀ f f' nodes nodes' n, h.nodesOf? f = some nodes → h.nodesOf? f' = some nodes' →
    nodes.Owns n → nodes'.Owns n → f = f'
  closed : ∀ f nodes n c, h.nodesOf? f = some nodes → nodes.Owns n → c ∈ h.page.childrenOf n →
    nodes.Owns c

/-- Every node a mount owns has been numbered. -/
theorem Estates.le_lastId (he : h.Estates) (hn : h.nodesOf? f = some nodes) {n : NodeId}
    (howns : nodes.Owns n) : n ≤ h.page.lastId := by
  obtain ⟨frame, hf, hnodes⟩ := nodesOf?_eq_some.mp hn
  refine Nat.le_trans howns.2 (he.housed.container_le f frame _ hf ?_)
  rw [hnodes]
  rfl

/-- What lies under a node of a frame is a node of the frame. -/
theorem Estates.owns_of_under (he : h.Estates) (hn : h.nodesOf? f = some nodes) {n c : NodeId}
    (howns : nodes.Owns n) (hunder : h.page.Under n c) : nodes.Owns c :=
  hunder.mem_of_closed howns fun m c hm hc => he.closed f nodes m c hn hm hc

/-- What lies under a node of a frame is not a node of another frame. -/
theorem Estates.not_under (he : h.Estates) {f' : FrameRef} (hn : h.nodesOf? f = some nodes)
    (hn' : h.nodesOf? f' = some nodes') (hne : f' ≠ f) {n c : NodeId} (howns : nodes.Owns n)
    (howns' : nodes'.Owns c) : ¬ h.page.Under n c := fun hunder =>
  hne (he.apart f' f nodes' nodes c hn' hn howns' (he.owns_of_under hn howns hunder))

/-- Removing a listener numbers no node. -/
theorem Estates.numbered_removeListener? (he : h.Estates) (l : Option ListenerId) :
    ∀ n, (h.page.removeListener? l).lastId < n → (h.page.removeListener? l).node? n = none := by
  cases l <;> exact he.numbered

/-- A mount that is placed founds its estate on the page it found. -/
theorem Placed.founds {place : Place} {l : Option ListenerId}
    (hplaced : h.Placed h' f frame (h.page.removeListener? l) place nodes) :
    h.page.Founds h'.page nodes := by
  obtain ⟨-, ⟨p, hbuild, hpage⟩, -⟩ := hplaced
  have hlast : (h.page.removeListener? l).lastId = h.page.lastId := Page.lastId_removeListener? l
  have hfounds := (Page.lays_build hbuild).founds
  refine ⟨hlast ▸ hfounds.new, hfounds.ordered, hpage ▸ hfounds.container_le, fun n c hn hc => ?_⟩
  -- Where the nodes are put does not change their children.
  have hchildren : h'.page.childrenOf n = p.childrenOf n := by
    rw [hpage]
    exact Page.childrenOf_congr (Page.map_node?_replace _ _ n fun _ _ => rfl)
  rw [hchildren] at hc
  exact hfounds.closed n c hn hc

/-- A frame keeps its nodes, but perhaps for the loader, or a mount makes new ones. -/
theorem Turn.nodes_cases (ht : h.Turn f frame m frame') (hn : frame'.nodes = some nodes') :
    (∃ nodes, frame.nodes = some nodes ∧ nodes.Continues nodes') ∨
      ((∃ config, m = .mount f config) ∧ h.page.Founds (h.move m).page nodes') := by
  cases ht with
  | goesOn hgoes => exact .inl ⟨nodes', hgoes.nodes ▸ hn, .refl nodes'⟩
  | patched => exact .inl ⟨nodes', hn, .refl nodes'⟩
  | retired =>
    obtain ⟨nodes, hnodes, rfl⟩ := Option.map_eq_some_iff.mp hn
    exact .inl ⟨nodes, hnodes, .unloaded nodes⟩
  | unplaced | destroyed => cases hn
  | placed config className check hplaced =>
    cases hn
    exact .inr ⟨⟨config, rfl⟩, hplaced.founds⟩

/-- As long as a frame is in the same mount, it keeps its nodes. -/
theorem Turn.continues (ht : h.Turn f frame m frame') (hg : frame'.generation = frame.generation)
    (hn : frame.nodes = some nodes) : ∃ nodes', frame'.nodes = some nodes' ∧ nodes.Continues nodes' := by
  have hnot : frame.generation + 1 ≠ frame.generation := Nat.succ_ne_self _
  cases ht with
  | goesOn hgoes => exact ⟨nodes, hgoes.nodes.trans hn, .refl nodes⟩
  | patched => exact ⟨nodes, hn, .refl nodes⟩
  | retired => exact ⟨_, congrArg (Option.map _) hn, .unloaded nodes⟩
  | unplaced | placed | destroyed => exact absurd hg hnot

/-- The nodes of a frame after a move, told by those before it. -/
theorem nodesOf?_move (hn : (h.move m).nodesOf? f = some nodes') :
    (∃ nodes, h.nodesOf? f = some nodes ∧ nodes.Continues nodes') ∨
      ((∃ config, m = .mount f config) ∧ h.page.Founds (h.move m).page nodes') := by
  obtain ⟨frame', hf', hnodes'⟩ := nodesOf?_eq_some.mp hn
  cases hf : h.frame? f with
  | none =>
    rw [((turns_move m).blank f frame' hf hf').nodes] at hnodes'
    cases hnodes'
  | some frame =>
    obtain ⟨frame₁, hf₁, ht⟩ := (turns_move m).turn f frame hf
    cases hf₁.symm.trans hf'
    rw [nodesOf?_of_frame? hf]
    exact ht.nodes_cases hnodes'

/-- The estates stay apart in every move. -/
theorem Estates.move (he : h.Estates) (m : Move) : (h.move m).Estates := by
  have hleads := leads_move (h := h) m
  refine ⟨he.housed.move m, fun n hn => ?_, fun f nodes hn => ?_,
    fun f f' nodes nodes' n hn hn' howns howns' => ?_, fun f nodes n c hn howns hc => ?_⟩
  · have hnone : h.page.domId? n = none := by
      unfold Page.domId?
      rw [he.numbered n (Nat.lt_of_le_of_lt hleads.lastId hn)]
      rfl
    exact Option.map_eq_none_iff.mp ((hleads.made n hn).trans hnone)
  · rcases nodesOf?_move hn with ⟨old, hold, hcontinues⟩ | ⟨-, hfounds⟩
    · exact hcontinues.ordered (he.ordered f old hold)
    · exact hfounds.ordered
  · -- Two estates overlap neither if both are old nor if one is new.
    rcases nodesOf?_move hn with ⟨old, hold, hcontinues⟩ | ⟨⟨config, hm⟩, hfounds⟩
    · have hle := he.le_lastId hold ((hcontinues.owns_iff n).mp howns)
      rcases nodesOf?_move hn' with ⟨old', hold', hcontinues'⟩ | ⟨-, hfounds'⟩
      · exact he.apart f f' old old' n hold hold' ((hcontinues.owns_iff n).mp howns)
          ((hcontinues'.owns_iff n).mp howns')
      · exact absurd (Nat.lt_of_lt_of_le hfounds'.new howns'.1) (Nat.not_lt.mpr hle)
    · rcases nodesOf?_move hn' with ⟨old', hold', hcontinues'⟩ | ⟨⟨config', hm'⟩, -⟩
      · have hle := he.le_lastId hold' ((hcontinues'.owns_iff n).mp howns')
        exact absurd (Nat.lt_of_lt_of_le hfounds.new howns.1) (Nat.not_lt.mpr hle)
      · rw [hm] at hm'
        cases hm'
        rfl
  · rcases nodesOf?_move hn with ⟨old, hold, hcontinues⟩ | ⟨-, hfounds⟩
    · have howns' := (hcontinues.owns_iff n).mp howns
      have hc' := hleads.children n (he.le_lastId hold howns') hc
      exact (hcontinues.owns_iff c).mpr (he.closed f old n c hold howns' hc')
    · exact hfounds.closed n c howns hc

/-! ## Loaders that wait for a paint -/

/-- If the mount that a hook on a paint belongs to is not over, the loader of the hook is among the
nodes of the frame, neither the iframe nor the container. -/
def Aims (h : Host) (hook : PaintHook) : Prop :=
  ∀ f g l, hook.mount? = some (f, g) → hook.loader? = some l →
    ∃ frame, h.frame? f = some frame ∧ g ≤ frame.generation ∧
      (frame.generation = g →
        ∃ nodes, frame.nodes = some nodes ∧ nodes.iframe < l ∧ l < nodes.container)

/-- A hook keeps its aim in every move. -/
theorem Aims.move (ha : h.Aims hook) (m : Move) : (h.move m).Aims hook := by
  intro f g l hmount hl
  obtain ⟨frame, hf, hle, haims⟩ := ha f g l hmount hl
  obtain ⟨frame', hf', ht⟩ := (turns_move m).turn f frame hf
  have hle' := ht.generation_le
  refine ⟨frame', hf', Nat.le_trans hle hle', fun hg => ?_⟩
  -- The generation was not greater before, and not smaller.
  have hsame : frame.generation = g := by omega
  obtain ⟨nodes, hnodes, hlt, hgt⟩ := haims hsame
  obtain ⟨nodes', hnodes', hcontinues⟩ := ht.continues (hg.trans hsame.symm) hnodes
  refine ⟨nodes', hnodes', ?_⟩
  rw [hcontinues.iframe, hcontinues.container]
  exact ⟨hlt, hgt⟩

/-- A loader that is to fade is that of its frame, and one that fades is the one that was to fade. -/
theorem Asks.aims (ha : h.Asks m hook) (he : h.Estates)
    (hfade : ∀ f g l, m = .fade f g l → h.Aims (.fade f g l)) : h.Aims hook := by
  cases m with
  -- The hook is for the loader of the mount as it stands.
  | showContent f =>
    obtain ⟨frame, l, hf, hl, rfl⟩ := ha
    intro f' g l' hmount hl'
    cases hmount
    cases hl'
    obtain ⟨nodes, hnodes, hl⟩ := Option.bind_eq_some_iff.mp hl
    have hordered := he.ordered f nodes (nodesOf?_eq_some.mpr ⟨frame, hf, hnodes⟩)
    exact ⟨frame, hf, Nat.le_refl _, fun _ => ⟨nodes, hnodes, hordered.loader l hl⟩⟩
  -- The retirement is for the loader that the fading was for.
  | fade f g l =>
    obtain ⟨frame, hf, hg, rfl⟩ := ha
    intro f' g' l' hmount hl'
    cases hmount
    cases hl'
    exact hfade f g l rfl f g l rfl rfl
  | _ => exact ha.elim

/-- A mount asks for no painting. -/
theorem paints_mount (f : FrameRef) (config : Config) :
    (h.move (.mount f config)).page.paints = h.page.paints := by
  show (h.mount f config).1.page.paints = h.page.paints
  cases hf : h.frame? f with
  | none => rw [mount_of_none hf]
  | some frame =>
    rcases mount_cases hf config with ⟨-, -, -, hpage, -⟩ | ⟨place, nodes, -, -, hplaced⟩
    · rw [hpage, Page.paints_removeListener?]
    · obtain ⟨-, ⟨p, hbuild, hpage⟩, -⟩ := hplaced
      rw [hpage]
      exact (Page.builds_build hbuild).paints.trans (Page.paints_removeListener? frame.listener)

/-- The hooks of frames that wait for a paint after a move waited before it, but for one that the move
may have asked for. -/
theorem fading_move (m : Move) : (h.move m).page.fading.Sublist h.page.fading ∨
    ∃ hook, h.Asks m hook ∧ (h.move m).page.fading.Sublist (h.page.fading ++ [hook]) := by
  -- A move that shapes no nodes asks for one hook at most.
  cases hm : m.reshapes with
  | false =>
    obtain ⟨p, hretouches, hpage | ⟨hook, hasks, hpage⟩⟩ := page_move (h := h) hm
    · exact .inl (hpage ▸ hretouches.fading)
    · refine .inr ⟨hook, hasks, ?_⟩
      have hfading : (p.afterPaint hook).fading.Sublist (p.fading ++ [hook]) := by
        show ((p.paints ++ [hook]).filter _).Sublist _
        rw [List.filter_append]
        exact (List.Sublist.refl _).append List.filter_sublist
      rw [hpage]
      exact hfading.trans (hretouches.fading.append (List.Sublist.refl _))
  | true =>
    left
    cases m with
    | page e => exact (Page.ages_edit e).fading
    | mount f config =>
      have hsame : (h.move (.mount f config)).page.fading = h.page.fading :=
        congrArg (List.filter _) (paints_mount f config)
      exact hsame ▸ List.Sublist.refl _
    | destroy f => exact (ages_destroy f).fading
    | retire f g l => exact (ages_retire f g l).fading
    | _ => cases hm

/-- What waits for a paint after a move waited before it, or the move has asked for it. -/
theorem paints_move (hhook : hook ∈ (h.move m).page.paints) (hmount : hook.mount? ≠ none) :
    hook ∈ h.page.paints ∨ h.Asks m hook := by
  have hfading : hook ∈ (h.move m).page.fading :=
    List.mem_filter.mpr ⟨hhook, Option.isSome_iff_ne_none.mpr hmount⟩
  rcases fading_move (h := h) m with hsub | ⟨hook', hasks, hsub⟩
  · exact .inl (List.mem_filter.mp (hsub.subset hfading)).1
  · rcases List.mem_append.mp (hsub.subset hfading) with hold | hnew
    · exact .inl (List.mem_filter.mp hold).1
    · exact .inr (List.mem_singleton.mp hnew ▸ hasks)

end Host

namespace Session

open Host (Estates Aims)

variable {s : Session} {as : List Action} {job : Job} {jobs : List Job} {f : FrameRef}

/-- The nodes of frames are in order, and so are the loaders that wait for a paint. -/
structure Parcelled (s : Session) : Prop where
  estates : s.host.Estates
  aims : ∀ hook, s.AwaitsPaint hook → s.host.Aims hook

/-- A hook of the host's is about no loader. -/
theorem aims_of_host {h : Host} {hook : PaintHook} (hmount : hook.mount? = none) : h.Aims hook := by
  intro f g l hsome
  rw [hmount] at hsome
  cases hsome

/-- What a job changes keeps the nodes of frames in order. -/
theorem Parcelled.of_reaches (hs : s.Parcelled) (hagenda : s.agenda = job :: jobs) {h : Host}
    (hreaches : Host.Reaches job.Makes s.host h) :
    h.Estates ∧ (∀ hook ∈ h.page.paints, h.Aims hook) ∧
      ∀ hook, s.AwaitsPaint hook → h.Aims hook := by
  -- The three clauses together, move by move.
  refine hreaches.preserves (P := fun h => h.Estates ∧ (∀ hook ∈ h.page.paints, h.Aims hook) ∧
    ∀ hook, s.AwaitsPaint hook → h.Aims hook) ?_
    ⟨hs.estates, fun hook hhook => hs.aims hook (.inl hhook), hs.aims⟩
  rintro h m hm ⟨he, hpaints, hawaits⟩
  refine ⟨he.move m, fun hook hhook => ?_, fun hook hhook => (hawaits hook hhook).move m⟩
  cases hmount : hook.mount? with
  | none => exact aims_of_host hmount
  | some mount =>
    have hne : hook.mount? ≠ none := hmount ▸ Option.some_ne_none _
    rcases Host.paints_move hhook hne with hhook | hasks
    · exact (hpaints hook hhook).move m
    · -- Only a hook that has yet to run makes a loader fade.
      refine (hasks.aims he fun f g l hfade => ?_).move m
      rw [hfade] at hm
      have hjob : job = .painted (.fade f g l) := hm
      refine hawaits _ (.inr ?_)
      rw [hagenda, hjob]
      exact List.mem_cons_self

/-- A step of the session keeps the estates apart and the hooks on aim. -/
theorem Parcelled.step (hs : s.Parcelled) : s.step.Parcelled := by
  cases hagenda : s.agenda with
  | nil =>
    rw [step_nil hagenda]
    exact hs
  | cons job jobs =>
    obtain ⟨he, hpaints, hawaits⟩ := hs.of_reaches hagenda (step_reaches hagenda)
    refine ⟨he, fun hook hhook => ?_⟩
    rcases hhook with hhook | hhook
    · exact hpaints hook hhook
    · -- A hook on the agenda was there before, or was taken from the page.
      refine hawaits hook ?_
      rcases (step_hooks hagenda).2 hook hhook with hold | hold
      · exact .inr (hagenda ▸ List.mem_cons_of_mem job hold)
      · exact .inl hold

/-- Beginning an action keeps the estates apart and the hooks on aim. -/
theorem Parcelled.begin (hs : s.Parcelled) (a : Action) : (s.begin a).Parcelled := by
  have hhost := begin_host (s := s) a
  refine ⟨?_, fun hook hhook => ?_⟩
  · rw [hhost]
    exact hs.estates.move _
  · rcases hhook with hhook | hhook
    · rw [hhost]
      exact (hs.aims hook (.inl hhook)).move _
    · cases List.mem_singleton.mp hhook

/-- A session starts with no estate and no hook. -/
theorem parcelled_start (origin : String) (allowList : Option AllowList) (defaults : Config)
    (runtime : Bool) (scripts : List (List Action)) :
    (start origin allowList defaults runtime scripts).Parcelled where
  estates := {
    housed := housed_start ..
    numbered := fun n _ => rfl
    ordered := fun f nodes hn => by cases hn
    apart := fun f f' nodes nodes' n hn => by cases hn
    closed := fun f nodes n c hn => by cases hn }
  aims hook hhook := by
    rcases hhook with hhook | hhook <;> cases hhook

/-- The estates are apart and the hooks on aim in every state of a run. -/
theorem parcelled_after (hs : s.Parcelled) (i : ℕ) : (s.after as i).Parcelled :=
  after_induction hs (fun _ => Parcelled.step) (fun _ a _ _ ht => ht.begin a) i

end Session

end FrameHost
