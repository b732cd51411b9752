import FrameHost.Proofs.ContentReady
import FrameHost.Proofs.Neighbours

/-!
# Where loaders are

The loader of a mount is made as a child of the container, and this is where it is taken from when it
goes. What frames do leaves the parent of a node as it is and attaches new nodes only, so a loader that
is gone stays detached, and its container does not list it (`loader_gone`), unless the host itself puts
it into another container or in the place of another node (`Session.handles`).
-/

namespace FrameHost

namespace Page

variable {p p' p'' : Page} {n old new c : NodeId}

/-! ## Nodes that are left alone -/

/-- A change of the page puts the node `n` into a new container, or in the place of a node with what it
lies under. -/
def Edit.Puts (p : Page) (n : NodeId) : Edit → Prop
  | .wrap _ _ children => n ∈ children
  | .replace _ new => p.Under new n
  | _ => False

/-- The parent of a node. -/
def parentOf (p : Page) (n : NodeId) : Option NodeId := (p.node? n).bind Node.parent

/-- The parent of a node is the one its record names. -/
theorem parentOf_eq (n : NodeId) : p.parentOf n = ((p.node? n).map Node.parent).join := by
  unfold parentOf
  cases p.node? n <;> rfl

/-- Nodes with the same parent field have the same parent. -/
theorem parentOf_congr (h : (p'.node? n).map Node.parent = (p.node? n).map Node.parent) :
    p'.parentOf n = p.parentOf n := by
  rw [parentOf_eq, parentOf_eq, h]

/-- A node keeps its parent, and stays detached if it was. -/
structure Spares (p p' : Page) (n : NodeId) : Prop where
  parent : p'.parentOf n = p.parentOf n
  detached : p.isAttached n = false → p'.isAttached n = false

/-- A node spared twice is spared. -/
theorem Spares.trans (h : p.Spares p' n) (h' : p'.Spares p'' n) : p.Spares p'' n :=
  ⟨h'.parent.trans h.parent, fun hn => h'.detached (h.detached hn)⟩

/-- A node whose record stays is spared. -/
theorem spares_of_node? (h : p'.node? n = p.node? n) : p.Spares p' n where
  parent := parentOf_congr (congrArg _ h)
  detached hn := (isAttached_congr (congrArg _ h)).trans hn

/-- A node whose place and children stay is spared. -/
theorem spares_of_shapes (h : (p'.node? n).map Node.shape = (p.node? n).map Node.shape) :
    p.Spares p' n where
  parent := parentOf_congr (map_node?_of_shape h Node.parent fun _ => rfl)
  detached hn := (isAttached_congr (map_node?_of_shape h Node.attached fun _ => rfl)).trans hn

/-- A new node spares the earlier ones. -/
theorem spares_add (node : Node) (hn : n ≤ p.lastId) : p.Spares (p.add node).1 n :=
  spares_of_node? ((node?_add node n).trans (if_neg (Nat.ne_of_lt (Nat.lt_succ_of_le hn))))

/-- A new container spares the earlier nodes that do not become its children. -/
theorem spares_createContainer (domId : String) (style : Style) {children : List NodeId}
    (hn : n ≤ p.lastId) (hnot : n ∉ children) :
    p.Spares (p.createContainer domId style children).1 n := by
  refine (spares_add { kind := .container, domId, style, children } hn).trans (spares_of_node? ?_)
  let f : Node → Node := fun node => { node with parent := some (p.lastId + 1) }
  have hparents := node?_foldl_modify
    (p := (p.add { kind := .container, domId, style, children }).1) children n (f := f) fun _ => rfl
  exact hparents.trans (if_neg hnot)

/-- Replacing a node changes no parents. -/
theorem parentOf_replace (old new n : NodeId) : (p.replace old new).parentOf n = p.parentOf n :=
  parentOf_congr (map_node?_replace old new n fun _ _ => rfl)

/-- A replacement spares the nodes that are not put in. -/
theorem spares_replace (hn : ¬ p.Under new n) : p.Spares (p.replace old new) n where
  parent := parentOf_replace old new n
  detached hattached := by
    rw [isAttached_replace hn, hattached]
    rfl

/-- Removing a node spares every node: it puts none anywhere. -/
theorem spares_remove (m : NodeId) : p.Spares (p.remove m) n where
  parent := by
    have hdetached : (p.setAttached m false).parentOf n = p.parentOf n :=
      parentOf_congr (map_node?_setAttached m n false fun _ => rfl)
    unfold remove
    dsimp only
    split
    · exact hdetached
    · refine Eq.trans ?_ hdetached
      exact parentOf_congr (map_node?_modify _ n fun _ => rfl)
  detached hattached := by
    rw [isAttached_remove, hattached]
    rfl

/-- An edit of the page spares the nodes that it does not put anywhere. -/
theorem spares_edit {e : Edit} (hn : n ≤ p.lastId) (he : ¬ e.Puts p n) :
    p.Spares (p.edit e) n := by
  cases e with
  | add node => exact spares_add node hn
  | wrap domId style children => exact spares_createContainer domId style hn he
  | replace old new => exact spares_replace he
  | remove m => exact spares_remove m
  | _ => exact spares_of_shapes ((retouches_edit rfl).shapes n)

/-- New nodes that take the place of old ones leave the others alone. -/
theorem Adds.spares {S : NodeId → Prop} (ha : p.Adds p' S) (hnew : S new) (hn : ¬ S n) :
    p.Spares (p'.replace old new) n where
  parent := by
    calc (p'.replace old new).parentOf n
        = p'.parentOf n := parentOf_replace old new n
      _ = p.parentOf n := parentOf_congr (congrArg _ (ha.others n hn))
  detached hattached := by
    rw [ha.isAttached_replace hnew hn, hattached]
    rfl

/-- A node that is removed is not listed by its parent any more. -/
theorem not_mem_childrenOf_remove (hparent : p.parentOf n = some c) :
    n ∉ (p.remove n).childrenOf c := by
  obtain ⟨node, hnode, hnodeParent⟩ := Option.bind_eq_some_iff.mp hparent
  unfold childrenOf
  rw [node?_remove hnode hnodeParent]
  cases p.node? c with
  | none => exact List.not_mem_nil
  | some container => simp

end Page

namespace Host

variable {h : Host} {f : FrameRef} {g : ℕ} {m : Move} {n l c : NodeId}

/-- A move keeps the parents of nodes and attaches new nodes only, unless the host itself puts nodes
somewhere. -/
theorem spares_move (he : h.Estates) (hn : n ≤ h.page.lastId)
    (hm : ∀ e, m = .page e → ¬ e.Puts h.page n) : h.page.Spares (h.move m).page n := by
  cases hreshapes : m.reshapes with
  | false => exact Page.spares_of_shapes (shape_move hreshapes n)
  | true =>
    have hrefl : h.page.Spares h.page n := Page.spares_of_node? rfl
    have hunlistened : ∀ l, h.page.Spares (h.page.removeListener? l) n := fun l =>
      Page.spares_of_shapes ((Page.retouches_removeListener? l).shapes n)
    cases m with
    | page e => exact Page.spares_edit hn (hm e rfl)
    | mount f config =>
      show h.page.Spares (h.mount f config).1.page n
      cases hf : h.frame? f with
      | none => rwa [mount_of_none hf]
      | some frame =>
        rcases mount_cases hf config with ⟨-, -, -, hpage, -⟩ | ⟨place, nodes, -, -, hplaced⟩
        · rw [hpage]
          exact hunlistened _
        · have hfounds := hplaced.founds
          obtain ⟨-, ⟨p, hbuild, hpage⟩, -⟩ := hplaced
          have hlays := Page.lays_build hbuild
          have hadds := hlays.adds (he.numbered_removeListener? frame.listener)
          -- The nodes of the mount are new.
          have hold : ¬ nodes.Owns n := fun howns =>
            absurd (Nat.lt_of_lt_of_le hfounds.new howns.1) (Nat.not_lt.mpr hn)
          have hplace : (h.page.removeListener? frame.listener).Spares
              (p.replace place.node nodes.container) n :=
            hadds.spares hlays.ordered.owns_container hold
          rw [hpage]
          exact (hunlistened frame.listener).trans (hplace.trans (Page.spares_of_node? rfl))
    | destroy f =>
      show h.page.Spares (h.destroy f).page n
      cases hf : h.frame? f with
      | none => rwa [destroy_of_none hf]
      | some frame =>
        rcases destroy_cases hf with ⟨-, hsame⟩ | ⟨-, -, hpage, -⟩
        · rwa [hsame]
        · rw [hpage]
          refine (hunlistened frame.listener).trans ?_
          unfold restoredPage
          split
          · exact Page.spares_of_node? rfl
          · have hfresh := he.numbered_removeListener? frame.listener _ (Nat.lt_succ_self _)
            have hold : n ≠ (h.page.removeListener? frame.listener).lastId + 1 := by
              rw [Page.lastId_removeListener?]
              exact Nat.ne_of_lt (Nat.lt_succ_of_le hn)
            exact (Page.adds_add rfl hfresh).spares rfl hold
    | retire f g l =>
      show h.page.Spares (h.retireLoader f g l).1.page n
      cases hf : h.frame? f with
      | none => rwa [retireLoader_of_none hf]
      | some frame =>
        rcases retireLoader_cases hf g l with ⟨-, hsame⟩ | ⟨-, -, hpage, -⟩
        · rwa [hsame]
        · rw [hpage]
          exact Page.spares_remove l
    | _ => cases hreshapes

/-! ## Loaders in their containers -/

/-- The container of a frame with the loader `l` is the parent of this loader. -/
def Tethered (h : Host) (l : NodeId) : Prop :=
  ∀ f nodes, h.nodesOf? f = some nodes → nodes.loader = some l →
    h.page.parentOf l = some nodes.container

/-- A mount makes the loader as a child of the container. -/
theorem parentOf_mount {config : Config} {nodes : Mounted} {frame : Frame}
    (hf : h.frame? f = some frame) (hnodes : (h.mount f config).1.nodesOf? f = some nodes)
    (hl : nodes.loader = some l) : (h.mount f config).1.page.parentOf l = some nodes.container := by
  rcases mount_cases hf config with ⟨-, -, hs, -⟩ | ⟨place, own, -, -, hplaced⟩
  · rw [nodesOf?_of_frame? hs.frame?] at hnodes
    cases hnodes
  · obtain ⟨⟨check, hs⟩, ⟨p, hbuild, hpage⟩, -⟩ := hplaced
    rw [nodesOf?_of_frame? hs.frame?] at hnodes
    obtain rfl : own = nodes := Option.some.inj hnodes
    -- The loader was made a child of the container, and showing the container changes no parent.
    obtain ⟨node, hnode, -, -, hparent⟩ := (Page.lays_build hbuild).loaderNode l hl
    rw [hpage]
    calc (p.replace place.node own.container).parentOf l
        = p.parentOf l := Page.parentOf_replace _ _ _
      _ = some own.container := by
          unfold Page.parentOf
          rw [hnode]
          exact hparent

/-- A loader stays tethered in every move but an edit that puts it elsewhere. -/
theorem Tethered.move (ht : h.Tethered l) (he : h.Estates)
    (hm : ∀ e, m = .page e → ¬ e.Puts h.page l) : (h.move m).Tethered l := by
  intro f nodes' hn' hl'
  rcases nodesOf?_move hn' with ⟨nodes, hn, hcontinues⟩ | ⟨⟨config, rfl⟩, -⟩
  · -- An estate that goes on, whose nodes no move hands to another parent.
    have hl := hcontinues.loader l hl'
    obtain ⟨hlt, hgt⟩ := (he.ordered f nodes hn).loader l hl
    have hle := he.le_lastId hn ⟨Nat.le_of_lt hlt, Nat.le_of_lt hgt⟩
    rw [(spares_move he hle hm).parent, hcontinues.container]
    exact ht f nodes hn hl
  · cases hf : h.frame? f with
    -- A new estate, unless there is no frame to mount.
    | none =>
      have hsame : h.move (.mount f config) = h := congrArg Prod.fst (mount_of_none hf config)
      rw [hsame] at hn' ⊢
      exact ht f nodes' hn' hl'
    | some frame => exact parentOf_mount hf hn' hl'

/-- The loader `l` of the mount `g` is gone: it is detached, and the container `c` of the mount does not
list it. -/
structure Rid (h : Host) (f : FrameRef) (g : ℕ) (l c : NodeId) : Prop where
  container : h.During f g fun frame => frame.nodes.map Mounted.container = some c
  loader_le : l ≤ h.page.lastId
  container_le : c ≤ h.page.lastId
  detached : h.page.isAttached l = false
  unlisted : l ∉ h.page.childrenOf c

/-- A mount keeps its container. -/
theorem During.container_move
    (hd : h.During f g fun frame => frame.nodes.map Mounted.container = some c) (m : Move) :
    (h.move m).During f g fun frame => frame.nodes.map Mounted.container = some c := by
  obtain ⟨frame, hf, hle, hframe⟩ := hd
  obtain ⟨frame', hf', ht⟩ := (turns_move m).turn f frame hf
  have hle' := ht.generation_le
  refine ⟨frame', hf', Nat.le_trans hle hle', fun hg => ?_⟩
  have hbefore : frame.generation = g := by omega
  obtain ⟨nodes, hnodes, hc⟩ := Option.map_eq_some_iff.mp (hframe hbefore)
  obtain ⟨nodes', hnodes', hcontinues⟩ := ht.continues (hg.trans hbefore.symm) hnodes
  show frame'.nodes.map Mounted.container = some c
  rw [hnodes', Option.map_some, hcontinues.container, hc]

/-- A frame rid of its loader stays rid of it, unless an edit puts the node back. -/
theorem Rid.move (hr : h.Rid f g l c) (he : h.Estates)
    (hm : ∀ e, m = .page e → ¬ e.Puts h.page l) : (h.move m).Rid f g l c where
  container := hr.container.container_move m
  loader_le := Nat.le_trans hr.loader_le (leads_move m).lastId
  container_le := Nat.le_trans hr.container_le (leads_move m).lastId
  detached := (spares_move he hr.loader_le hm).detached hr.detached
  unlisted hmem := hr.unlisted ((leads_move m).children c hr.container_le hmem)

/-- A loader is taken from its container, and from the page. -/
theorem rid_retire (he : h.Estates) (ht : h.Tethered l) {frame : Frame} {nodes : Mounted}
    (hf : h.frame? f = some frame) (hnodes : frame.nodes = some nodes)
    (hl : nodes.loader = some l) :
    (h.operate f (.retire frame.generation l)).Rid f frame.generation l nodes.container := by
  have hn : h.nodesOf? f = some nodes := (nodesOf?_of_frame? hf).trans hnodes
  have hordered := he.ordered f nodes hn
  -- The loader and its container are nodes that exist.
  obtain ⟨hlt, hgt⟩ := hordered.loader l hl
  have hle := he.le_lastId hn ⟨Nat.le_of_lt hlt, Nat.le_of_lt hgt⟩
  have hcontainer := he.le_lastId hn hordered.owns_container
  have hduring : h.During f frame.generation fun frame =>
      frame.nodes.map Mounted.container = some nodes.container :=
    ⟨frame, hf, Nat.le_refl _, fun _ => congrArg (Option.map Mounted.container) hnodes⟩
  have hlast := (leads_move (h := h) (.retire f frame.generation l)).lastId
  rcases retireLoader_cases hf frame.generation l with ⟨hne, -⟩ | ⟨-, -, hpage, -⟩
  · exact absurd rfl hne
  · change (h.operate f (.retire frame.generation l)).page = _ at hpage
    refine ⟨hduring.container_move (.retire f frame.generation l), Nat.le_trans hle hlast,
      Nat.le_trans hcontainer hlast, ?_, ?_⟩
    · have hunder : h.page.Under l l := .root
      rw [hpage, Page.isAttached_remove]
      simp [hunder]
    · rw [hpage]
      exact Page.not_mem_childrenOf_remove (ht f nodes hn hl)

end Host

namespace Session

open Host (Estates Tethered Rid)

variable {s : Session} {as : List Action} {f : FrameRef} {i k : ℕ} {n l : NodeId}
  {P : Host → Prop}

/-! ## Runs -/

/-- The host itself puts the node `n` somewhere with the next job: into a container, or in the place of
another node. -/
def handles (s : Session) (n : NodeId) : Bool :=
  match s.agenda with
  | .act _ (.page (.createContainer _ _ children)) :: _ => decide (n ∈ children)
  | .act _ (.page (.replace _ new)) :: _ => decide (s.host.page.Under (s.nodeId new) n)
  | _ => false

/-- What every move keeps by which the host does not put `n` somewhere is kept by a step in which it does
not do so. -/
theorem preserves_step
    (hP : ∀ h m, (∀ e, m = .page e → ¬ e.Puts h.page n) → P h → P (h.move m)) (hs : P s.host)
    (hnot : s.handles n = false) : P s.step.host := by
  cases hagenda : s.agenda with
  | nil => rwa [step_nil hagenda]
  | cons job jobs =>
    unfold handles at hnot
    rw [hagenda] at hnot
    cases hedits : job.editsNodes with
    | false =>
      refine (step_reaches hagenda).preserves (P := P) (fun h m hm hh => hP h m ?_ hh) hs
      rintro e rfl hputs
      cases e with
      | wrap | replace => exact Bool.noConfusion (hedits.symm.trans hm)
      | _ => exact hputs
    | true =>
      have hedit : ∀ e : Page.Edit, ¬ e.Puts s.host.page n → P (s.host.move (.page e)) :=
        fun e he => hP _ _ (fun e' heq => by cases heq; exact he) hs
      rw [step_cons hagenda]
      -- The operations by which the host changes nodes, one by one.
      unfold Job.editsNodes at hedits
      split at hedits
      · exact hedit (.add _) id
      · exact hedit (.add _) id
      · exact hedit (.add _) id
      · exact hedit (.wrap _ _ _) fun hputs => of_decide_eq_false hnot hputs
      · exact hedit (.add _) id
      · exact hedit (.replace _ _) fun hputs => of_decide_eq_false hnot hputs
      · exact hedit (.remove _) id
      · cases hedits

/-- What every move keeps, the edits that put a node apart, holds along a run in which the host does
not handle that node. -/
theorem preserves_after
    (hP : ∀ h m, (∀ e, m = .page e → ¬ e.Puts h.page n) → P h → P (h.move m)) (hik : i ≤ k)
    (hs : P (s.after as i).host) (hnot : ∀ j < k, (s.after as j).handles n = false) :
    P (s.after as k).host := by
  refine after_induction_from (P := fun t => P t.host) hik hs (fun j _ hjk hj => ?_)
    fun j a _ _ hj => ?_
  · exact preserves_step hP hj (hnot j hjk)
  · exact hP _ (.page .takePosted) (fun e heq => by cases heq; exact id) hj

/-- A loader that a mount has had and has no more is detached, and the container does not list it,
unless the host has put it somewhere. -/
theorem loader_gone (origin : String) (allowList : Option AllowList) (defaults : Config)
    (runtime : Bool) (scripts : List (List Action)) (as : List Action) {frame : Frame} :
    let s := start origin allowList defaults runtime scripts
    (s.after as k).host.frame? f = some frame → frame.loader? = none →
    s.MountsLoader as f frame.generation l → (∀ j < k, (s.after as j).handles l = false) →
    (s.after as k).host.page.isAttached l = false ∧
      ∀ c, frame.nodes.map Mounted.container = some c →
        l ∉ (s.after as k).host.page.childrenOf c := by
  intro s hf hnone hmounts hnot
  have hfades : ∀ i, (s.after as i).host.Fades (s.after as i).paintHooks := fun i => fades_after ..
  have hestates : ∀ i, (s.after as i).host.Estates := fun i =>
    (parcelled_after (parcelled_start ..) i).estates
  obtain ⟨i, hik, hhas⟩ := hmounts.exists_le hf rfl
  obtain ⟨j, hj, l', hraises⟩ := exists_retire hik hhas hf rfl fun hsome => by
    rw [hnone] at hsome
    cases hsome
  obtain hop | hop := hraises.cases hfades hmounts
  · cases hop
  cases hop
  -- The loader was taken in step `j`, from the container of that time.
  obtain ⟨old, hold, hg, -⟩ := hraises.2
  have hloader := ((awaits_of_retire (hfades j) hraises.1).of_frame? hold hg).2
  obtain ⟨nodes, hnodes, hl⟩ := Option.bind_eq_some_iff.mp hloader
  have htethered : (s.after as j).host.Estates ∧ (s.after as j).host.Tethered l := by
    refine preserves_after (P := fun h => h.Estates ∧ h.Tethered l) (i := 0)
      (fun h m hm hh => ⟨hh.1.move m, hh.2.move hh.1 hm⟩) (Nat.zero_le j)
      ⟨hestates 0, fun f nodes hn => by cases hn⟩ fun i hi => hnot i (Nat.lt_trans hi hj)
  have hrid := Host.rid_retire htethered.1 htethered.2 hold hnodes hl
  rw [hg, ← hraises.after_succ] at hrid
  -- And it stays gone.
  have hafter : (s.after as k).host.Estates ∧
      (s.after as k).host.Rid f frame.generation l nodes.container :=
    preserves_after (P := fun h => h.Estates ∧ h.Rid f frame.generation l nodes.container)
      (fun h m hm hh => ⟨hh.1.move m, hh.2.move hh.1 hm⟩) hj ⟨hestates (j + 1), hrid⟩ hnot
  refine ⟨hafter.2.detached, fun c hc => ?_⟩
  have hsame := hafter.2.container.of_frame? hf rfl
  obtain rfl := Option.some.inj (hsame.symm.trans hc)
  exact hafter.2.unlisted

end Session

end FrameHost
