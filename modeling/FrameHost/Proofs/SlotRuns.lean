import FrameHost.Proofs.Neighbours
import FrameHost.Proofs.Slots

/-!
# The slot of a frame in a run

As long as only one frame is used, and always under the same frame ID, its slot on the page is either
taken by the nodes of the frame or vacant (`Host.Slot`): every operation on the frame keeps it so
(`Slot.operate`), and with it every run (`Session.slot_after`). What that says of the page is put
together in `one_slot`.
-/

namespace FrameHost

namespace Host

variable {h : Host} {a : FrameRef} {f c : String} {frame : Frame} {g : ℕ} {m : Move} {p₀ : Page}
  {op : Frame.Op} {T T' : String → Prop}

/-! ## Whether a frame is mounted -/

/-- Whether a frame is mounted. -/
def isMounted (h : Host) (f : FrameRef) : Bool :=
  ((h.frame? f).map fun frame => frame.phase.isMounted).getD false

/-- The generation of a frame, which is `0` as long as there is no such frame. -/
def generationOf (h : Host) (f : FrameRef) : ℕ := ((h.frame? f).map Frame.generation).getD 0

/-- A frame is mounted in the phases that say so. -/
theorem isMounted_of_frame? (hf : h.frame? a = some frame) :
    h.isMounted a = frame.phase.isMounted := by
  unfold isMounted
  rw [hf]
  rfl

/-- The generation of a frame is the one that its state counts. -/
theorem generationOf_of_frame? (hf : h.frame? a = some frame) :
    h.generationOf a = frame.generation := by
  unfold generationOf
  rw [hf]
  rfl

/-- A frame is mounted as long as it has nodes. -/
theorem isMounted_eq (hh : h.Housed) (f : FrameRef) : h.isMounted f = (h.nodesOf? f).isSome := by
  unfold isMounted nodesOf?
  cases hf : h.frame? f with
  | none => rfl
  | some frame => exact hh.mounted f frame hf

/-- No move counts a generation back. -/
theorem generationOf_move (m : Move) (f : FrameRef) :
    h.generationOf f ≤ (h.move m).generationOf f := by
  cases hf : h.frame? f with
  | none =>
    unfold generationOf
    rw [hf]
    exact Nat.zero_le _
  | some frame =>
    obtain ⟨frame', hf', ht⟩ := (turns_move m).turn f frame hf
    rw [generationOf_of_frame? hf, generationOf_of_frame? hf']
    exact ht.generation_le

/-- From the generation `g` on, the frame has the frame ID `f`. -/
def Keeps (h : Host) (a : FrameRef) (f : String) (g : ℕ) : Prop :=
  ∀ frame, h.frame? a = some frame → g < frame.generation → frame.frameId = f

instance (h : Host) (a : FrameRef) (f : String) (g : ℕ) : Decidable (h.Keeps a f g) :=
  inferInstanceAs (Decidable (∀ frame ∈ h.frame? a, g < frame.generation → frame.frameId = f))

/-! ## The slot of a frame -/

/-- The slot of the frame `a`, which has been under the frame ID `f` since its generation `g`: the
frame is mounted there and keeps the class `c`, or an element of the class `c` stands there. -/
inductive Slot (p₀ : Page) (h : Host) (a : FrameRef) (g : ℕ) (f c : String) (T : String → Prop) :
    Prop where
  | taken {frame : Frame} {nodes : Mounted} (hf : h.frame? a = some frame)
    (hnodes : frame.nodes = some nodes) (hclass : frame.className = c)
    (hg : g < frame.generation) (hholds : p₀.Holds h.page f nodes)
  | vacant {n : NodeId} (hnone : h.nodesOf? a = none) (hg : g ≤ h.generationOf a)
    (hvacant : p₀.Vacant h.page f c T n)

/-- A slot that may show a text may show it among more. -/
theorem Slot.mono (hs : Slot p₀ h a g f c T)
    (hT : h.nodesOf? a = none → ∀ t, T t → T' t) : Slot p₀ h a g f c T' := by
  cases hs with
  | taken hf hnodes hclass hg hholds => exact .taken hf hnodes hclass hg hholds
  | vacant hnone hg hvacant => exact .vacant hnone hg (hvacant.mono (hT hnone))

/-- A slot is of the frame's own past. -/
theorem Slot.le_generationOf (hs : Slot p₀ h a g f c T) : g ≤ h.generationOf a := by
  cases hs with
  | taken hf _ _ hg _ => exact generationOf_of_frame? hf ▸ Nat.le_of_lt hg
  | vacant _ hg _ => exact hg

/-- A move that keeps the shapes keeps everybody's nodes. -/
theorem nodesOf?_move_of (hm : m.reshapes = false) : (h.move m).nodesOf? a = h.nodesOf? a := by
  cases hf : h.frame? a with
  -- A frame that is made has no nodes yet.
  | none =>
    have hnone : h.nodesOf? a = none := by
      unfold nodesOf?
      rw [hf]
      rfl
    rw [hnone]
    cases hf' : (h.move m).frame? a with
    | none =>
      unfold nodesOf?
      rw [hf']
      rfl
    | some frame' =>
      rw [nodesOf?_of_frame? hf']
      exact ((turns_move m).blank a frame' hf hf').nodes
  | some frame =>
    obtain ⟨frame', hf', ht⟩ := (turns_move m).turn a frame hf
    rw [nodesOf?_of_frame? hf, nodesOf?_of_frame? hf']
    exact (ht.kept hm).1

/-- Moves that leave the nodes alone leave the slot as it is. -/
theorem Slot.move (hs : Slot p₀ h a g f c T) (hm : m.reshapes = false) :
    Slot p₀ (h.move m) a g f c T := by
  cases hs with
  | taken hf hnodes hclass hg hholds =>
    obtain ⟨frame', hf', ht⟩ := (turns_move m).turn a _ hf
    obtain ⟨hsame, hclass'⟩ := ht.kept hm
    exact .taken hf' (hsame.trans hnodes) (hclass'.trans hclass)
      (Nat.lt_of_lt_of_le hg ht.generation_le) (hholds.of_shapes (shape_move hm))
  | vacant hnone hg hvacant =>
    exact .vacant ((nodesOf?_move_of hm).trans hnone) (Nat.le_trans hg (generationOf_move m a))
      (hvacant.of_shapes (shape_move hm))

/-- A mount under the frame ID finds its place, and the class to keep. -/
theorem Slot.place (hs : Slot p₀ h a g f c T) (hf : h.frame? a = some frame) (l : Option ListenerId) :
    ∃ place, (h.page.removeListener? l).place? f = some place ∧
      frame.classAt (h.page.removeListener? l) place = c ∧
      ∀ n, ¬ (h.page.removeListener? l).Under place.node n →
        p₀.Beside (h.page.removeListener? l) f n := by
  have hshapes := (Page.retouches_removeListener? (p := h.page) l).shapes
  -- Over its own container, or over the element of the host.
  cases hs with
  | taken hf' hnodes hclass hg hholds =>
    cases hf.symm.trans hf'
    have hholds' := hholds.of_shapes hshapes
    exact ⟨_, hholds'.place?, hclass, hholds'.beside_of_not_under⟩
  | vacant hnone hg hvacant =>
    have hvacant' := hvacant.of_shapes hshapes
    exact ⟨_, hvacant'.place?, hvacant'.className, hvacant'.beside_of_not_under⟩

/-- A mount under the frame ID takes the slot, whatever was there. -/
theorem Slot.mount (hs : Slot p₀ h a g f c T) (he : h.Estates) (hf : h.frame? a = some frame)
    {config : Config} (hid : (frame.renewed config).frameId = f) : ∃ new nodes,
      (h.mount a config).2 = some nodes.iframe ∧ (h.mount a config).1.frame? a = some new ∧
        new.nodes = some nodes ∧ new.className = c ∧ g < new.generation ∧
          p₀.Holds (h.mount a config).1.page f nodes := by
  have hgeneration : g < frame.generation + 1 := by
    have hle := hs.le_generationOf
    rw [generationOf_of_frame? hf] at hle
    omega
  obtain ⟨place, hplace, hclass, hbeside⟩ := hs.place hf frame.listener
  rcases mount_cases hf config with ⟨hnone, -⟩ | ⟨place', nodes, hplace', hiframe, hplaced⟩
  · rw [hid, hplace] at hnone
    cases hnone
  · rw [hid, hplace] at hplace'
    cases hplace'
    obtain ⟨⟨check, hsets⟩, ⟨p, hbuild, hpage⟩, -⟩ := hplaced
    have hclass' : (frame.renewed config).classAt (h.page.removeListener? frame.listener) place = c := by
      rw [← hclass]
      cases place <;> rfl
    have hnumbered := he.numbered_removeListener? frame.listener
    have hholds := (Page.lays_build hbuild).holds hid hnumbered hbeside
    refine ⟨_, nodes, hiframe, hsets.frame?, rfl, hclass', hgeneration, ?_⟩
    -- What waits for the iframe to load is no matter of nodes.
    have hshapes : ∀ n, ((h.mount a config).1.page.node? n).map Node.shape =
        ((p.replace place.node nodes.container).node? n).map Node.shape := fun n => by
      rw [hpage]
      rfl
    exact hholds.of_shapes hshapes

/-- The end of a mount leaves the slot vacant. -/
theorem Slot.destroy (hs : Slot p₀ h a g f c T) (he : h.Estates) (hkeeps : h.Keeps a f g)
    (hends : ∀ old, h.frame? a = some old → old.phase.isMounted = true → T old.config.destroyText) :
    Slot p₀ (h.destroy a) a g f c T := by
  cases hf : h.frame? a with
  | none => rwa [destroy_of_none hf]
  | some frame =>
    rcases destroy_cases hf with ⟨-, hsame⟩ | ⟨hmounted, hsets, hpage, -⟩
    · rwa [hsame]
    · cases hs with
      | vacant hnone =>
        -- A frame that is mounted has nodes.
        have hphase := he.housed.mounted a frame hf
        rw [hmounted, ← nodesOf?_of_frame? hf, hnone] at hphase
        cases hphase
      | taken hf' hnodes hclass hg hholds =>
        cases hf.symm.trans hf'
        have hnumbered := he.numbered_removeListener? frame.listener _ (Nat.lt_succ_self _)
        have hholds' := hholds.of_shapes (Page.retouches_removeListener? frame.listener).shapes
        have hvacant := hholds'.vacant (c := c) hnumbered (hends frame hf hmounted)
        refine .vacant (n := (h.page.removeListener? frame.listener).lastId + 1) ?_ ?_ ?_
        · rw [nodesOf?_of_frame? hsets.frame?]
          rfl
        · rw [generationOf_of_frame? hsets.frame?]
          exact Nat.le_succ_of_le (Nat.le_of_lt hg)
        · rw [hpage]
          unfold restoredPage
          rw [hnodes, hclass, hkeeps frame hf hg]
          exact hvacant

/-- A loader that goes does so within the slot. -/
theorem Slot.retire (hs : Slot p₀ h a g f c T) {generation : ℕ} {l : NodeId}
    (haims : h.Aims (.retire a generation l)) :
    Slot p₀ (h.move (.retire a generation l)) a g f c T := by
  show Slot p₀ (h.retireLoader a generation l).1 a g f c T
  obtain ⟨frame, hf, -, hown⟩ := haims a generation l rfl rfl
  -- A stale hook does nothing, and a current one takes a loader of this estate.
  rcases retireLoader_cases hf generation l with ⟨-, hsame⟩ | ⟨hgeneration, hsets, hpage, -⟩
  · rwa [hsame]
  · obtain ⟨own, hown, hlt, hgt⟩ := hown hgeneration
    cases hs with
    | vacant hnone =>
      rw [nodesOf?_of_frame? hf, hown] at hnone
      cases hnone
    | taken hf' hnodes hclass hg hholds =>
      cases hf.symm.trans hf'
      cases hown.symm.trans hnodes
      refine .taken hsets.frame? (congrArg (Option.map _) hown) hclass hg ?_
      rw [hpage]
      exact hholds.remove hlt hgt

/-- A mount takes the slot if it leaves the frame with the frame ID. -/
theorem Slot.of_mount (hs : Slot p₀ h a g f c T) (he : h.Estates) {config : Config}
    (hkeeps : (h.mount a config).1.Keeps a f g) : Slot p₀ (h.mount a config).1 a g f c T := by
  cases hf : h.frame? a with
  | none => rwa [mount_of_none hf]
  | some frame =>
    obtain ⟨new, hnew, -⟩ := (turns_move (h := h) (.mount a config)).turn a frame hf
    change (h.mount a config).1.frame? a = some new at hnew
    have hle := hs.le_generationOf
    rw [generationOf_of_frame? hf] at hle
    have hlt : g < new.generation := by
      have hgeneration := (renewed_of_mount hf hnew).2
      omega
    -- What the frame ID is after the mount is what the mount looks for.
    have hid : (frame.renewed config).frameId = f := by
      calc (frame.renewed config).frameId
          = new.frameId := (frameId_mount hf hnew).symm
        _ = f := hkeeps new hnew hlt
    obtain ⟨new', nodes, -, hnew', hnodes, hclass, hg, hholds⟩ := hs.mount he hf hid
    exact .taken hnew' hnodes hclass hg hholds

/-- An operation on the frame leaves its slot taken or vacant, and vacant with the text that the end
of a mount puts there. -/
theorem Slot.operate (hs : Slot p₀ h a g f c T) (he : h.Estates)
    (hopen : ∀ config, op = .openFrame config → a = (h.openFrame config).2)
    (haims : ∀ generation l, op = .retire generation l → h.Aims (.retire a generation l))
    (hbefore : h.Keeps a f g) (hafter : (h.operate a op).Keeps a f g)
    (hends : ∀ old, h.frame? a = some old → old.phase.isMounted = true → T old.config.destroyText) :
    Slot p₀ (h.operate a op) a g f c T := by
  rcases operate_cases h a op with ⟨config, rfl⟩ | ⟨config, hmount⟩ | hdestroy |
    ⟨generation, l, rfl⟩ | hminor
  · -- The frame may have to be made first.
    have ha := hopen config rfl
    have henrolled : Slot p₀ (h.registered (h.defaults.merged config).frameId).1 a g f c T :=
      hs.move (m := .enroll (h.defaults.merged config).frameId) rfl
    have he' : (h.registered (h.defaults.merged config).frameId).1.Estates :=
      he.move (.enroll (h.defaults.merged config).frameId)
    have hopened : h.operate a (.openFrame config) =
        ((h.registered (h.defaults.merged config).frameId).1.mount a
          (h.defaults.merged config)).1 := by
      rw [ha]
      rfl
    rw [hopened] at hafter ⊢
    exact henrolled.of_mount he' hafter
  · -- A mount, also that of a configuration.
    rw [hmount] at hafter ⊢
    exact hs.of_mount he hafter
  · rw [hdestroy]
    exact hs.destroy he hbefore hends
  · exact hs.retire (haims generation l rfl)
  · exact hminor.preserves (P := fun h' => Slot p₀ h' a g f c T)
      (fun _ _ hm hs => hs.move hm.reshapes) hs

end Host

namespace Session

open Host (Slot Keeps)

variable {s : Session} {a : FrameRef} {f c : String} {g : ℕ} {p₀ : Page} {T : String → Prop}
  {job : Job} {m : Host.Move}

/-! ## Steps -/

/-- Whether the next job is for the frame `a`, if for any: it is no operation on another frame, and
the host does not change nodes by it. -/
def tends (s : Session) (a : FrameRef) : Bool :=
  s.op?.all (fun op => op.1 == a) && s.agenda.head?.all fun job => !job.editsNodes

/-- An idle move leaves the nodes alone, unless the host changes them. -/
theorem reshapes_of_isIdle (hidle : m.isIdle = true) (hm : job.Makes m)
    (hedits : job.editsNodes = false) : m.reshapes = false := by
  cases m with
  | page e =>
    cases e with
    | add | wrap | replace | remove => exact absurd (hm.symm.trans hedits) (by decide)
    | _ => rfl
  | mount | destroy | retire => cases hidle
  | _ => rfl

/-- A step that is for the frame leaves its slot taken or vacant. -/
theorem slot_step (hs : s.Parcelled) (htends : s.tends a = true)
    (hslot : Slot p₀ s.host a g f c T) (hbefore : s.host.Keeps a f g)
    (hafter : s.step.host.Keeps a f g)
    (hends : ∀ old, s.host.frame? a = some old → old.phase.isMounted = true →
      T old.config.destroyText) : Slot p₀ s.step.host a g f c T := by
  unfold tends at htends
  rw [Bool.and_eq_true] at htends
  cases hop : s.op? with
  | some found =>
    obtain ⟨b, op⟩ := found
    rw [hop] at htends
    -- The operation is on this frame.
    have hb : b = a := by simpa using htends.1
    subst hb
    rw [step_operate hop] at hafter ⊢
    exact hslot.operate hs.estates (eq_openFrame_of_op? hop)
      (fun generation l hretire => hs.aims _ (.inr (painted_of_op? (hretire ▸ hop)))) hbefore hafter
      hends
  | none =>
    cases hagenda : s.agenda with
    | nil => rwa [step_nil hagenda]
    | cons job jobs =>
      rw [hagenda] at htends
      have hedits : job.editsNodes = false := by simpa using htends.2
      exact (step_idle hagenda hop).preserves (P := fun h' => Slot p₀ h' a g f c T)
        (fun _ _ hm hslot => hslot.move (reshapes_of_isIdle hm.1 hm.2 hedits)) hslot

/-! ## Runs -/

/-- A text that the slot of `a` can have after `i` steps, told by the steps from `k` on: if a mount of
`a` has ended and none has begun since, it is the one that the configuration named then. -/
def LeftText (run : ℕ → Session) (a : FrameRef) (k i : ℕ) (t : String) : Prop :=
  ∀ j old, k ≤ j → j < i → (run j).host.frame? a = some old → old.phase.isMounted = true →
    (∀ j', j < j' → j' ≤ i → (run j').host.isMounted a = false) → t = old.config.destroyText

/-- Without a mount the text stays. -/
theorem LeftText.succ {run : ℕ → Session} {k i : ℕ} {t : String} (h : LeftText run a k i t)
    (hmounted : (run i).host.isMounted a = false) : LeftText run a k (i + 1) t := by
  intro j old hk hj hold hphase hgap
  rcases Nat.lt_succ_iff_lt_or_eq.mp hj with hlt | rfl
  · exact h j old hk hlt hold hphase fun j' hj' hle => hgap j' hj' (Nat.le_succ_of_le hle)
  · rw [Host.isMounted_of_frame? hold, hphase] at hmounted
    cases hmounted

/-- The end of a mount leaves the text that the configuration names. -/
theorem leftText_of_mounted {run : ℕ → Session} {k i : ℕ} {old : Frame}
    (hold : (run i).host.frame? a = some old) (hphase : old.phase.isMounted = true) :
    LeftText run a k (i + 1) old.config.destroyText := by
  intro j old' _ hj hold' _ hgap
  rcases Nat.lt_succ_iff_lt_or_eq.mp hj with hlt | rfl
  · have hmounted := hgap i hlt (Nat.le_succ i)
    rw [Host.isMounted_of_frame? hold, hphase] at hmounted
    cases hmounted
  · cases hold.symm.trans hold'
    rfl

/-- The slot of a frame throughout a run. -/
theorem slot_after {as : List Action} (hs : s.Parcelled) {k i : ℕ} (hki : k ≤ i)
    (hslot : Slot p₀ (s.after as k).host a g f c (LeftText (s.after as) a k k))
    (htends : ∀ j, k ≤ j → j < i → (s.after as j).tends a = true)
    (hkeeps : ∀ j, k ≤ j → j ≤ i → (s.after as j).host.Keeps a f g) :
    Slot p₀ (s.after as i).host a g f c (LeftText (s.after as) a k i) := by
  induction i, hki using Nat.le_induction with
  | base => exact hslot
  | succ i hki ih =>
    have hbefore := ih (fun j hk hj => htends j hk (Nat.lt_succ_of_lt hj))
      fun j hk hj => hkeeps j hk (Nat.le_succ_of_le hj)
    have hparcelled : (s.after as i).Parcelled := parcelled_after hs i
    -- The texts are those of the next state from here on.
    have hnext : Slot p₀ (s.after as i).host a g f c (LeftText (s.after as) a k (i + 1)) := by
      refine hbefore.mono fun hnone t ht => ht.succ ?_
      rw [Host.isMounted_eq hparcelled.estates.housed, hnone]
      rfl
    have hkeeps' := hkeeps (i + 1) (Nat.le_succ_of_le hki) (Nat.le_refl _)
    rcases after_succ s as i with ⟨-, h⟩ | ⟨b, -, -, h⟩ | ⟨-, h⟩
    · rw [h] at hkeeps' ⊢
      exact slot_step hparcelled (htends i hki (Nat.lt_succ_self i)) hnext
        (hkeeps i hki (Nat.le_succ i)) hkeeps' fun old hold hphase => leftText_of_mounted hold hphase
    · rw [h, begin_host]
      exact hnext.move rfl
    · rwa [h]

/-- From a state on in which a frame is not mounted, and the page shows one element with the DOM id
`f` and no container of `f`, the frame is the only one that anything is done to, and it has the frame
ID `f` from its next mount on. Then the page shows one node with the DOM id `f` throughout. While the
frame is mounted, this is its iframe, which stands in the only container of `f`, behind the loader if
that is there. While it is not, there is no container, and nothing else that was not there in the
beginning; the node is an element of the same class, with the text that the last end of a mount has
left. So a mount under `f` after the end of a mount always finds its place, and then its iframe is the
one node. -/
theorem one_slot (origin : String) (allowList : Option AllowList) (defaults : Config)
    (runtime : Bool) (scripts : List (List Action)) (as : List Action) {k i : ℕ} (hki : k ≤ i)
    {a : FrameRef} {f c : String} {n₀ : NodeId} :
    let run := (start origin allowList defaults runtime scripts).after as
    let h := (run i).host
    (run k).host.isMounted a = false →
    ((run k).host.page.node? n₀).map (fun node => (node.kind, node.className)) =
      some (.element, c) →
    (run k).host.page.Sole f n₀ → (∀ n, ¬ (run k).host.page.Shows (containerId f) n) →
    (∀ j, k ≤ j → j < i → (run j).tends a = true) →
    (∀ j, k ≤ j → j ≤ i → (run j).host.Keeps a f ((run k).host.generationOf a)) →
    (h.isMounted a = true → ∃ nodes, h.nodesOf? a = some nodes ∧ h.page.Sole f nodes.iframe ∧
      h.page.Sole (containerId f) nodes.container ∧
      h.page.childrenOf nodes.container = nodes.loader.toList ++ [nodes.iframe]) ∧
    (h.isMounted a = false → ∃ n node, h.page.node? n = some node ∧ h.page.Sole f n ∧
      (∀ n', ¬ h.page.Shows (containerId f) n') ∧
      (∀ n', n' ≠ n → h.page.isAttached n' = true → (run k).host.page.isAttached n' = true) ∧
      node.kind = .element ∧ node.className = c ∧ LeftText run a k i node.text) ∧
    ∀ frame config, h.frame? a = some frame → (frame.renewed config).frameId = f →
      ∃ iframe, ((h.destroy a).mount a config).2 = some iframe ∧
        ((h.destroy a).mount a config).1.page.Sole f iframe := by
  intro run h hmounted hnode hsole hcontainer htends hkeeps
  have hstart : (start origin allowList defaults runtime scripts).Parcelled := parcelled_start ..
  have hparcelled : (run i).Parcelled := parcelled_after hstart i
  have hhoused : (run k).host.Housed := (parcelled_after hstart k).estates.housed
  -- The slot is vacant in the beginning.
  have hslot : Slot (run k).host.page (run k).host a ((run k).host.generationOf a) f c
      (LeftText run a k k) := by
    obtain ⟨node, hnode, hfields⟩ := Option.map_eq_some_iff.mp hnode
    obtain ⟨hkind, hclass⟩ := Prod.mk.inj hfields
    have hshows := (hsole n₀).mpr rfl
    have hattached := (Page.isAttached_of_node? hnode).symm.trans hshows.1
    have hid := Option.some.inj ((Page.domId?_of_node? hnode).symm.trans hshows.2)
    have hnone : (run k).host.nodesOf? a = none := by
      rw [Host.isMounted_eq hhoused] at hmounted
      simpa using hmounted
    refine .vacant (n := n₀) hnone (Nat.le_refl _) ⟨⟨node, hnode, hattached, hid, hkind, hclass, ?_⟩, ?_⟩
    · intro j old hk hj
      exact absurd hk (Nat.not_le.mpr hj)
    · exact fun m hm hshown => ⟨hshown, fun hid => hm ((hsole m).mp ⟨hshown, hid⟩),
        fun hid => hcontainer m ⟨hshown, hid⟩⟩
  have hafter := slot_after hstart hki hslot htends hkeeps
  have hmountedIff : h.isMounted a = (h.nodesOf? a).isSome :=
    Host.isMounted_eq hparcelled.estates.housed a
  refine ⟨fun hmounted => ?_, fun hmounted => ?_, fun frame config hf hid => ?_⟩
  · -- Mounted frames have nodes, so the slot is taken.
    cases hafter with
    | vacant hnone =>
      rw [hmountedIff, hnone] at hmounted
      cases hmounted
    | taken hf hnodes _ _ hholds =>
      exact ⟨_, (Host.nodesOf?_of_frame? hf).trans hnodes, hholds.sole, hholds.sole_container,
        hholds.children⟩
  · cases hafter with
    | taken hf hnodes =>
      rw [hmountedIff, Host.nodesOf?_of_frame? hf, hnodes] at hmounted
      cases hmounted
    | vacant hnone _ hvacant =>
      obtain ⟨node, hnode, -, -, hkind, hclass, htext⟩ := hvacant.element
      exact ⟨_, node, hnode, hvacant.sole, hvacant.not_shows_container,
        fun m hm hshown => (hvacant.beside m hm hshown).1, hkind, hclass, htext⟩
  · -- Whatever text the end of the mount leaves.
    have hany : Slot (run k).host.page h a ((run k).host.generationOf a) f c fun _ => True :=
      hafter.mono fun _ _ _ => trivial
    have hdestroyed := hany.destroy hparcelled.estates (hkeeps i hki (Nat.le_refl i))
      fun _ _ _ => trivial
    obtain ⟨frame', hf', ht⟩ := (Host.turns_move (h := h) (.destroy a)).turn a frame hf
    have hconfig : frame'.config = frame.config := by
      cases ht with
      | goesOn hgoes => exact hgoes.config
      | destroyed => rfl
    have hid' : (frame'.renewed config).frameId = f := by
      calc (frame'.renewed config).frameId
          = (frame.renewed config).frameId := by
            unfold Frame.renewed Frame.frameId
            rw [hconfig]
        _ = f := hid
    obtain ⟨-, nodes, hiframe, -, -, -, -, hholds⟩ :=
      hdestroyed.mount (hparcelled.estates.move (.destroy a)) hf' hid'
    exact ⟨nodes.iframe, hiframe, hholds.sole⟩

/-- A configuration of the frame `f`, with a loader and with a text for the end. -/
def closing : Config :=
  Config.ofFields
    [("frameId", .string "f"), ("src", .string "https://app.example.com"),
      ("checkCSP", .bool false), ("destroyText", .string "closed")]

/-- The content of the frame is shown, its loader fades and goes, and then the frame is torn down. -/
def shownAndClosed : List Action :=
  [.page (.insert "f" "slot"), .frame (.openFrame "A" none (.ok closing)),
    .page (.fireLoad (.iframeOf "A")), .frame (.showContent "A"), .page .flushPaint,
    .page .flushPaint, .frame (.destroy "A")]

/-- The element that is left has the class of the one before, and the text for the end. -/
theorem one_slot_closed :
    let s := (start "https://host.example.com" none Config.empty false []).after shownAndClosed 26
    ∃ n node, s.host.page.node? n = some node ∧ s.host.page.Sole "f" n ∧ node.className = "slot" ∧
      node.text = "closed" := by
  intro s
  let run := (start "https://host.example.com" none Config.empty false []).after shownAndClosed
  -- What the theorem asks of the run, evaluated.
  have hbefore : (run 2).host.isMounted 0 = false := by decide +kernel
  have helement : ((run 2).host.page.node? 1).map (fun node => (node.kind, node.className)) =
      some (.element, "slot") := by decide +kernel
  have hshown : (run 2).host.page.shown "f" = [1] := by decide +kernel
  have hnone : (run 2).host.page.shown (containerId "f") = [] := by decide +kernel
  have htends : ∀ j < 26, 2 ≤ j → (run j).tends 0 = true := by decide +kernel
  have hkeeps : ∀ j < 27, 2 ≤ j → (run j).host.Keeps 0 "f" ((run 2).host.generationOf 0) := by
    decide +kernel
  have hmounted : ((run 25).host.frame? 0).map (fun old => (old.phase, old.config.destroyText)) =
      some (.loaded, "closed") := by decide +kernel
  have hafter : (run 26).host.isMounted 0 = false := by decide +kernel
  obtain ⟨-, hvacant, -⟩ := one_slot "https://host.example.com" none Config.empty false []
    shownAndClosed (k := 2) (i := 26) (by decide) hbefore helement
    (Page.sole_of_shown hshown) (Page.not_shows_of_shown hnone) (fun j hk hj => htends j hj hk)
    fun j hk hj => hkeeps j (Nat.lt_succ_of_le hj) hk
  obtain ⟨n, node, hnode, hsole, -, -, -, hclass, htext⟩ := hvacant hafter
  obtain ⟨old, hold, hfields⟩ := Option.map_eq_some_iff.mp hmounted
  obtain ⟨hphase, hdestroyText⟩ := Prod.mk.inj hfields
  refine ⟨n, node, hnode, hsole, hclass, ?_⟩
  have hleft := htext 25 old (by decide) (by decide) hold (by rw [hphase]; rfl)
    fun j hj hle => by
      have hj' : j = 26 := by omega
      exact hj' ▸ hafter
  exact hleft.trans hdestroyText

end Session

end FrameHost
