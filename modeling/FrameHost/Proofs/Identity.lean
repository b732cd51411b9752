import FrameHost.Proofs.JsonStrings
import FrameHost.Proofs.Renaming

/-!
# The identity of a mounted frame

A mounted frame goes by its frame ID in four places: its bus writes the ID into envelopes, messages
have to name it, and the iframe and the container have DOM ids made of it (`Host.OneIdentity`). A
mount sets all four, and they differ only after a configuration has renamed the frame without
mounting it again (`identity_iff`).
-/

namespace FrameHost

open Json (Value)

/-- A bus posts a message that carries a task, for a call that it has just accepted or because the
task is the next one that was deferred. -/
def Bus.Posts (b : Bus) (task : Task) (p : Posted) : Prop :=
  (∃ responder b', b.execute task responder = .ok (b', some p)) ∨
    ∃ tasks, b.deferred = task :: tasks ∧ b.postNext.2 = some p

/-- What a bus posts is its task in an envelope of the bus's own ID. -/
theorem Bus.Posts.payload {b : Bus} {task : Task} {p : Posted} (h : b.Posts task p) :
    p.payload = encode b.frameId task := by
  -- A task is posted as its call is made, or later from the queue.
  rcases h with ⟨responder, b', hx⟩ | ⟨tasks, hdeferred, hnext⟩
  · unfold execute at hx
    split at hx
    · cases hx
    · split at hx
      · cases hx
      · dsimp only at hx
        split at hx
        · cases hx
          rfl
        · cases hx
  · unfold postNext at hnext
    rw [hdeferred] at hnext
    split at hnext
    · next target task' tasks' _ heq =>
      cases heq
      cases hnext
      rfl
    · cases hnext

namespace Host

variable {h h' : Host} {f : FrameRef} {frame frame' : Frame}

/-- The bus of a frame, its iframe and its container carry its frame ID. -/
structure Labelled (h : Host) (frame : Frame) : Prop where
  bus : frame.bus.frameId = frame.frameId
  iframe : frame.iframe?.bind h.page.domId? = some frame.frameId
  container : (frame.nodes.map Mounted.container).bind h.page.domId? =
    some (containerId frame.frameId)

/-- The frame `f`, being `frame`, goes by its frame ID wherever it is named. -/
structure OneIdentity (h : Host) (f : FrameRef) (frame : Frame) : Prop
    extends h.Labelled frame where
  /-- What the bus posts is addressed to the frame ID. -/
  envelopes : ∀ task p, frame.bus.Posts task p → p.payload = encode frame.frameId task
  /-- Messages that are addressed to another frame ID do nothing. -/
  others : ∀ text, (Inbound.decode text).frameId ≠ frame.bus.frameId →
    h.handle f (.string text) = (h, [])
  /-- A reply that names the frame ID of an envelope that the bus posts is accepted. -/
  replies : ∀ task p frameId text, frame.bus.Posts task p → p.payload = encode frameId task →
    (Inbound.decode text).frameId = frameId → (Inbound.decode text).kind = .methodReturn →
    h.handle f (.string text) = h.reply (.frame f) (Inbound.decode text).returnData

/-- Messages are compared with the frame ID, so nothing else has to agree. -/
theorem oneIdentity_iff_labelled (hf : h.frame? f = some frame) :
    h.OneIdentity f frame ↔ h.Labelled frame := by
  refine ⟨fun hone => hone.toLabelled, fun hl => ?_⟩
  -- What is written, what is heeded and what a copied frame ID does, all by one label.
  refine ⟨hl, fun task p hposts => ?_, fun text hne => ?_,
    fun task p frameId text hposts hpayload hid hkind => ?_⟩
  · rw [hposts.payload, hl.bus]
  · unfold handle
    rw [hf]
    exact if_neg (hl.bus ▸ hne)
  · have hsame : frameId = frame.frameId := by
      rw [hposts.payload] at hpayload
      exact (encode_frameId hpayload).symm.trans hl.bus
    unfold handle
    rw [hf]
    show (if _ then h.dispatch f (Inbound.decode text) else (h, [])) = _
    rw [if_pos (hid.trans hsame)]
    unfold dispatch
    rw [hkind]

/-- A node that is there keeps its DOM id. -/
theorem Leads.bind_domId? (hl : h.Leads h') {node : Option NodeId}
    (hle : ∀ n, node = some n → n ≤ h.page.lastId) :
    node.bind h'.page.domId? = node.bind h.page.domId? := by
  cases node with
  | none => rfl
  | some n => exact hl.domIds n (hle n rfl)

/-- The nodes of a frame that is put in its place have the DOM ids that its frame ID says. -/
theorem Placed.domIds {place : Place} {nodes : Mounted} {page : Page}
    (hplaced : h.Placed h' f frame page place nodes) :
    h'.page.domId? nodes.iframe = some frame.frameId ∧
      h'.page.domId? nodes.container = some (containerId frame.frameId) := by
  obtain ⟨-, ⟨p, hbuild, hpage⟩, -⟩ := hplaced
  obtain ⟨hiframe, ⟨style, children, hcontainer⟩, -⟩ :=
    (Page.builds_build hbuild).fields Node.domId fun _ _ => rfl
  rw [hpage, Page.domId?_onLoad, Page.domId?_onLoad, Page.domId?_replace, Page.domId?_replace]
  exact ⟨hiframe, hcontainer⟩

/-- Every mounted frame carries its frame ID; and its nodes are on the page. -/
structure AllLabelled (h : Host) : Prop where
  housed : h.Housed
  labelled : ∀ f frame, h.frame? f = some frame → frame.phase.isMounted = true → h.Labelled frame

/-- A frame with the same frame ID, nodes and bus ID carries its ID as before. -/
theorem Labelled.of_leads (hl : h.Labelled frame) (hh : h.Housed) (hf : h.frame? f = some frame)
    (hleads : h.Leads h') (hid : frame'.frameId = frame.frameId)
    (hbus : frame'.bus.frameId = frame.bus.frameId) (hiframe : frame'.iframe? = frame.iframe?)
    (hcontainer : frame'.nodes.map Mounted.container = frame.nodes.map Mounted.container) :
    h'.Labelled frame' := by
  refine ⟨?_, ?_, ?_⟩
  · rw [hbus, hid, hl.bus]
  · rw [hiframe, hid, hleads.bind_domId? fun n hn => hh.iframe_le f frame n hf hn, hl.iframe]
  · rw [hcontainer, hid, hleads.bind_domId? fun n hn => hh.container_le f frame n hf hn,
      hl.container]

/-- Only a patch can make a mounted frame carry an ID that is not its frame ID. -/
theorem AllLabelled.move {m : Move} (ha : h.AllLabelled) (hm : m.isPatch = false) :
    (h.move m).AllLabelled := by
  refine ⟨ha.housed.move m, fun f frame' hf' hmounted => ?_⟩
  cases hf : h.frame? f with
  | none =>
    rw [((turns_move m).blank f frame' hf hf').phase] at hmounted
    cases hmounted
  | some frame =>
    obtain ⟨frame₁, hf₁, ht⟩ := (turns_move m).turn f frame hf
    cases hf₁.symm.trans hf'
    cases ht with
    | goesOn hgoes =>
      -- The mount is the same, so are the ID, the bus and the nodes.
      have hl := ha.labelled f frame hf (hgoes.mounted ▸ hmounted)
      exact hl.of_leads ha.housed hf (leads_move m) (congrArg Config.frameId hgoes.config)
        hgoes.busId (congrArg (Option.map Mounted.iframe) hgoes.nodes)
        (congrArg (Option.map Mounted.container) hgoes.nodes)
    | retired =>
      have hl := ha.labelled f frame hf hmounted
      exact hl.of_leads ha.housed hf (leads_move _) rfl rfl frame.iframe?_unloaded
        frame.container?_unloaded
    | patched => cases hm
    | unplaced | destroyed => cases hmounted
    | placed config className check hplaced =>
      obtain ⟨hiframe, hcontainer⟩ := hplaced.domIds
      exact ⟨rfl, hiframe, hcontainer⟩

/-- Opening a frame keeps every bus labelled. -/
theorem AllLabelled.openFrame (ha : h.AllLabelled) (config : Config) :
    (h.openFrame config).1.AllLabelled := by
  refine (reaches_openFrame config).preserves (fun h m hm ha => ha.move ?_) ha
  rcases hm with ⟨frameId, rfl⟩ | hm
  · rfl
  · exact hm.2

/-- Laying a configuration over that of a frame makes a mounted frame carry an ID that is not its
frame ID exactly if it renames the frame. -/
theorem allLabelled_configure_iff (ha : h.AllLabelled) (f : FrameRef) (patch : Config) :
    (h.configure f patch).1.AllLabelled ↔
      ¬ ∃ frame, h.frame? f = some frame ∧ frame.RenamedBy patch ∧
        frame.phase.isMounted = true := by
  cases hf : h.frame? f with
  | none =>
    rw [configure_of_none hf]
    exact ⟨fun _ ⟨frame, hframe, _⟩ => (by cases hframe), fun _ => ha⟩
  | some frame =>
    rcases configure_cases hf patch with
      ⟨hreload, hmount⟩ | ⟨hreload, bus, posted, hs, hbus, hpage, -⟩
    · rw [hmount]
      refine ⟨?_, fun _ => ha.move rfl⟩
      rintro - ⟨frame', hframe', ⟨hno, -⟩, -⟩
      cases hframe'
      rw [hreload] at hno
      cases hno
    · have hleads : h.Leads (h.configure f patch).1 :=
        leads_of_ages (hpage ▸ (Page.retouches_post? posted).toAges)
      have hhoused : (h.configure f patch).1.Housed :=
        (reaches_configure patch).preserves (fun h m _ hh => hh.move m) ha.housed
      constructor
      · rintro ha' ⟨frame', hframe', ⟨-, hne⟩, hmounted⟩
        cases hframe'
        -- The iframe keeps the DOM id that it got with the old frame ID.
        have hbefore := (ha.labelled f frame hf hmounted).iframe
        have hafter : frame.iframe?.bind (h.configure f patch).1.page.domId? =
            some (frame.config.merged patch).frameId :=
          (ha'.labelled f _ hs.frame? hmounted).iframe
        rw [hleads.bind_domId? fun n hn => ha.housed.iframe_le f frame n hf hn, hbefore] at hafter
        exact hne (Option.some.inj hafter).symm
      · intro hnot
        refine ⟨hhoused, fun g frame' hframe' hmounted => ?_⟩
        by_cases hg : g = f
        · subst hg
          cases hs.frame?.symm.trans hframe'
          have hid : (frame.config.merged patch).frameId = frame.frameId := by
            by_contra hne
            exact hnot ⟨frame, rfl, ⟨hreload, hne⟩, hmounted⟩
          exact (ha.labelled g frame hf hmounted).of_leads ha.housed hf hleads hid hbus.frameId rfl rfl
        · rw [hs.frame?_of_ne hg] at hframe'
          have hl := ha.labelled g frame' hframe' hmounted
          exact hl.of_leads ha.housed hframe' hleads rfl rfl rfl rfl

end Host

namespace Session

/-- Up to the end of a run every mounted frame goes by one ID exactly if no configuration without a
mount renames a mounted frame. -/
theorem identity_iff (origin : String) (allowList : Option AllowList) (defaults : Config)
    (runtime : Bool) (scripts : List (List Action)) (as : List Action) (i : ℕ) :
    let s := start origin allowList defaults runtime scripts
    (∀ j ≤ i, ∀ f frame, (s.after as j).host.frame? f = some frame →
        frame.phase.isMounted = true → (s.after as j).host.OneIdentity f frame) ↔
      ∀ j < i, ∀ f patch frame, (s.after as j).Configures f patch →
        (s.after as j).host.frame? f = some frame → frame.RenamedBy patch →
        frame.phase.isMounted = false := by
  intro s
  have hhoused : s.host.Housed := housed_start ..
  have hstart : s.host.AllLabelled := ⟨hhoused, fun f frame hf => by cases hf⟩
  have hiff := forall_host_iff hstart (fun h m hm ha => ha.move hm.2)
    (fun h config ha => ha.openFrame config)
    (fun h f patch ha => Host.allLabelled_configure_iff ha f patch) as i
  -- Over the labels the invariant is of the form that configurations alone can spoil.
  have hlabelled : ∀ j, (∀ f frame, (s.after as j).host.frame? f = some frame →
      frame.phase.isMounted = true → (s.after as j).host.OneIdentity f frame) ↔
      (s.after as j).host.AllLabelled := by
    intro j
    constructor
    · intro hone
      refine ⟨Host.housed_after hhoused as j, fun f frame hf hmounted => ?_⟩
      exact (Host.oneIdentity_iff_labelled hf).mp (hone f frame hf hmounted)
    · intro ha f frame hf hmounted
      exact (Host.oneIdentity_iff_labelled hf).mpr (ha.labelled f frame hf hmounted)
  refine (forall₂_congr fun j _ => hlabelled j).trans (hiff.trans ⟨?_, ?_⟩)
  · intro hnone j hj f patch frame hc hf hrenamed
    rw [Bool.eq_false_iff]
    exact fun hmounted => hnone j hj f patch hc ⟨frame, hf, hrenamed, hmounted⟩
  · rintro hnone j hj f patch hc ⟨frame, hf, hrenamed, hmounted⟩
    rw [hnone j hj f patch frame hc hf hrenamed] at hmounted
    cases hmounted

/-- A frame is mounted and connected, and renamed without another mount. -/
def renamedWhileMounted : List Action :=
  [.page (.insert "f" "slot"),
    .frame (.openFrame "A" none (.ok (Config.ofFields
      [("frameId", .string "f"), ("src", .string "https://app.example.com"),
        ("checkCSP", .bool false)]))),
    .page (.fireLoad (.iframeOf "A")),
    .frame (.configure "A" (.ok (Config.ofFields [("frameId", .string "g")])) "c")]

/-- A reply to the frame ID that the frame had. -/
def copiedReply : String :=
  (Value.ofMembers
    [("frameId", .string "f"), ("type", .string "onMethodReturn"),
      ("methodReturnData", .int 1)]).text

/-- The bus of the frame still writes the frame ID that the frame had, and the iframe still has it;
a reply to it is ignored, and the call that was posted stays pending. -/
theorem reply_ignored_after_rename :
    let s := start "https://host.example.com" none Config.empty false []
    let t := s.after renamedWhileMounted 14
    t.agenda = [] ∧ ∃ frame, t.host.frame? 0 = some frame ∧ frame.phase = .connected ∧
      frame.bus.pending.length = 1 ∧ (Inbound.decode copiedReply).frameId = frame.bus.frameId ∧
      (Inbound.decode copiedReply).kind = .methodReturn ∧
      frame.iframe?.bind t.host.page.domId? = some frame.bus.frameId ∧
      frame.bus.frameId ≠ frame.frameId ∧
      t.host.handle 0 (.string copiedReply) = (t.host, []) := by
  intro s t
  have hempty : t.agenda.isEmpty = true := by decide +kernel
  have hframe : (t.host.frame? 0).map (fun frame =>
      (frame.phase, frame.bus.pending.length, frame.bus.frameId,
        frame.iframe?.bind t.host.page.domId?, frame.frameId)) =
      some (.connected, 1, "f", some "f", "g") := by decide +kernel
  have hreply : (Inbound.decode copiedReply).frameId = "f" := by decide +kernel
  have hkind : (Inbound.decode copiedReply).kind = .methodReturn := by decide +kernel
  clear_value t
  obtain ⟨frame, hf, hfields⟩ := Option.map_eq_some_iff.mp hframe
  simp only [Prod.mk.injEq] at hfields
  obtain ⟨hphase, hpending, hbus, hiframe, hid⟩ := hfields
  have hother : "f" ≠ frame.frameId := by
    rw [hid]
    decide
  -- The reply has the label of the bus, and the frame looks for its new one.
  have hignored : t.host.handle 0 (.string copiedReply) = (t.host, []) := by
    unfold Host.handle
    rw [hf]
    exact if_neg (hreply ▸ hother)
  rw [← hbus] at hreply hiframe hother
  exact ⟨List.isEmpty_iff.mp hempty, frame, hf, hphase, hpending, hreply, hkind, hiframe, hother,
    hignored⟩

end Session

end FrameHost
