import FrameHost.Config.Setting
import FrameHost.Host.Check
import FrameHost.Host.Dispatch
import FrameHost.Proofs.Overlay

/-!
# Other code in the place of code

A host keeps the code that it was given: as handlers in configurations, as commands of frames, as the
receivers of calls on buses. It never looks into that code, only at which event, command or call it
belongs to. So with every piece replaced by another (`Host.mapCode`) each operation of the host does
what it did, and leaves the same to be done up to the replacement. This is said operation by operation:
replacing and operating commute.
-/

namespace FrameHost

open Json (Value)

variable (g : Callback → Callback)

/-! ## Tables -/

namespace Table

universe u v

variable {κ : Type u} {α : Type v} (f : κ → α → α)

/-- Mapping a table keeps its keys. -/
theorem keys_map (t : Table κ α) : (t.map f).keys = t.keys := by
  show (t.entries.map fun row => (row.1, f row.1 row.2)).map Prod.fst = t.entries.map Prod.fst
  rw [List.map_map]
  rfl

variable [DecidableEq κ]

/-- Mapping commutes with insertion. -/
theorem map_insert (t : Table κ α) (k : κ) (a : α) :
    (t.map f).insert k (f k a) = (t.insert k a).map f := by
  refine ext_get? (by rw [keys_map, keys_insert, keys_insert, keys_map]) fun k' => ?_
  rw [get?_map, get?_insert, get?_insert, get?_map]
  by_cases hk : k' = k
  · rw [if_pos hk, if_pos hk, hk]
    rfl
  · rw [if_neg hk, if_neg hk]

/-- Mapping commutes with overlaying. -/
theorem map_overlay (t later : Table κ α) :
    (t.map f).overlay (later.map f) = (t.overlay later).map f := by
  refine ext_get? (by simp only [keys_map, keys_overlay]) fun k => ?_
  rw [get?_map, get?_overlay, get?_overlay, get?_map, get?_map]
  cases later.get? k <;> rfl

/-- Mapping keeps which keys are there. -/
theorem contains_map (t : Table κ α) (k : κ) : (t.map f).contains k = t.contains k := by
  unfold contains
  rw [get?_map, Option.isSome_map]

end Table

/-! ## What code is kept in -/

/-- The configuration with other handlers. -/
def Config.mapCode (c : Config) : Config := { c with handlers := c.handlers.map fun _ => g }

/-- A command with other code, if the code is the host's. -/
def Command.mapCode : Command → Command
  | .host cb => .host (g cb)
  | .showContent => .showContent
  | .configure => .configure
  | .destroy => .destroy

/-- The commands, those of the host with other code. -/
def Commands.mapCode (cs : Commands) : Commands := cs.map fun _ => Command.mapCode g

/-- What gets a reply, with other code if it is code. -/
def Responder.mapCode : Responder → Responder
  | .channel id => .channel id
  | .callback cb => .callback (g cb)
  | .ignore => .ignore

/-- The call with another receiver. -/
def PendingCall.mapCode (call : PendingCall) : PendingCall :=
  { call with responder := call.responder.mapCode g }

/-- The bus with other receivers. -/
def Bus.mapCode (b : Bus) : Bus := { b with pending := b.pending.map (PendingCall.mapCode g) }

/-- The frame with other handlers, commands and receivers. -/
def Frame.mapCode (frame : Frame) : Frame :=
  { frame with
    config := frame.config.mapCode g
    bus := frame.bus.mapCode g
    commands := frame.commands.mapCode g }

/-- The host with other handlers, commands and receivers. The hooks and listeners on its page are no
part of its frames and buses, and stay. -/
def Host.mapCode (h : Host) : Host :=
  { h with
    frames := h.frames.map (Frame.mapCode g)
    buses := h.buses.map (Bus.mapCode g)
    defaults := h.defaults.mapCode g }

/-- What is left to be done, with other code to be called. -/
def Followup.mapCode : Followup → Followup
  | .invoke cb v => .invoke (g cb) v
  | .showContent f => .showContent f
  | .postNext r => .postNext r

/-- What an operation gives that leaves something to be done, with other code in it. -/
def Host.mapResult (r : Host × List Followup) : Host × List Followup :=
  (r.1.mapCode g, r.2.map (Followup.mapCode g))

/-- What an operation gives that has a value besides, with other code in it. -/
def Host.mapCall {α : Type} (r : Host × α × List Followup) : Host × α × List Followup :=
  (r.1.mapCode g, r.2.1, r.2.2.map (Followup.mapCode g))

/-! ## Configurations -/

namespace Config

variable {g}

/-- Exchanging the callbacks commutes with merging configurations. -/
theorem mapCode_merged (c later : Config) :
    (c.mapCode g).merged (later.mapCode g) = (c.merged later).mapCode g := by
  unfold merged mapCode
  rw [Table.map_overlay]

/-- The handler of an event is exchanged with the configuration that names it. -/
theorem handler?_mapCode (c : Config) (event : String) :
    (c.mapCode g).handler? event = (c.handler? event).map g :=
  Table.get?_map _ c.handlers event

/-- Exchanging the callbacks commutes with a setting. -/
theorem mapCode_apply (c : Config) (setting : Setting) :
    (c.mapCode g).apply setting = (c.apply setting).mapCode g := by
  unfold apply
  induction setting.fields generalizing c with
  | nil => rfl
  | cons field fields ih => exact ih (c.set field.1 field.2)

/-- A configuration that a value writes has no handlers. -/
theorem mapCode_of_ofValue {c : Config} {v : Value} (h : ofValue v = .ok c) : c.mapCode g = c := by
  cases v with
  | object ms =>
    cases h
    rfl
  | _ => cases h

end Config

/-- A registration is accepted or refused whatever the callback is. -/
theorem Commands.mapCode_register {g : Callback → Callback} (cs : Commands) (name : String)
    (cb : Callback) :
    (cs.mapCode g).register name (g cb) = (cs.register name cb).map (mapCode g) := by
  have hinsert : (cs.mapCode g).insert name (.host (g cb)) =
      mapCode g (cs.insert name (.host cb)) :=
    Table.map_insert (fun _ => Command.mapCode g) cs name (.host cb)
  have hcontains : (cs.mapCode g).contains name = cs.contains name :=
    Table.contains_map (fun _ => Command.mapCode g) cs name
  unfold register
  rw [hinsert, hcontains]
  split
  · rfl
  · split <;> rfl

/-! ## Buses -/

namespace Bus

variable {g}

/-- A bus takes or refuses a task whoever is to be answered. -/
theorem mapCode_execute (b : Bus) (task : Task) (responder : Responder) :
    (b.mapCode g).execute task (responder.mapCode g) =
      (b.execute task responder).map (Prod.map (mapCode g) id) := by
  obtain ⟨frameId, connected, target, pending, deferred⟩ := b
  -- The new call waits behind the others on both sides.
  have hadded : pending.map (PendingCall.mapCode g) ++
        [(⟨task.method, responder.mapCode g⟩ : PendingCall)] =
      (pending ++ [(⟨task.method, responder⟩ : PendingCall)]).map (PendingCall.mapCode g) := by
    rw [List.map_append]
    rfl
  unfold execute admits mapCode
  dsimp only
  rw [hadded, List.isEmpty_map]
  cases (connected || task.isConfigUpdate) with
  | false => rfl
  | true =>
    cases target with
    | none => rfl
    | some target => cases pending.isEmpty <;> rfl

/-- The pending call that an answer resolves is the first one, whatever its callback. -/
theorem mapCode_answer (b : Bus) :
    (b.mapCode g).answer =
      (b.answer.1.map (PendingCall.mapCode g), b.answer.2.mapCode g) := by
  unfold answer mapCode
  rw [List.head?_map, ← List.map_tail]

/-- A bus posts the same deferred task. -/
theorem mapCode_postNext (b : Bus) :
    (b.mapCode g).postNext = (b.postNext.1.mapCode g, b.postNext.2) := by
  obtain ⟨frameId, connected, target, pending, deferred⟩ := b
  cases target <;> cases deferred <;> rfl

/-- A bus awaits the same channels. -/
theorem awaits_mapCode (b : Bus) (id : ChannelId) : (b.mapCode g).awaits id = b.awaits id := by
  have hcall : ∀ call : PendingCall,
      decide ((call.mapCode g).responder = .channel id) = decide (call.responder = .channel id) := by
    rintro ⟨method, responder⟩
    cases responder <;> rfl
  unfold awaits mapCode
  rw [List.any_map]
  exact congrArg (b.pending.any ·) (funext hcall)

end Bus

/-! ## Hosts -/

namespace Host

variable {g} {h : Host} {f : FrameRef}

/-- The frames are exchanged one by one. -/
theorem frame?_mapCode (h : Host) (f : FrameRef) :
    (h.mapCode g).frame? f = (h.frame? f).map (Frame.mapCode g) := List.getElem?_map

/-- The buses are exchanged one by one. -/
theorem bus?_mapCode (h : Host) (r : BusRef) :
    (h.mapCode g).bus? r = (h.bus? r).map (Bus.mapCode g) := by
  cases r with
  | frame f =>
    show ((h.mapCode g).frame? f).map Frame.bus = _
    rw [frame?_mapCode, Option.map_map]
    show _ = ((h.frame? f).map Frame.bus).map (Bus.mapCode g)
    rw [Option.map_map]
    rfl
  | bare n => exact List.getElem?_map

/-- A change of a frame commutes with the replacement if it does for every frame. -/
theorem mapCode_modifyFrame {u u' : Frame → Frame}
    (hu : ∀ frame, u' (frame.mapCode g) = (u frame).mapCode g) :
    (h.mapCode g).modifyFrame f u' = (h.modifyFrame f u).mapCode g := by
  -- The frames are compared place by place.
  have hframes : (h.frames.map (Frame.mapCode g)).modify f u' =
      (h.frames.modify f u).map (Frame.mapCode g) := by
    refine List.ext_getElem? fun k => ?_
    rw [List.getElem?_modify, List.getElem?_map, List.getElem?_map, List.getElem?_modify]
    cases h.frames[k]? with
    | none => rfl
    | some frame =>
      by_cases hk : f = k
      · simp [hk, hu]
      · simp [hk]
  unfold modifyFrame
  show ({ h.mapCode g with frames := (h.frames.map (Frame.mapCode g)).modify f u' } : Host) = _
  rw [hframes]
  rfl

/-- A frame is added under the same number. -/
theorem mapCode_addFrame (frame : Frame) :
    (h.mapCode g).addFrame (frame.mapCode g) =
      ((h.addFrame frame).1.mapCode g, (h.addFrame frame).2) := by
  unfold addFrame mapCode
  rw [List.map_append, List.length_map]
  rfl

/-- A new frame has no callback to exchange. -/
theorem mapCode_newFrame (checks : Bool) :
    (h.mapCode g).newFrame checks = ((h.newFrame checks).1.mapCode g, (h.newFrame checks).2) := by
  unfold newFrame
  have hlength : (h.mapCode g).frames.length = h.frames.length := List.length_map _
  rw [← mapCode_addFrame, hlength]
  rfl

/-! ### The registry, caches and buses -/

/-- Exchanging the callbacks commutes with entering the registry. -/
theorem mapCode_register : (h.mapCode g).register f = (h.register f).mapCode g := by
  unfold register
  rw [frame?_mapCode]
  cases h.frame? f with
  | none => rfl
  | some frame =>
    show (if frame.registers && !h.registry.contains frame.frameId then _ else _) = _
    dsimp only
    split <;> rfl

/-- Exchanging the callbacks commutes with leaving the registry. -/
theorem mapCode_deregister (frameId : String) :
    (h.mapCode g).deregister f frameId = (h.deregister f frameId).mapCode g := by
  unfold deregister
  show (if h.registry.get? frameId = some f then _ else _) = _
  split <;> rfl

/-- Exchanging the callbacks commutes with storing a bus. -/
theorem mapCode_setBus (r : BusRef) (b : Bus) :
    (h.mapCode g).setBus r (b.mapCode g) = (h.setBus r b).mapCode g := by
  cases r with
  | frame f => exact mapCode_modifyFrame fun frame => rfl
  | bare n =>
    show ({ h.mapCode g with buses := (h.buses.map (Bus.mapCode g)).set n (b.mapCode g) } : Host) = _
    rw [← List.map_set]
    rfl

/-- A new bus has no callback to exchange. -/
theorem mapCode_newBus : (h.mapCode g).newBus = (h.newBus.1.mapCode g, h.newBus.2) := by
  unfold newBus mapCode
  rw [List.map_append, List.length_map]
  rfl

/-! ### Code to be called -/

/-- An event calls the exchanged handler. -/
theorem mapCode_emit (event : String) (v : Value) :
    (h.mapCode g).emit f event v = (h.emit f event v).map (Followup.mapCode g) := by
  unfold emit
  rw [frame?_mapCode]
  cases h.frame? f with
  | none => rfl
  | some frame =>
    show (((frame.config.mapCode g).handler? event).map fun cb => Followup.invoke cb v).toList =
      (((frame.config.handler? event).map fun cb => Followup.invoke cb v).toList).map _
    rw [Config.handler?_mapCode]
    cases frame.config.handler? event <;> rfl

/-- A report calls the exchanged handler. -/
theorem mapCode_report (e : Error) :
    (h.mapCode g).report f e = (h.report f e).map (Followup.mapCode g) := mapCode_emit _ _

/-- The announcement of the content calls the exchanged handler. -/
theorem mapCode_announceContent :
    (h.mapCode g).announceContent f = (h.announceContent f).map (Followup.mapCode g) :=
  mapCode_emit _ _

/-! ### Mounting -/

/-- A check is aborted whatever the callbacks are. -/
theorem mapCode_abort (check : Option ℕ) : (h.mapCode g).abort check = (h.abort check).mapCode g := by
  cases check <;> rfl

/-- Exchanging the callbacks commutes with letting go of the old nodes. -/
theorem mapCode_release : (h.mapCode g).release f = (h.release f).mapCode g := by
  unfold release
  rw [frame?_mapCode]
  cases h.frame? f with
  | none => rfl
  | some frame =>
    dsimp only [Option.map_some]
    show ({ ((h.mapCode g).abort frame.check).modifyFrame f Frame.released with
      page := h.page.removeListener? frame.listener } : Host) = _
    rw [mapCode_abort, mapCode_modifyFrame (u := Frame.released) fun frame => rfl]
    rfl

/-- Exchanging the callbacks commutes with starting a check. -/
theorem mapCode_startCheck : (h.mapCode g).startCheck f = (h.startCheck f).mapCode g := by
  unfold startCheck
  rw [frame?_mapCode]
  cases h.frame? f with
  | none => rfl
  | some frame =>
    show (if frame.config.checkCsp && frame.checks && h.runtime then _ else _) = _
    dsimp only
    split
    · show ({ (h.mapCode g).modifyFrame f fun frame => { frame with check := some h.checks.length }
        with checks := h.checks ++ [{ frame := f }] } : Host) = _
      rw [mapCode_modifyFrame (u := fun frame => { frame with check := some h.checks.length })
        fun frame => rfl]
      rfl
    · rfl

/-- The same nodes are installed whatever the callbacks are. -/
theorem mapCode_install (frame : Frame) (place : Place) :
    (h.mapCode g).install f (frame.mapCode g) place =
      ((h.install f frame place).1.mapCode g, (h.install f frame place).2) := by
  have htemplates : ((h.mapCode g).cache (frame.mapCode g).cache).templates (frame.mapCode g).config =
      (h.cache frame.cache).templates frame.config := rfl
  have hbuild : ∀ url look loader, (h.mapCode g).page.build (frame.mapCode g).config url look loader =
      h.page.build frame.config url look loader := fun _ _ _ => rfl
  have hsrc : (frame.mapCode g).config.src?.getD (h.mapCode g).page.origin =
      frame.config.src?.getD h.page.origin := rfl
  -- What is built does not depend on the code, and is opened no further.
  refine Prod.ext ?_ rfl
  unfold install
  dsimp only
  rw [htemplates, hsrc]
  simp only [hbuild]
  generalize (h.cache frame.cache).templates frame.config = templates
  generalize frame.config.src?.getD h.page.origin = src
  generalize h.page.build _ _ _ _ = built
  rw [← mapCode_register, ← mapCode_startCheck]
  refine congrArg (fun h : Host => (h.startCheck f).register f) ?_
  show ({ ((h.setCache _ _).mapCode g).modifyFrame f _ with page := _ } : Host) = _
  rw [mapCode_modifyFrame]
  · rfl
  · exact fun frame => rfl

/-- A mount is prepared the same way whatever the callbacks are. -/
theorem mapCode_prepare (frame : Frame) (place : Place) :
    (h.mapCode g).prepare f (frame.mapCode g) place = (h.prepare f frame place).mapCode g := by
  cases place with
  | container n => rfl
  | element n => exact mapCode_modifyFrame fun frame => rfl

/-- A frame gets its place, or none. -/
theorem mapCode_mount (config : Config) :
    (h.mapCode g).mount f (config.mapCode g) =
      ((h.mount f config).1.mapCode g, (h.mount f config).2) := by
  unfold mount
  rw [frame?_mapCode]
  cases h.frame? f with
  | none => rfl
  | some old =>
    dsimp only [Option.map_some]
    -- The steps of the mount one by one, each followed by its own exchange.
    have hmerged : (Config.defaults.merged (old.mapCode g).config).merged (config.mapCode g) =
        ((Config.defaults.merged old.config).merged config).mapCode g := by
      rw [← Config.mapCode_merged, ← Config.mapCode_merged]
      rfl
    rw [hmerged]
    generalize (Config.defaults.merged old.config).merged config = merged
    have hreleased : ((h.mapCode g).release f).modifyFrame f
          (fun frame => { frame with config := merged.mapCode g }) =
        ((h.release f).modifyFrame f fun frame => { frame with config := merged }).mapCode g := by
      rw [mapCode_release]
      exact mapCode_modifyFrame fun frame => rfl
    rw [hreleased]
    generalize (h.release f).modifyFrame f (fun frame => { frame with config := merged }) = k
    have hgiven : (if (old.mapCode g).frameId = (merged.mapCode g).frameId then k.mapCode g
          else (k.mapCode g).deregister f (old.mapCode g).frameId) =
        (if old.frameId = merged.frameId then k else k.deregister f old.frameId).mapCode g := by
      show (if old.frameId = merged.frameId then k.mapCode g
        else (k.mapCode g).deregister f old.frameId) = _
      rw [mapCode_deregister, apply_ite (mapCode g)]
    rw [hgiven]
    generalize (if old.frameId = merged.frameId then k else k.deregister f old.frameId) = k'
    -- The page and the place on it have no code.
    have hplace : (k'.mapCode g).page.place? (merged.mapCode g).frameId =
        k'.page.place? merged.frameId := rfl
    have haway : (k'.mapCode g).modifyFrame f (fun frame => { frame with phase := .uninitialized }) =
        (k'.modifyFrame f fun frame => { frame with phase := .uninitialized }).mapCode g :=
      mapCode_modifyFrame fun frame => rfl
    rw [frame?_mapCode, hplace, haway]
    cases k'.frame? f with
    | none => rfl
    | some frame =>
      cases k'.page.place? merged.frameId with
      | none => rfl
      | some place =>
        dsimp only [Option.map_some]
        rw [mapCode_prepare, mapCode_install]

/-- The same frame is found under an ID. -/
theorem mapCode_registered (frameId : String) :
    (h.mapCode g).registered frameId =
      ((h.registered frameId).1.mapCode g, (h.registered frameId).2) := by
  have hregistry : (h.mapCode g).registry = h.registry := rfl
  unfold registered
  rw [hregistry]
  cases h.registry.get? frameId with
  | some f => rfl
  | none =>
    have hadded := mapCode_addFrame (g := g) (h := h)
      { cache := .shared, registers := true, checks := h.allowList.isSome }
    exact congrArg (fun r : Host × FrameRef =>
      (({ r.1 with registry := h.registry.insert frameId r.2 } : Host), r.2)) hadded

/-- Exchanging the callbacks commutes with opening a frame. -/
theorem mapCode_openFrame (config : Config) :
    (h.mapCode g).openFrame (config.mapCode g) =
      ((h.openFrame config).1.mapCode g, (h.openFrame config).2) := by
  have hconfig : (h.mapCode g).defaults.merged (config.mapCode g) =
      (h.defaults.merged config).mapCode g := Config.mapCode_merged _ _
  unfold openFrame
  dsimp only
  rw [hconfig]
  generalize h.defaults.merged config = c
  have hframeId : (c.mapCode g).frameId = c.frameId := rfl
  rw [hframeId, mapCode_registered]
  dsimp only
  rw [mapCode_mount]

/-! ### Loading -/

variable {k k' : Host}

/-- A result that differs in the page alone has its followups exchanged. -/
theorem mapResult_of_page (hk : k' = k.mapCode g) {page : Page} (followups : List Followup) :
    (({ k' with page } : Host), followups.map (Followup.mapCode g)) =
      mapResult g ({ k with page }, followups) := by
  rw [hk]
  rfl

/-- A result that announces the content has its announcement exchanged. -/
theorem mapResult_of_announced (hk : k' = k.mapCode g) {page : Page} :
    (({ k' with page } : Host), ({ k' with page } : Host).announceContent f) =
      mapResult g ({ k with page }, ({ k with page } : Host).announceContent f) := by
  rw [hk]
  exact Prod.ext rfl mapCode_announceContent

/-- Exchanging the callbacks commutes with connecting. -/
theorem mapCode_connect (generation : ℕ) :
    (h.mapCode g).connect f generation = mapResult g (h.connect f generation) := by
  unfold connect
  rw [frame?_mapCode]
  cases h.frame? f with
  | none => rfl
  | some frame =>
    -- Neither the generation nor the phase depends on the code.
    have hnext : (if (frame.mapCode g).generation = generation then
        phaseAfterLoad? (frame.mapCode g).phase else none) =
      if frame.generation = generation then phaseAfterLoad? frame.phase else none := rfl
    dsimp only [Option.map_some]
    rw [hnext]
    cases (if frame.generation = generation then phaseAfterLoad? frame.phase else none) with
    | none => rfl
    | some phase =>
      have hshows : (frame.mapCode g).config.showsLoader = frame.config.showsLoader := rfl
      dsimp only
      rw [hshows]
      cases frame.config.showsLoader with
      | true =>
        refine mapResult_of_page (mapCode_modifyFrame ?_) []
        exact fun _ => rfl
      | false =>
        refine mapResult_of_announced (mapCode_modifyFrame ?_)
        exact fun _ => rfl

/-- Exchanging the callbacks commutes with showing the content. -/
theorem mapCode_showContent : (h.mapCode g).showContent f = mapResult g (h.showContent f) := by
  unfold showContent
  rw [frame?_mapCode]
  cases h.frame? f with
  | none => rfl
  | some frame =>
    -- Neither the phase nor the nodes depend on the code.
    have hnodes : (if (frame.mapCode g).phase = .initializing ∨ (frame.mapCode g).phase = .connected
        then (frame.mapCode g).nodes else none) =
      if frame.phase = .initializing ∨ frame.phase = .connected then frame.nodes else none := rfl
    dsimp only [Option.map_some]
    rw [hnodes]
    cases (if frame.phase = .initializing ∨ frame.phase = .connected then frame.nodes else none) with
    | none => rfl
    | some nodes =>
      dsimp only
      cases nodes.loader with
      | none =>
        refine mapResult_of_announced (mapCode_modifyFrame ?_)
        exact fun _ => rfl
      | some loader =>
        refine mapResult_of_page (mapCode_modifyFrame ?_) []
        exact fun _ => rfl

/-- Exchanging the callbacks commutes with fading the loader. -/
theorem mapCode_fadeLoader (generation : ℕ) (loader : NodeId) :
    (h.mapCode g).fadeLoader f generation loader = (h.fadeLoader f generation loader).mapCode g := by
  unfold fadeLoader
  rw [frame?_mapCode]
  cases h.frame? f with
  | none => rfl
  | some frame =>
    show (if frame.generation = generation then _ else _) = _
    dsimp only
    split <;> rfl

/-- Exchanging the callbacks commutes with retiring the loader. -/
theorem mapCode_retireLoader (generation : ℕ) (loader : NodeId) :
    (h.mapCode g).retireLoader f generation loader =
      mapResult g (h.retireLoader f generation loader) := by
  unfold retireLoader
  rw [frame?_mapCode]
  cases h.frame? f with
  | none => rfl
  | some frame =>
    show (if frame.generation = generation then _ else _) = _
    dsimp only
    split
    · refine mapResult_of_announced (mapCode_modifyFrame ?_)
      exact fun _ => rfl
    · rfl

/-- Exchanging the callbacks commutes with destroying a frame: the calls that wait are dropped
unheard. -/
theorem mapCode_destroy : (h.mapCode g).destroy f = (h.destroy f).mapCode g := by
  unfold destroy
  rw [frame?_mapCode]
  cases h.frame? f with
  | none => rfl
  | some frame =>
    show (if frame.phase.isMounted then _ else _) = _
    dsimp only
    split
    · -- The registry and the cache are left alone by the exchange.
      have hreleased : ((h.mapCode g).release f).modifyFrame f
            (fun frame => { frame with phase := .destroyed }) =
          ((h.release f).modifyFrame f fun frame => { frame with phase := .destroyed }).mapCode g := by
        rw [mapCode_release]
        exact mapCode_modifyFrame fun _ => rfl
      rw [hreleased, ← mapCode_deregister]
      rfl
    · rfl

/-! ### Calls -/

/-- A call is accepted or refused whoever is to be answered. -/
theorem mapCode_execute (r : BusRef) (task : Task) (responder : Responder) :
    (h.mapCode g).execute r task (responder.mapCode g) =
      (h.execute r task responder).map (mapCode g) := by
  unfold execute
  rw [bus?_mapCode]
  cases h.bus? r with
  | none => rfl
  | some b =>
    dsimp only [Option.map_some]
    rw [Bus.mapCode_execute]
    cases b.execute task responder with
    | error e => rfl
    | ok result =>
      show Except.ok ({ (h.mapCode g).setBus r (result.1.mapCode g) with
        page := h.page.post? result.2 } : Host) = _
      rw [mapCode_setBus]
      rfl

/-- Exchanging the callbacks commutes with a call. -/
theorem mapCode_call (m : Method) : (h.mapCode g).call f m = mapCall g (h.call f m) := by
  have hexecute : (h.mapCode g).newChannel.1.execute (.frame f) (Task.ofMethod m)
      (.channel (h.mapCode g).newChannel.2) =
    (h.newChannel.1.execute (.frame f) (Task.ofMethod m) (.channel h.newChannel.2)).map
      (mapCode g) :=
    mapCode_execute (g := g) (h := h.newChannel.1) (.frame f) _ (.channel h.newChannel.2)
  unfold call
  dsimp only
  rw [hexecute]
  cases h.newChannel.1.execute (.frame f) (Task.ofMethod m) (.channel h.newChannel.2) with
  | error e => exact Prod.ext rfl (Prod.ext rfl (mapCode_report e))
  | ok h => rfl

/-- A call by name answers the exchanged callback. -/
theorem mapCode_callByName (name : String) (params : Option Value) (cb : Callback) :
    (h.mapCode g).callByName f name params (g cb) = mapCall g (h.callByName f name params cb) := by
  have hexecute : (h.mapCode g).execute (.frame f) (Task.call name params) (.callback (g cb)) =
      (h.execute (.frame f) (Task.call name params) (.callback cb)).map (mapCode g) :=
    mapCode_execute (.frame f) _ (.callback cb)
  unfold callByName
  rw [hexecute]
  cases h.execute (.frame f) (Task.call name params) (.callback cb) with
  | error e => exact Prod.ext rfl (Prod.ext rfl (mapCode_report e))
  | ok h => rfl

/-- Exchanging the callbacks commutes with posting a deferred task. -/
theorem mapCode_postNext (r : BusRef) : (h.mapCode g).postNext r = (h.postNext r).mapCode g := by
  unfold postNext
  rw [bus?_mapCode]
  cases h.bus? r with
  | none => rfl
  | some b =>
    dsimp only [Option.map_some]
    rw [Bus.mapCode_postNext, mapCode_setBus]
    rfl

/-- An answer goes to the exchanged callback. -/
theorem mapCode_deliver (responder : Responder) (v : Value) :
    (h.mapCode g).deliver (responder.mapCode g) v = mapResult g (h.deliver responder v) := by
  cases responder <;> rfl

/-- Exchanging the callbacks commutes with an answer. -/
theorem mapCode_reply (r : BusRef) (data : Option Value) :
    (h.mapCode g).reply r data = mapResult g (h.reply r data) := by
  unfold reply
  rw [bus?_mapCode]
  cases h.bus? r with
  | none => rfl
  | some b =>
    dsimp only [Option.map_some]
    rw [Bus.mapCode_answer]
    dsimp only
    rw [mapCode_setBus]
    cases b.answer.1 with
    | none => rfl
    | some call =>
      dsimp only [Option.map_some]
      -- The answer is delivered to the exchanged responder, and the next post follows on both
      -- sides.
      have hdelivered := mapCode_deliver (g := g) (h := h.setBus r b.answer.2) call.responder
        (data.getD Value.emptyObject)
      show (((h.setBus r b.answer.2).mapCode g).deliver (call.responder.mapCode g) _).map id
        (· ++ [.postNext r]) = _
      rw [hdelivered]
      refine Prod.ext rfl ?_
      show List.map _ _ ++ [Followup.mapCode g (.postNext r)] = List.map _ (_ ++ [_])
      rw [List.map_append]
      rfl

/-- Exchanging the callbacks commutes with configuring, a remount included. -/
theorem mapCode_configure (patch : Config) :
    (h.mapCode g).configure f (patch.mapCode g) = mapCall g (h.configure f patch) := by
  unfold configure
  rw [frame?_mapCode]
  cases h.frame? f with
  | none => rfl
  | some frame =>
    dsimp only [Option.map_some]
    show (if frame.phase.isMounted && frame.config.requiresReload patch then _ else _) = _
    split
    · rw [mapCode_mount, frame?_mapCode]
      cases (h.mount f patch).1.frame? f <;> rfl
    · -- Without a remount the patch is stored and the application told.
      have hpatched : (h.mapCode g).modifyFrame f (fun frame' =>
            { frame' with config := (frame.mapCode g).config.merged (patch.mapCode g) }) =
          (h.modifyFrame f fun frame' =>
            { frame' with config := frame.config.merged patch }).mapCode g := by
        refine mapCode_modifyFrame fun frame' => ?_
        show ({ frame'.mapCode g with
          config := (frame.config.mapCode g).merged (patch.mapCode g) } : Frame) = _
        rw [Config.mapCode_merged]
        rfl
      rw [hpatched]
      exact mapCode_call _

/-! ### Checks -/

/-- Exchanging the callbacks commutes with the failure of a check. -/
theorem mapCode_failCheck (c : Check) (e : Error) :
    (h.mapCode g).failCheck c e = mapResult g (h.failCheck c e) := by
  unfold failCheck
  rw [frame?_mapCode]
  cases h.frame? c.frame with
  | none => rfl
  | some frame =>
    show (if frame.generation = c.generation then _ else _) = _
    dsimp only
    split
    · refine Prod.ext rfl ?_
      show _ ++ [Followup.mapCode g (.showContent c.frame)] = List.map _ (_ ++ [_])
      rw [List.map_append, ← mapCode_report]
      rfl
    · rfl

/-- A check ends with the same verdict. -/
theorem mapCode_endCheck (c : Check) :
    (h.mapCode g).endCheck c = ((h.endCheck c).1, mapResult g (h.endCheck c).2) := by
  have hverdict : (h.mapCode g).verdict = h.verdict := rfl
  unfold endCheck
  rw [hverdict]
  cases h.verdict with
  | ok u => rfl
  | error e => exact Prod.ext rfl (mapCode_failCheck c e)

/-- The same check is under way. -/
theorem check?_mapCode : (h.mapCode g).check? f = h.check? f := by
  unfold check?
  rw [frame?_mapCode]
  cases h.frame? f <;> rfl

/-! ### Messages -/

/-- Exchanging the callbacks commutes with running a command. -/
theorem mapCode_runCommand (name : String) (data : Value) :
    (h.mapCode g).runCommand f name data = mapResult g (h.runCommand f name data) := by
  unfold runCommand
  rw [frame?_mapCode]
  cases h.frame? f with
  | none => rfl
  | some frame =>
    -- The command found is the exchanged one.
    have hcommand : ((some frame).map (Frame.mapCode g)).bind (fun frame => frame.commands.get? name) =
        (frame.commands.get? name).map (Command.mapCode g) := Table.get?_map _ _ _
    rw [hcommand]
    dsimp only [Option.bind_some]
    cases frame.commands.get? name with
    | none => rfl
    | some command =>
      cases command with
      | showContent => exact mapCode_showContent
      | destroy => exact Prod.ext mapCode_destroy rfl
      | host cb => rfl
      | configure =>
        dsimp only
        cases hpatch : Config.ofValue data with
        | error e => exact Prod.ext rfl (mapCode_report e)
        | ok patch =>
          -- A patch that comes in a message has no callback to exchange.
          have hconfigured := mapCode_configure (g := g) (h := h) (f := f) patch
          rw [Config.mapCode_of_ofValue hpatch] at hconfigured
          dsimp only
          rw [hconfigured]
          rfl

/-- Exchanging the callbacks commutes with dispatching a decoded message. -/
theorem mapCode_dispatch (m : Inbound) :
    (h.mapCode g).dispatch f m = mapResult g (h.dispatch f m) := by
  unfold dispatch
  cases m.kind with
  | methodReturn => exact mapCode_reply _ _
  | eventReturn =>
    cases m.event with
    | none => rfl
    | some event => exact Prod.ext rfl (mapCode_emit _ _)
  | callCommand => exact mapCode_runCommand _ _
  | error => exact Prod.ext rfl (mapCode_emit _ _)
  | other name => rfl

/-- Exchanging the callbacks commutes with handling a message. -/
theorem mapCode_handle (data : Value) :
    (h.mapCode g).handle f data = mapResult g (h.handle f data) := by
  unfold handle
  rw [frame?_mapCode]
  cases h.frame? f with
  | none => rfl
  | some frame =>
    cases data.string? with
    | none => rfl
    | some text =>
      show (if (Inbound.decode text).frameId = frame.frameId then _ else _) = _
      dsimp only
      split
      · exact mapCode_dispatch _
      · rfl

/-- A command is registered with its exchanged callback. -/
theorem mapCode_registerCommand (name : String) (cb : Callback) :
    (h.mapCode g).registerCommand f name (g cb) =
      (h.registerCommand f name cb).map (mapCode g) := by
  unfold registerCommand
  rw [frame?_mapCode]
  cases h.frame? f with
  | none => rfl
  | some frame =>
    dsimp only [Option.map_some]
    show ((frame.commands.mapCode g).register name (g cb)).map _ = _
    rw [Commands.mapCode_register]
    cases frame.commands.register name cb with
    | error e => rfl
    | ok commands => exact congrArg Except.ok (mapCode_modifyFrame fun _ => rfl)

end Host

end FrameHost
