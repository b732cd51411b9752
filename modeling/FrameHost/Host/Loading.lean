import FrameHost.Host.Mount

/-!
# Loading

What happens to a mounted frame: its iframe loads and it connects, its content is shown, its loader
fades and goes. Each of these steps belongs to one generation and does nothing in a later one. At
the end of a mount the frame is torn down.
-/

namespace FrameHost.Host

/-! ## Connecting -/

/-- The phase after the iframe has loaded, where that means anything. -/
def phaseAfterLoad? : Phase → Option Phase
  | .initializing => some .connected
  -- The content may be shown before the load, as it is after a check that failed.
  | .loaded => some .loaded
  | .uninitialized | .connected | .destroyed => none

/-- The iframe of a frame has loaded: the frame connects and listens. -/
def connect (h : Host) (f : FrameRef) (generation : Nat) : Host × List Followup :=
  match h.frame? f with
  | none => (h, [])
  | some frame =>
    match if frame.generation = generation then phaseAfterLoad? frame.phase else none with
    | none => (h, [])
    | some phase =>
      let (page, listener) := h.page.addListener (.frame f)
      -- An older listener goes once the new one is there.
      let page := page.removeListener? frame.listener
      let connected (frame : Frame) : Frame :=
        { frame with phase, listener := some listener, bus := frame.bus.connect }
      let h := { h.modifyFrame f connected with page }
      (h, if frame.config.showsLoader then [] else h.announceContent f)

/-! ## Showing the content -/

/-- Shows the content of a frame that is mounted and does not show it yet. The loader begins to go;
without one the content can be seen at once. -/
def showContent (h : Host) (f : FrameRef) : Host × List Followup :=
  match h.frame? f with
  | none => (h, [])
  | some frame =>
    match if frame.phase = .initializing ∨ frame.phase = .connected then frame.nodes else none with
    | none => (h, [])
    | some nodes =>
      let c := frame.config
      let page := h.page.setStyle nodes.container (Look.containerLoaded c.width c.height)
      let page := page.setStyle nodes.iframe Look.visible
      let h := { h.modifyFrame f fun frame => { frame with phase := .loaded } with page }
      match nodes.loader with
      -- The announcement waits for the loader to go.
      | some loader =>
        ({ h with page := h.page.afterPaint (.fade f frame.generation loader) }, [])
      | none => (h, h.announceContent f)

/-- The loader of a frame fades. -/
def fadeLoader (h : Host) (f : FrameRef) (generation : Nat) (loader : NodeId) : Host :=
  match h.frame? f with
  | none => h
  | some frame =>
    if frame.generation = generation then
      { h with
        page := (h.page.setStyle loader Look.faded).afterPaint (.retire f generation loader) }
    else h

/-- The loader of a frame goes, and the content can be seen. -/
def retireLoader (h : Host) (f : FrameRef) (generation : Nat) (loader : NodeId) :
    Host × List Followup :=
  match h.frame? f with
  | none => (h, [])
  | some frame =>
    if frame.generation = generation then
      let without (frame : Frame) : Frame :=
        { frame with nodes := frame.nodes.map fun nodes => { nodes with loader := none } }
      let h := { h.modifyFrame f without with page := h.page.remove loader }
      (h, h.announceContent f)
    else (h, [])

/-! ## Tearing down -/

/-- Tears a mounted frame down: an element with the class of the one that it replaced, and with the
configured text, takes its place. -/
def destroy (h : Host) (f : FrameRef) : Host :=
  match h.frame? f with
  | none => h
  | some frame =>
    if frame.phase.isMounted then
      -- Hooks of this mount are of an earlier generation from here on.
      let h := (h.release f).modifyFrame f fun frame => { frame with phase := .destroyed }
      let page :=
        match frame.nodes with
        | none => h.page
        | some nodes =>
          let (page, n) :=
            h.page.createPlaceholder frame.frameId frame.className frame.config.destroyText
          page.replace nodes.container n
      let h := { h with page }
      -- Paths that were kept under an earlier frame ID stay.
      let h := h.setCache frame.cache ((h.cache frame.cache).forgetPaths frame.frameId)
      h.deregister f frame.frameId
    else h

end FrameHost.Host
