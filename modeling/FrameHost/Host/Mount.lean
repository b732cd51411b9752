import FrameHost.Host.Basic

/-!
# Mounting

A frame takes the place of the host's element whose DOM id is the frame ID: a container with the
iframe, and with a loader in front of it unless the configuration says otherwise. A container that
an earlier mount left is replaced too. Mounting begins a new generation of the frame.

The page runs no host code while its nodes are built. So no other mount of the frame comes between the
beginning of a mount and its end, and there is no case for a mount that is superseded meanwhile. The
name of the iframe and its permissions are the same for every frame; nothing depends on them, and a
page does not keep them.
-/

namespace FrameHost

/-! ## Places -/

/-- The DOM id of the container of a frame. -/
def containerId (frameId : String) : String := frameId ++ "-container"

/-- The DOM id of the loader of a frame. -/
def loaderId (frameId : String) : String := frameId ++ "-loader"

/-- Where a frame goes on the page. -/
inductive Place where
  /-- The container that an earlier mount left. -/
  | container (n : NodeId)
  /-- The element of the host. -/
  | element (n : NodeId)
deriving DecidableEq, Repr

/-- The node that a frame replaces. -/
def Place.node : Place → NodeId
  | container n => n
  | element n => n

namespace Page

/-- Where a frame goes, if it can go anywhere. -/
def place? (p : Page) (frameId : String) : Option Place :=
  match p.find? (containerId frameId) with
  | some n => some (.container n)
  | none => (p.find? frameId).map .element

/-- Makes the nodes of a frame: the iframe, the loader if there is to be one, the container. -/
def build (p : Page) (c : Config) (url : String) (look : Style) (loader : Option Style) :
    Page × Mounted :=
  let (p, iframe) := p.createIframe c.frameId url look
  let (p, loader) :=
    match loader with
    | none => (p, none)
    | some look =>
      let (p, n) := p.createLoader (loaderId c.frameId) look
      (p, some n)
  -- The loader stands before the iframe.
  let (p, container) :=
    p.createContainer (containerId c.frameId) (Look.container c.width c.height)
      (loader.toList ++ [iframe])
  (p, ⟨iframe, loader, container⟩)

end Page

/-! ## Looks -/

/-- What a mount takes from the cache: the path, the look of the iframe and that of the loader. -/
structure Templates where
  path : String
  iframe : Style
  loader : Option Style

/-- The templates of a configuration, and the cache that keeps them. -/
def Cache.templates (cache : Cache) (c : Config) : Templates × Cache :=
  -- The key does not determine the path, so a path of before may win over that of `c`.
  let (path, cache) := cache.path c.pathKey (c.path c.mode)
  let (base, cache) := cache.iframe c.lookKey (Look.iframe c.width c.height)
  if c.showsLoader then
    let (loader, cache) := cache.loader c.lookKey (Look.loader c.width c.height c.device)
    (⟨path, base.merged Look.hidden, some loader.style⟩, cache)
  else (⟨path, base, none⟩, cache)

namespace Host

/-! ## Mounting a frame -/

/-- The host with the check of a given number aborted. -/
def abort (h : Host) (check : Option Nat) : Host :=
  match check with
  | none => h
  | some n => { h with checks := h.checks.modify n fun c => { c with aborted := true } }

/-- The host with a frame at the beginning of its next generation. -/
def release (h : Host) (f : FrameRef) : Host :=
  match h.frame? f with
  | none => h
  | some frame =>
    { (h.abort frame.check).modifyFrame f Frame.released with
      page := h.page.removeListener? frame.listener }

/-- The host with a check of the allow-list started for a frame, if it is to be checked. -/
def startCheck (h : Host) (f : FrameRef) : Host :=
  match h.frame? f with
  | none => h
  | some frame =>
    if frame.config.checkCsp && frame.checks && h.runtime then
      { h.modifyFrame f fun frame => { frame with check := some h.checks.length } with
        checks := h.checks ++ [{ frame := f }] }
    else h

/-- The host with a frame that was released put in its place. -/
def install (h : Host) (f : FrameRef) (frame : Frame) (place : Place) : Host × NodeId :=
  let c := frame.config
  let src := c.src?.getD h.page.origin
  let (templates, cache) := (h.cache frame.cache).templates c
  let (page, nodes) :=
    h.page.build c (frameUrl src templates.path) templates.iframe templates.loader
  let page := page.replace place.node nodes.container
  -- The hook belongs to this generation, so it connects no later mount.
  let page := page.onLoad nodes.iframe (.connect f frame.generation)
  let mounted (frame : Frame) : Frame :=
    { frame with
      phase := .initializing
      nodes := some nodes
      bus := frame.bus.attach c.frameId ⟨nodes.iframe, src⟩ }
  let h := { (h.setCache frame.cache cache).modifyFrame f mounted with page }
  ((h.startCheck f).register f, nodes.iframe)

/-- The host with a frame ready for its place: the paths of an earlier mount are dropped, the class
of the host's element is kept. -/
def prepare (h : Host) (f : FrameRef) (frame : Frame) : Place → Host
  | .container _ => h.setCache frame.cache ((h.cache frame.cache).forgetPaths frame.frameId)
  | .element n => h.modifyFrame f fun frame => { frame with className := h.page.className n }

/-- Mounts a frame with `config` laid over its configuration, and says what its iframe is; a frame
without a place on the page is released and nothing more. -/
def mount (h : Host) (f : FrameRef) (config : Config) : Host × Option NodeId :=
  match h.frame? f with
  | none => (h, none)
  | some old =>
    let merged := (Config.defaults.merged old.config).merged config
    let h := (h.release f).modifyFrame f fun frame => { frame with config := merged }
    -- A frame that changes its ID gives the old one up.
    let h := if old.frameId = merged.frameId then h else h.deregister f old.frameId
    match h.frame? f, h.page.place? merged.frameId with
    | some frame, some place =>
      let (h, iframe) := (h.prepare f frame place).install f frame place
      (h, some iframe)
    | _, _ => (h.modifyFrame f fun frame => { frame with phase := .uninitialized }, none)

/-- The registered frame with an ID; a new one if there is none. -/
def registered (h : Host) (frameId : String) : Host × FrameRef :=
  match h.registry.get? frameId with
  | some f => (h, f)
  | none =>
    let (h, f) := h.addFrame { cache := .shared, registers := true, checks := h.allowList.isSome }
    ({ h with registry := h.registry.insert frameId f }, f)

/-- Mounts the registered frame that a configuration names. -/
def openFrame (h : Host) (config : Config) : Host × FrameRef :=
  let config := h.defaults.merged config
  let (h, f) := h.registered config.frameId
  ((h.mount f config).1, f)

end Host

end FrameHost
