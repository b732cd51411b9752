import FrameHost.Config.Path
import FrameHost.Frame.Look

/-!
# Template caches

Paths and looks that were computed once are kept. A path is kept under a key that does not determine
it, so the paths of a frame are dropped whenever the frame is mounted again or torn down; a look is
determined by its key and kept for good.
-/

namespace FrameHost

/-- What a path is kept under. -/
structure PathKey where
  mode : Mode
  id : Option String
  frameId : String
deriving DecidableEq, Repr, Inhabited

/-- What a look is kept under. -/
structure LookKey where
  width : String
  height : String
  device : Device
deriving DecidableEq, Repr, Inhabited

/-- The key of the path of a configuration. -/
def Config.pathKey (c : Config) : PathKey := ⟨c.mode, c.id?, c.frameId⟩

/-- The key of the looks of a configuration. -/
def Config.lookKey (c : Config) : LookKey := ⟨c.width, c.height, c.device⟩

/-- The value kept under `k`, or else `a`, and the table that keeps it. -/
def Table.remember {κ α : Type} [DecidableEq κ] (t : Table κ α) (k : κ) (a : α) : α × Table κ α :=
  match t.get? k with
  | some b => (b, t)
  -- What is kept wins, also over another value.
  | none => (a, t.insert k a)

/-- A cache of paths and looks. -/
structure Cache where
  paths : Table PathKey String := Table.empty
  iframes : Table LookKey Style := Table.empty
  loaders : Table LookKey Look.Loader := Table.empty
deriving Inhabited

namespace Cache

/-- The path kept under a key, or else `built`, which is kept from now on. -/
def path (c : Cache) (k : PathKey) (built : String) : String × Cache :=
  let (a, paths) := c.paths.remember k built
  (a, { c with paths })

/-- The look of an iframe kept under a key, or else `built`, which is kept from now on. -/
def iframe (c : Cache) (k : LookKey) (built : Style) : Style × Cache :=
  let (a, iframes) := c.iframes.remember k built
  (a, { c with iframes })

/-- The look of a loader kept under a key, or else `built`, which is kept from now on. -/
def loader (c : Cache) (k : LookKey) (built : Look.Loader) : Look.Loader × Cache :=
  let (a, loaders) := c.loaders.remember k built
  (a, { c with loaders })

/-- The cache without the paths of a frame. -/
def forgetPaths (c : Cache) (frameId : String) : Cache :=
  { c with paths := c.paths.filter fun k => k.frameId ≠ frameId }

/-- The number of paths kept. -/
def pathCount (c : Cache) : Nat := c.paths.size

/-- Whether a path is kept under a key. -/
def hasPath (c : Cache) (k : PathKey) : Bool := c.paths.contains k

end Cache

end FrameHost
