/-!
# Phases

A frame begins uninitialized, is mounted and waits for its iframe to load, is connected, shows its
content, and is torn down; from everywhere it can be mounted again.
-/

namespace FrameHost

/-- Where a frame is in its life. -/
inductive Phase where
  /-- Never mounted, or its place on the page was missing. -/
  | uninitialized
  /-- Mounted; the iframe has not loaded yet. -/
  | initializing
  /-- The iframe has loaded. -/
  | connected
  /-- The content is shown. -/
  | loaded
  /-- Torn down. -/
  | destroyed
deriving DecidableEq, Repr, Inhabited

namespace Phase

/-- Every phase. -/
def all : List Phase := [uninitialized, initializing, connected, loaded, destroyed]

/-- The name of a phase. -/
def name : Phase → String
  | uninitialized => "uninitialized"
  | initializing => "initializing"
  | connected => "connected"
  | loaded => "loaded"
  | destroyed => "destroyed"

/-- Whether a frame has an iframe in this phase. -/
def isMounted : Phase → Bool
  | initializing | connected | loaded => true
  | uninitialized | destroyed => false

end Phase

end FrameHost
