import FrameHost.Callback
import FrameHost.Error
import FrameHost.Table
import FrameHost.Text.Blank

/-!
# Commands

What the application may ask its frame to do: three commands of the library and those that the host
has registered. A name that is taken stays with its first owner.
-/

namespace FrameHost

/-- What a command does. -/
inductive Command where
  /-- Shows the content. -/
  | showContent
  /-- Changes the configuration. -/
  | configure
  /-- Tears the frame down. -/
  | destroy
  /-- Runs host code. -/
  | host (cb : Callback)
deriving DecidableEq, Repr, Inhabited

/-- The commands of a frame, by name. -/
abbrev Commands := Table String Command

namespace Commands

/-- The commands of the library. -/
def builtin : Commands :=
  Table.ofList
    [("setIsLoaded", .showContent), ("setConfig", .configure), ("destroyFrame", .destroy)]

/-- The commands with one more. -/
def register (cs : Commands) (name : String) (cb : Callback) : Except Error Commands :=
  if Text.isAllBlank name then .error .blankCommand
  else if cs.contains name then .error (.commandTaken name)
  else .ok (cs.insert name (.host cb))

/-- The names of the commands, in order. -/
def names (cs : Commands) : List String := cs.keys.mergeSort fun a b => decide (a ≤ b)

end Commands

end FrameHost
