/-!
# Host code

The host gives the library code to run: event handlers, commands, the receivers of replies. What
such code does is a script, a list of operations kept beside the page; a callback names its script.

A script is carried out when it is called for the first time. Later calls are recorded, and panic if
the code panics, but nothing else is done. So what is said about sessions covers host code whose
handlers and commands act once, each in its own way, and does not cover a handler that acts on every
call.
-/

namespace FrameHost

/-- A script, by its place in the list of scripts. -/
abbrev ScriptId := Nat

/-- A piece of host code. -/
structure Callback where
  /-- The name under which its calls are recorded. -/
  tag : String
  /-- Whether it panics when its script is done. -/
  panics : Bool
  /-- What it does, the first time it is called; it does nothing when it is called again. -/
  script : ScriptId
deriving DecidableEq, Repr, Inhabited

end FrameHost
