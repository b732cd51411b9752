import FrameHost.Table

/-!
# Inline styles

A style is a table of declarations: setting a property again changes its value and not its place.
-/

namespace FrameHost

/-- The inline style of a node: a value for each of some properties, in order. -/
abbrev Style := Table String String

namespace Style

/-- The style without declarations. -/
def empty : Style := Table.empty

/-- The style that the given declarations set one after the other. -/
def ofList (declarations : List (String × String)) : Style := Table.ofList declarations

/-- The style with the declarations of `later` set on top. -/
def merged (style later : Style) : Style := style.overlay later

/-- A style as CSS text. -/
def toCss (style : Style) : String :=
  String.intercalate " " (style.entries.map fun d => d.1 ++ ": " ++ d.2 ++ ";")

end Style

end FrameHost
