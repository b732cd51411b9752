import FrameHost.Config.Mode
import FrameHost.Page.Style

/-!
# The look of a frame

While a frame loads, its iframe lies invisible over the loader inside a container; once loaded it is
visible and takes its place in the flow of the page.
-/

namespace FrameHost.Look

/-- The iframe of a frame of a given size. -/
def iframe (width height : String) : Style :=
  Style.ofList [("width", width), ("height", height), ("border", "0"), ("display", "block")]

/-- What hides an iframe behind the loader. -/
def hidden : Style :=
  Style.ofList
    [("opacity", "0"), ("position", "absolute"), ("top", "0"), ("left", "0"), ("z-index", "2")]

/-- What shows an iframe. -/
def visible : Style :=
  Style.ofList [("opacity", "1"), ("position", "relative"), ("z-index", "auto")]

/-- The container while the frame loads. -/
def container (width height : String) : Style :=
  Style.ofList [("position", "relative"), ("width", width), ("height", height)]

/-- The container once the frame has loaded. -/
def containerLoaded (width height : String) : Style :=
  Style.ofList [("position", "static"), ("width", width), ("height", height)]

/-- The look of a loader: of the whole, and of the spinner inside. -/
structure Loader where
  style : Style
  spinner : Style
deriving DecidableEq, Inhabited

/-- The width and height of the spinner. -/
def spinnerSize : Device → String
  | .desktop => "32px"
  | .mobile => "24px"

/-- The loader of a frame of a given size on a class of devices. -/
def loader (width height : String) (device : Device) : Loader where
  style :=
    Style.ofList
      [("width", width), ("height", height), ("display", "flex"), ("align-items", "center"),
        ("justify-content", "center"), ("position", "absolute"), ("top", "0"), ("left", "0"),
        ("z-index", "1"), ("transition", "opacity 0.3s ease-out")]
  spinner := Style.ofList [("width", spinnerSize device), ("height", spinnerSize device)]

/-- What makes a loader fade. -/
def faded : Style := Style.ofList [("opacity", "0")]

end FrameHost.Look
