import FrameHost.Frame.ErrorPage
import FrameHost.Host.Loading

/-!
# Checks of the allow-list

A check asks whether the application of a frame allows the page that it is on. It knows the mount
during which it began; if it fails during that mount, the iframe shows an error page, the error is
reported and the frame counts as loaded.
-/

namespace FrameHost.Host

/-- The check of a frame, if there is anything to ask: pages of the application's own origin are
always allowed. -/
def check? (h : Host) (f : FrameRef) : Option Check :=
  match h.frame? f with
  | none => none
  | some frame =>
    let src := frame.config.src?.getD h.page.origin
    if frame.checks && Origin.asksPolicy src h.page.origin then some ⟨f, src, frame.generation⟩
    else none

/-- Whether a check has to wait for the allow-list. -/
def mustWait (h : Host) : Bool := !h.gateOpen && (h.allowList.map AllowList.gated).getD false

/-- What the allow-list says about the page. -/
def verdict (h : Host) : Except Error Unit :=
  match h.allowList with
  | none => .ok ()
  | some list => list.policy.check list.engine h.page.origin

/-- A check has failed. -/
def failCheck (h : Host) (c : Check) (e : Error) : Host × List Followup :=
  match h.frame? c.frame with
  | none => (h, [])
  | some frame =>
    -- A check of an earlier mount says nothing about this one.
    if frame.generation = c.generation then
      let page :=
        match frame.nodes with
        | none => h.page
        | some nodes =>
          h.page.showDocument nodes.iframe (ErrorPage.document h.page.origin c.src e.appMessage)
      -- The report comes first, and its handler runs before the content is shown.
      ({ h with page }, h.report c.frame e ++ [.showContent c.frame])
    else (h, [])

/-- A check gets the allow-list: its result, and what follows from a failure. -/
def endCheck (h : Host) (c : Check) : Except Error Unit × Host × List Followup :=
  match h.verdict with
  | .ok () => (.ok (), h, [])
  | .error e => (.error e, h.failCheck c e)

end FrameHost.Host
