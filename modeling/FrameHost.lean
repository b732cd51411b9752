import FrameHost.Config.Setting
import FrameHost.Session.Report
import FrameHost.Proofs.Hosts
import FrameHost.Proofs.Wildcards
import FrameHost.Proofs.ExactEntries
import FrameHost.Proofs.ErrorPages
import FrameHost.Proofs.Queries
import FrameHost.Proofs.ManagerPaths
import FrameHost.Proofs.Agenda
import FrameHost.Proofs.InFlight
import FrameHost.Proofs.LoadEvents
import FrameHost.Proofs.PathCache
import FrameHost.Proofs.Turns
import FrameHost.Proofs.StaleHooks
import FrameHost.Proofs.FailedChecks
import FrameHost.Proofs.Renaming
import FrameHost.Proofs.Registry
import FrameHost.Proofs.JsonStrings
import FrameHost.Proofs.Identity
import FrameHost.Proofs.Receivers
import FrameHost.Proofs.Operations
import FrameHost.Proofs.CallEvents
import FrameHost.Proofs.Replies
import FrameHost.Proofs.Subtrees
import FrameHost.Proofs.Estates
import FrameHost.Proofs.Neighbours
import FrameHost.Proofs.Slots
import FrameHost.Proofs.SlotRuns
import FrameHost.Proofs.CanonicalValues
import FrameHost.Proofs.Records
import FrameHost.Proofs.InboundFormat
import FrameHost.Proofs.Addressing
import FrameHost.Proofs.Loaders
import FrameHost.Proofs.ContentReady
import FrameHost.Proofs.JsonNumbers
import FrameHost.Proofs.JsonValues
import FrameHost.Proofs.Envelopes
import FrameHost.Proofs.Termination
import FrameHost.Proofs.SingleQueue
import FrameHost.Proofs.Unmounted
import FrameHost.Proofs.Overlay
import FrameHost.Proofs.Reconfigure
import FrameHost.Proofs.LoaderHooks
import FrameHost.Proofs.LoaderNodes
import FrameHost.Proofs.Painting
import FrameHost.Proofs.ResourcePaths
import FrameHost.Proofs.DistinctParameters
import FrameHost.Proofs.FrameAddresses
import FrameHost.Proofs.Refusals
import FrameHost.Proofs.RefusedCalls
import FrameHost.Proofs.Merging
import FrameHost.Proofs.ParseErrors
import FrameHost.Proofs.HostCode
import FrameHost.Proofs.HostPanics
import FrameHost.Proofs.ShortestDecimals
import FrameHost.Proofs.ReadLengths
import FrameHost.Proofs.RefusalDetails
import FrameHost.Proofs.Styles
import FrameHost.Proofs.Attaching
import FrameHost.Proofs.CommandRuns
import FrameHost.Proofs.CachedLooks
