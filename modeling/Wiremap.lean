import Wiremap.Ws.HubRuns
import Wiremap.Ws.KubeHubRuns
import Wiremap.Ws.LogStream
import Wiremap.Service.ContainerUpdate
import Wiremap.Service.WatchRuns
import Wiremap.Service.Debounce
import Wiremap.Service.SecretEdits
import Wiremap.Service.SecretConflicts
import Wiremap.Service.DirectoryListing
import Wiremap.Service.FileReports
import Wiremap.Topology.ServiceViews
import Wiremap.Topology.WatchCoverage
import Wiremap.Topology.DrillDown
import Wiremap.Topology.NodeIdentity
import Wiremap.Topology.Permissions
import Wiremap.Topology.StorageViews
import Wiremap.Topology.LensCounts
import Wiremap.Topology.AccessLens
import Wiremap.Topology.RangeLinks
import Wiremap.Topology.PodTallies
import Wiremap.Topology.RouteEdges
import Wiremap.Topology.AllowedTraffic
import Wiremap.Topology.ClaimTemplates
import Wiremap.Client.LayoutKey
import Wiremap.Client.CanvasAnchors
import Wiremap.Client.KubeObjects
import Wiremap.Client.EnvironmentEdits
import Wiremap.Client.NavigationLaw
import Wiremap.Client.HookSocket
import Wiremap.Client.EmitOrder
import Wiremap.Client.DrawnGraphs
import Wiremap.Client.DrillLevels
import Wiremap.Service.SecretRedaction
import Wiremap.Topology.PodFailures
import Wiremap.Service.ManualRuns
import Wiremap.Service.PodMetrics
import Wiremap.Service.ContainerStats
import Wiremap.Ws.KubeExecSession
import Wiremap.Kube.ClusterPool
import Wiremap.Client.Commands
import Wiremap.Handler.FilesystemHandler
import Wiremap.Service.NodeActions
import Wiremap.Topology.OwnerChains
import Wiremap.Client.OwnershipDepth
import Wiremap.Topology.SpecRefs
import Wiremap.Client.ApiRoutes
import Wiremap.Handler.Middleware
import Wiremap.Client.LiveCanvas
import Wiremap.Client.Console
import Wiremap.Client.VolumeBrowser
import Wiremap.Service.SettingActions
import Wiremap.Client.ManifestPanel
import Wiremap.Client.DockerDashboard
import Wiremap.Client.DockerViews
