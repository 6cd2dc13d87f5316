import FuseVolumes.Capacity
import FuseVolumes.Clusters
import FuseVolumes.CommandLine.Options
import FuseVolumes.CommandLine.Parser
import FuseVolumes.Controller.Service
import FuseVolumes.Controller.Session
import FuseVolumes.Credentials
import FuseVolumes.Csi.Capability
import FuseVolumes.Csi.Identity
import FuseVolumes.Dict
import FuseVolumes.Engine.Bench
import FuseVolumes.Engine.Command
import FuseVolumes.Engine.Fuse
import FuseVolumes.Engine.Pool
import FuseVolumes.Event
import FuseVolumes.Fault
import FuseVolumes.Handle
import FuseVolumes.Host.Configuration
import FuseVolumes.Host.Kernel
import FuseVolumes.Host.Network
import FuseVolumes.Host.Script
import FuseVolumes.Host.Socket
import FuseVolumes.Host.Tree
import FuseVolumes.Json
import FuseVolumes.Logging.Directive
import FuseVolumes.Logging.Filter
import FuseVolumes.Logging.Style
import FuseVolumes.Main
import FuseVolumes.Mount.Info
import FuseVolumes.Mount.Kernel
import FuseVolumes.Mount.Options
import FuseVolumes.Mount.Table
import FuseVolumes.Node.Call
import FuseVolumes.Node.Machine
import FuseVolumes.Node.MountPoint
import FuseVolumes.Node.Service
import FuseVolumes.Orchestrator.Address
import FuseVolumes.Orchestrator.Metadata
import FuseVolumes.Orchestrator.Object
import FuseVolumes.Orchestrator.Reader
import FuseVolumes.Orchestrator.Schema
import FuseVolumes.Orchestrator.Schema.Common
import FuseVolumes.Orchestrator.Schema.Object
import FuseVolumes.Orchestrator.Schema.Pod
import FuseVolumes.Orchestrator.Schema.Volume
import FuseVolumes.Orchestrator.Store
import FuseVolumes.Path
import FuseVolumes.Plugin.ControllerProcess
import FuseVolumes.Plugin.Launch
import FuseVolumes.Plugin.Run
import FuseVolumes.Plugin.Server
import FuseVolumes.Plugin.Settings
import FuseVolumes.Program
import FuseVolumes.Proofs.Capacity
import FuseVolumes.Proofs.Clusters
import FuseVolumes.Proofs.Controller.Commands
import FuseVolumes.Proofs.Controller.Granted
import FuseVolumes.Proofs.Controller.Handles
import FuseVolumes.Proofs.Controller.Retry
import FuseVolumes.Proofs.Controller.Serial
import FuseVolumes.Proofs.Controller.Sizes
import FuseVolumes.Proofs.Dict
import FuseVolumes.Proofs.Engine.DaemonDirectory
import FuseVolumes.Proofs.Engine.Exchanges
import FuseVolumes.Proofs.Engine.Keeper
import FuseVolumes.Proofs.Engine.KeyFiles
import FuseVolumes.Proofs.Engine.Locking
import FuseVolumes.Proofs.Engine.ProxiedMount
import FuseVolumes.Proofs.Engine.Quotas
import FuseVolumes.Proofs.Except
import FuseVolumes.Proofs.Handle.Errors
import FuseVolumes.Proofs.Handle.Grammar
import FuseVolumes.Proofs.Handle.Reading
import FuseVolumes.Proofs.Handle.RoundTrip
import FuseVolumes.Proofs.Host.Tree
import FuseVolumes.Proofs.Mount.Flags
import FuseVolumes.Proofs.Mount.Info
import FuseVolumes.Proofs.Mount.Options
import FuseVolumes.Proofs.Mount.Table
import FuseVolumes.Proofs.Node.Contract
import FuseVolumes.Proofs.Node.Flags
import FuseVolumes.Proofs.Node.Footprint
import FuseVolumes.Proofs.Node.Host
import FuseVolumes.Proofs.Node.Locking
import FuseVolumes.Proofs.Node.MountPoint
import FuseVolumes.Proofs.Node.Publish
import FuseVolumes.Proofs.Node.Readiness
import FuseVolumes.Proofs.Node.Refusal
import FuseVolumes.Proofs.Node.Source
import FuseVolumes.Proofs.Orchestrator.Attached
import FuseVolumes.Proofs.Orchestrator.Store
import FuseVolumes.Proofs.Path
import FuseVolumes.Proofs.Path.Place
import FuseVolumes.Proofs.Program.Exclusion
import FuseVolumes.Proofs.Program.Interleaving
import FuseVolumes.Proofs.Program.Overlap
import FuseVolumes.Proofs.Recovery.Accounting
import FuseVolumes.Proofs.Recovery.Alone
import FuseVolumes.Proofs.Recovery.Convergence
import FuseVolumes.Proofs.Recovery.Credentials
import FuseVolumes.Proofs.Recovery.Exclusion
import FuseVolumes.Proofs.Recovery.Footprint
import FuseVolumes.Proofs.Recovery.Isolation
import FuseVolumes.Proofs.Recovery.LiveSource
import FuseVolumes.Proofs.Recovery.Lookups
import FuseVolumes.Proofs.Recovery.PodOptions
import FuseVolumes.Proofs.Recovery.SharedSecrets
import FuseVolumes.Proofs.Recovery.SubMounts
import FuseVolumes.Proofs.Reservations.Holders
import FuseVolumes.Proofs.Secret.Choice
import FuseVolumes.Proofs.Secret.Name
import FuseVolumes.Proofs.Secret.Reference
import FuseVolumes.Proofs.Secret.Template
import FuseVolumes.Proofs.Text.Pattern
import FuseVolumes.Proofs.Topology
import FuseVolumes.Proofs.Topology.Nodes
import FuseVolumes.Proofs.Topology.Refusals
import FuseVolumes.Proofs.Volume
import FuseVolumes.Recovery.Kubelet
import FuseVolumes.Recovery.Pass
import FuseVolumes.Recovery.Plan
import FuseVolumes.Recovery.PodIndex
import FuseVolumes.Recovery.Task
import FuseVolumes.Reservations
import FuseVolumes.Secret.Name
import FuseVolumes.Secret.Reference
import FuseVolumes.Secret.Template
import FuseVolumes.Status
import FuseVolumes.Text.Alphanumeric
import FuseVolumes.Text.Base64
import FuseVolumes.Text.Blank
import FuseVolumes.Text.Bytes
import FuseVolumes.Text.Cased
import FuseVolumes.Text.CharSet
import FuseVolumes.Text.Duration
import FuseVolumes.Text.Integer
import FuseVolumes.Text.LowerCase
import FuseVolumes.Text.Pattern
import FuseVolumes.Text.Percent
import FuseVolumes.Text.Quoted
import FuseVolumes.Text.Ranges
import FuseVolumes.Text.Regex
import FuseVolumes.Text.Regex.Reader
import FuseVolumes.Text.Timestamp
import FuseVolumes.Text.Unprintable
import FuseVolumes.Text.Utf8
import FuseVolumes.Text.Word
import FuseVolumes.Topology
import FuseVolumes.Volume
