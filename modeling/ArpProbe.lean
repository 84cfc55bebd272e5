import ArpProbe.Calendar
import ArpProbe.Clock
import ArpProbe.CommandLine.Options
import ArpProbe.CommandLine.Request
import ArpProbe.CommandLine.Usage
import ArpProbe.Config
import ArpProbe.Descriptors
import ArpProbe.Discovery.AddressList
import ArpProbe.Discovery.Attributes
import ArpProbe.Discovery.ControlRequest
import ArpProbe.Discovery.Method
import ArpProbe.Discovery.Survey
import ArpProbe.Errno
import ArpProbe.Error
import ArpProbe.EventLoop
import ArpProbe.Frame.Basic
import ArpProbe.Frame.Report
import ArpProbe.HardwareAddress
import ArpProbe.Interface
import ArpProbe.Ipv4
import ArpProbe.Ipv6
import ArpProbe.Kernel.Basic
import ArpProbe.Kernel.Call
import ArpProbe.Kernel.Calls
import ArpProbe.Kernel.Credentials
import ArpProbe.Kernel.FileTree
import ArpProbe.Kernel.Files
import ArpProbe.Kernel.LinkAddress
import ArpProbe.Main
import ArpProbe.Privilege
import ArpProbe.Probe
import ArpProbe.Prober
import ArpProbe.Program
import ArpProbe.Proofs.CommandLine.Merging
import ArpProbe.Proofs.CommandLine.Spelling
import ArpProbe.Proofs.CommandLine.Wishes
import ArpProbe.Proofs.Discovery.Agreement
import ArpProbe.Proofs.Discovery.Chain
import ArpProbe.Proofs.Discovery.Enumeration
import ArpProbe.Proofs.Discovery.Refusal
import ArpProbe.Proofs.Discovery.Uniqueness
import ArpProbe.Proofs.EventLoop.Accounting
import ArpProbe.Proofs.EventLoop.Answering
import ArpProbe.Proofs.EventLoop.Budget
import ArpProbe.Proofs.EventLoop.Expirations
import ArpProbe.Proofs.EventLoop.Fold
import ArpProbe.Proofs.EventLoop.Foreign
import ArpProbe.Proofs.EventLoop.Going
import ArpProbe.Proofs.EventLoop.Occasions
import ArpProbe.Proofs.EventLoop.Onward
import ArpProbe.Proofs.EventLoop.Reflection
import ArpProbe.Proofs.EventLoop.Report
import ArpProbe.Proofs.EventLoop.Reporting
import ArpProbe.Proofs.EventLoop.Status
import ArpProbe.Proofs.EventLoop.Steps
import ArpProbe.Proofs.EventLoop.Transmissions
import ArpProbe.Proofs.Frame.Bounds
import ArpProbe.Proofs.Frame.Encoding
import ArpProbe.Proofs.Frame.FirstFailure
import ArpProbe.Proofs.Frame.Grammar
import ArpProbe.Proofs.Frame.Layout
import ArpProbe.Proofs.Frame.Mirror
import ArpProbe.Proofs.Frame.Showing
import ArpProbe.Proofs.Kernel.Aside
import ArpProbe.Proofs.Kernel.Running
import ArpProbe.Proofs.Privilege.Effective
import ArpProbe.Proofs.Privilege.Windows
import ArpProbe.Proofs.Probe.Asides
import ArpProbe.Proofs.Probe.Failures
import ArpProbe.Proofs.Probe.Lengths
import ArpProbe.Proofs.Probe.Order
import ArpProbe.Proofs.Probe.Selection
import ArpProbe.Proofs.Probe.Stages
import ArpProbe.Proofs.Probe.Verdict
import ArpProbe.Proofs.Prober.Account
import ArpProbe.Proofs.Prober.Destination
import ArpProbe.Proofs.Prober.Handling
import ArpProbe.Proofs.Prober.History
import ArpProbe.Proofs.Prober.Lengths
import ArpProbe.Proofs.Prober.Moves
import ArpProbe.Proofs.Session.Ledger
import ArpProbe.Proofs.Tally
import ArpProbe.Proofs.Text.Addresses
import ArpProbe.Proofs.Text.Reading
import ArpProbe.Resolver
import ArpProbe.Session
import ArpProbe.Settings
import ArpProbe.Source
import ArpProbe.Text.Basic
import ArpProbe.Text.Printable
import ArpProbe.Toml.Document
import ArpProbe.Toml.Token
import ArpProbe.Toml.Value
import ArpProbe.Verbosity
