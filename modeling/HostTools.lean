import HostTools.Address.FamilyJson
import HostTools.Main
import HostTools.Proofs.Address.FamilyJson
import HostTools.Proofs.Address.Grammar
import HostTools.Proofs.Address.Ipv6
import HostTools.Proofs.Arguments.ExecLine
import HostTools.Proofs.Command.Steps
import HostTools.Proofs.Domain.Ideographs
import HostTools.Proofs.Exec.Call
import HostTools.Proofs.Exec.Failure
import HostTools.Proofs.Exec.Outcome
import HostTools.Proofs.Fetch.Stages
import HostTools.Proofs.Fetch.Timeout
import HostTools.Proofs.Path
import HostTools.Proofs.Report.Json
import HostTools.Proofs.Report.Limits
import HostTools.Proofs.Report.Lines
import HostTools.Proofs.Request.Url
import HostTools.Proofs.Run.Message
import HostTools.Proofs.Run.Output
import HostTools.Proofs.Stub
import HostTools.Proofs.Target.Destination
import HostTools.Proofs.Target.Graphic
import HostTools.Proofs.Target.Literal
import HostTools.Proofs.Target.Normal
import HostTools.Proofs.Target.Slash
import HostTools.Proofs.Target.Verbatim
import HostTools.Proofs.Url.Host
import HostTools.Proofs.Url.Literal
import HostTools.Proofs.Url.Normal
import HostTools.Proofs.Url.Path
import HostTools.Proofs.Url.Server
import HostTools.Stub
