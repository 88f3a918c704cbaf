import Uptime.Main
import Uptime.Proofs.Fleet.Answers
import Uptime.Proofs.Fleet.Apart
import Uptime.Proofs.Fleet.Backlog
import Uptime.Proofs.Fleet.Gathering
import Uptime.Proofs.Http.ContentType
import Uptime.Proofs.Icmp.RoundTrip
import Uptime.Proofs.Icmp.Waiting
import Uptime.Proofs.Monitor.Summary
import Uptime.Proofs.Monitor.Unrecorded
import Uptime.Proofs.Net.Dialling
import Uptime.Proofs.Probe.Answers
import Uptime.Proofs.Probe.Echoes
import Uptime.Proofs.Probe.Expectations
import Uptime.Proofs.Probe.Portless
import Uptime.Proofs.Program.Starting
import Uptime.Proofs.Recorder.Alike
import Uptime.Proofs.Store.Counts
import Uptime.Proofs.Store.Listing
import Uptime.Proofs.Store.Past
import Uptime.Proofs.Store.Recent
import Uptime.Proofs.Target.Forms
import Uptime.Proofs.Time.Downtime
import Uptime.Proofs.Time.OffsetText
