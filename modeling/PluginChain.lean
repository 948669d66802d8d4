import PluginChain.Platforms.Scripted
import PluginChain.Main
import PluginChain.Session.Running
import PluginChain.Proofs.Host.Conduct
import PluginChain.Proofs.Host.Tenancy
import PluginChain.Proofs.Host.Contracts
import PluginChain.Proofs.Library.Conduct
import PluginChain.Proofs.Plugin.Conduct
import PluginChain.Proofs.Session.Conduct
import PluginChain.Proofs.Session.Discipline
import PluginChain.Proofs.Host.Past
import PluginChain.Proofs.Library.Past
import PluginChain.Proofs.Plugin.Past
import PluginChain.Proofs.Session.Renewal
import PluginChain.Proofs.Elf.Description
import PluginChain.Proofs.Elf.Acceptance
import PluginChain.Proofs.Elf.Building
import PluginChain.Proofs.Elf.Truncation
import PluginChain.Proofs.Toml.Quoting
import PluginChain.Proofs.Toml.Reading
import PluginChain.Proofs.Toml.Document
import PluginChain.Proofs.Config.RoundTrip
import PluginChain.Proofs.Host.Ledger
import PluginChain.Proofs.Host.Transcript
import PluginChain.Proofs.Session.Transcript
import PluginChain.Proofs.Library.Trials
import PluginChain.Proofs.Plugin.Answers
import PluginChain.Proofs.Host.Partition
import PluginChain.Proofs.Session.Course
import PluginChain.Proofs.Session.Account
import PluginChain.Proofs.Session.Verdict
import PluginChain.Proofs.Session.Independence
import PluginChain.Proofs.Session.Reporting
import PluginChain.Proofs.Session.Moves
import PluginChain.Proofs.Session.Phases
import PluginChain.Proofs.CommandLine.Effective
import PluginChain.Proofs.CommandLine.Candidates
import PluginChain.Proofs.CommandLine.Dependencies
import PluginChain.Proofs.Library.Opening
import PluginChain.Proofs.Library.Priming
import PluginChain.Proofs.Config.Validity
import PluginChain.Proofs.Elf.Extent
import PluginChain.Proofs.Session.Confinement
import PluginChain.Proofs.Plugin.Resolution
import PluginChain.Proofs.Session.Serving
import PluginChain.Proofs.Text.Utf8
import PluginChain.Proofs.Session.Assets
import PluginChain.Proofs.Config.Building
import PluginChain.Proofs.Config.Defects
import PluginChain.Proofs.Elf.Mapping
import PluginChain.Proofs.Library.Redirects
