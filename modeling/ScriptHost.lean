import ScriptHost.Isolate.Scripted
import ScriptHost.Log.Backend
import ScriptHost.Main
import ScriptHost.Proofs.CommandLine.Run
import ScriptHost.Proofs.Isolate.HostCalls
import ScriptHost.Proofs.Isolate.Persistence
import ScriptHost.Proofs.Sandbox.Containment
import ScriptHost.Proofs.Session.Confinement
import ScriptHost.Proofs.Session.Lifecycle
import ScriptHost.Proofs.Session.Noninterference
import ScriptHost.Proofs.Session.Opening
import ScriptHost.Proofs.Script.Calls
import ScriptHost.Proofs.Script.Compare
import ScriptHost.Proofs.Session.Action.Call
import ScriptHost.Proofs.Session.Action.Result
import ScriptHost.Proofs.Session.Delivery
import ScriptHost.Proofs.Session.Load.Agreement
import ScriptHost.Proofs.Output
import ScriptHost.Proofs.Source.Decoding
import ScriptHost.Proofs.Text.Ending
import ScriptHost.Proofs.Source.Terminator
import ScriptHost.Proofs.Text.Wide
import ScriptHost.Proofs.Source.Wide
import ScriptHost.Proofs.Files
import ScriptHost.Proofs.Session.Reading
import ScriptHost.Proofs.Session.Sources
import ScriptHost.Proofs.Session.Conclusion
import ScriptHost.Proofs.Settings.Merge
import ScriptHost.Proofs.Settings.Loading
import ScriptHost.Proofs.Settings.Stages
import ScriptHost.Proofs.Source.Trace
import ScriptHost.Proofs.Toml.Distinct
import ScriptHost.Proofs.Settings.Heeded
import ScriptHost.Proofs.Isolate.Lifecycle
import ScriptHost.Proofs.Sandbox.Warning
import ScriptHost.Proofs.Sandbox.Described
import ScriptHost.Proofs.Unlogged
import ScriptHost.Proofs.CommandLine.Styles
import ScriptHost.Proofs.Log.Backend
import ScriptHost.Proofs.Log.Limits
import ScriptHost.Proofs.Session.Action.Reply
