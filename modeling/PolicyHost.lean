import PolicyHost.Fleet
import PolicyHost.Main
import PolicyHost.Proofs.Bundle.Order
import PolicyHost.Proofs.Instance.Serial
import PolicyHost.Proofs.Sandbox.Paths
import PolicyHost.Proofs.Instance.Failed
import PolicyHost.Proofs.Json.Lexemes
import PolicyHost.Proofs.Json.Numerals
import PolicyHost.Proofs.Text.Utf8
import PolicyHost.Proofs.Json.Numbers
import PolicyHost.Proofs.Json.Compact
import PolicyHost.Proofs.Json.Encode
import PolicyHost.Proofs.Value.Encode
import PolicyHost.Proofs.Sandbox.Memory
import PolicyHost.Proofs.Sandbox.Relay
import PolicyHost.Proofs.Instance.Relay
import PolicyHost.Proofs.Builtin.Memo
import PolicyHost.Proofs.Sandbox.Record
import PolicyHost.Proofs.Sandbox.Report
import PolicyHost.Proofs.Sandbox.Cache
import PolicyHost.Proofs.Fleet.Isolation
import PolicyHost.Proofs.Sandbox.Mirror
import PolicyHost.Proofs.Sandbox.Staging
import PolicyHost.Proofs.Sandbox.Outside
import PolicyHost.Proofs.Sandbox.Rewind
import PolicyHost.Proofs.Sandbox.Reciter
import PolicyHost.Proofs.Value.Border
import PolicyHost.Proofs.Sandbox.Build
import PolicyHost.Proofs.Sandbox.Linkage
import PolicyHost.Proofs.Instance.Edits
import PolicyHost.Proofs.Builtin.Precedence
import PolicyHost.Proofs.Builtin.Union
import PolicyHost.Proofs.Builtin.VersionGrammar
import PolicyHost.Proofs.Bundle.Failures
import PolicyHost.Proofs.Bundle.Names
import PolicyHost.Proofs.Command.Endings
import PolicyHost.Proofs.Bundle.Content
import PolicyHost.Proofs.Config.Denotation
import PolicyHost.Proofs.Sandbox.Requirements
import PolicyHost.Proofs.Fleet.Registered
import PolicyHost.Proofs.Builtin.QueryObject
import PolicyHost.Proofs.Command.Printed
import PolicyHost.Proofs.Builtin.Base64Url
import PolicyHost.Proofs.Sandbox.FirstZero
