import PayLink.Text.Utf8
import PayLink.Json.Reader
import PayLink.Json.Writer
import PayLink.Amount.Conversion
import PayLink.Config.Json
import PayLink.Request.Json
import PayLink.Transaction.Json
import PayLink.Transfer.Build
import PayLink.Link
import PayLink.Program
import PayLink.Main
import PayLink.Proofs.Address
import PayLink.Proofs.Address.Spelling
import PayLink.Proofs.Amount
import PayLink.Proofs.Amount.Reading
import PayLink.Proofs.Amount.Rounding
import PayLink.Proofs.Amount.Nearest
import PayLink.Proofs.Decimal.Canonical
import PayLink.Proofs.Url.Rereading
import PayLink.Proofs.Link.Scheme
import PayLink.Proofs.Link.Parameters
import PayLink.Proofs.Link.Transfer
import PayLink.Proofs.Ledger
import PayLink.Proofs.Mint
import PayLink.Proofs.Transfer.Instruction
import PayLink.Proofs.Transfer.Build
import PayLink.Proofs.Transfer.Obstacles
import PayLink.Proofs.Transfer.Scale
import PayLink.Proofs.Link.Transaction
import PayLink.Proofs.Link.Recoding
import PayLink.Proofs.Link.Recipient
import PayLink.Proofs.Link.Query
import PayLink.Proofs.Link.Layout
import PayLink.Proofs.Rounds
import PayLink.Proofs.Transfer.Delays
import PayLink.Proofs.Url.DomainName
import PayLink.Proofs.Url.Ipv4
import PayLink.Proofs.Url.Ipv6
import PayLink.Proofs.Url.Host
import PayLink.Proofs.Url.Authority
import PayLink.Proofs.Url.Path
import PayLink.Proofs.Url.Written
import PayLink.Proofs.Link.Annotations
import PayLink.Proofs.Link.Trimming
import PayLink.Proofs.Link.Web
import PayLink.Proofs.Link.Relative
import PayLink.Proofs.Link.Stability
import PayLink.Proofs.Link.Bare
import PayLink.Proofs.Program
import PayLink.Proofs.Json.Request
import PayLink.Proofs.Derivation
import PayLink.Proofs.Mint.Layout
import PayLink.Proofs.Link.Authority
import PayLink.Proofs.Link.Slash
import PayLink.Proofs.Settings.Expansion
import PayLink.Proofs.Toml.Local
import PayLink.Proofs.Toml.Text
import PayLink.Proofs.Toml.Value
import PayLink.Proofs.Toml.Line
import PayLink.Proofs.Toml.Place
import PayLink.Proofs.Toml.Reach
import PayLink.Proofs.Settings.Field
import PayLink.Proofs.Settings.Isolation
