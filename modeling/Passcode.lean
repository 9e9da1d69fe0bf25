import Passcode.Code
import Passcode.Delivery.Identifier
import Passcode.Delivery.Mock
import Passcode.Delivery.Relay
import Passcode.Domain.Ascii
import Passcode.Domain.Compose
import Passcode.Domain.Label
import Passcode.Domain.Mapping
import Passcode.Domain.Punycode
import Passcode.Flow
import Passcode.Http.App
import Passcode.Http.MediaType
import Passcode.Http.Payload
import Passcode.Json.Decode
import Passcode.Json.Reader
import Passcode.Json.Tree
import Passcode.Json.Value
import Passcode.Keyed
import Passcode.Layers.Coerce
import Passcode.Layers.Path
import Passcode.Layers.Value
import Passcode.Log.Event
import Passcode.Log.Filter
import Passcode.Log.Line
import Passcode.Log.Pattern
import Passcode.Log.Start
import Passcode.Mail.Address
import Passcode.Mail.Header
import Passcode.Mail.Letter
import Passcode.Mail.Mailbox
import Passcode.Mail.Transfer
import Passcode.Main
import Passcode.Mask
import Passcode.Message
import Passcode.Number.Binary64
import Passcode.Number.Literal
import Passcode.Number.Power
import Passcode.Number.Shortest
import Passcode.Outcome
import Passcode.Program.Assembly
import Passcode.Program.Start
import Passcode.Program.World
import Passcode.Proofs.Delivery.Books
import Passcode.Proofs.Flow.Breakdown
import Passcode.Proofs.Flow.Pool
import Passcode.Proofs.Flow.Run
import Passcode.Proofs.Flow.Schedule
import Passcode.Proofs.Flow.Trace
import Passcode.Proofs.Http.Admission
import Passcode.Proofs.Http.Agreement
import Passcode.Proofs.Http.Disclosure
import Passcode.Proofs.Http.Payload
import Passcode.Proofs.Http.Shape
import Passcode.Proofs.Json.Literal
import Passcode.Proofs.Json.Text
import Passcode.Proofs.Layers.Overlay
import Passcode.Proofs.Mail.Sender
import Passcode.Proofs.Mask.Identity
import Passcode.Proofs.Mask.Url
import Passcode.Proofs.Message.Bodies
import Passcode.Proofs.Redis.Attempts
import Passcode.Proofs.Redis.Backoff
import Passcode.Proofs.Redis.Complaints
import Passcode.Proofs.Redis.Connect
import Passcode.Proofs.Redis.Dropped
import Passcode.Proofs.Redis.Exposure
import Passcode.Proofs.Redis.Fate
import Passcode.Proofs.Redis.Negative
import Passcode.Proofs.Redis.SingleUse
import Passcode.Proofs.Redis.Store
import Passcode.Proofs.Redis.Traffic
import Passcode.Proofs.Service.Conduct
import Passcode.Proofs.Service.Isolation
import Passcode.Proofs.Service.Lifetime
import Passcode.Proofs.Service.Privacy
import Passcode.Proofs.Service.Race
import Passcode.Proofs.Service.Run
import Passcode.Proofs.Service.Scenes
import Passcode.Proofs.Service.SingleUse
import Passcode.Proofs.Service.Site
import Passcode.Proofs.Service.Traffic
import Passcode.Proofs.Service.Window
import Passcode.Proofs.Settings.App
import Passcode.Proofs.Settings.Environment
import Passcode.Proofs.Settings.Group
import Passcode.Proofs.Settings.Leaf
import Passcode.Proofs.Settings.Load
import Passcode.Proofs.Settings.Place
import Passcode.Proofs.Settings.Scalar
import Passcode.Proofs.Settings.Variables
import Passcode.Proofs.Settings.Verbatim
import Passcode.Proofs.Settings.Whole
import Passcode.Proofs.Store.Ideal
import Passcode.Proofs.Store.Interchange
import Passcode.Proofs.Store.LazyPurge
import Passcode.Proofs.Store.Outage
import Passcode.Proofs.Store.Retention
import Passcode.Proofs.Store.Section
import Passcode.Proofs.Store.Vault
import Passcode.Proofs.Text.Integer
import Passcode.Proofs.Text.Offset
import Passcode.Proofs.Text.Split
import Passcode.Proofs.Toml.Distinct
import Passcode.Redis.Client
import Passcode.Redis.Command
import Passcode.Redis.Endpoint
import Passcode.Redis.Fault
import Passcode.Redis.Server
import Passcode.Redis.Session
import Passcode.Redis.Store
import Passcode.Redis.Wire
import Passcode.Rehearsal
import Passcode.Service.Basic
import Passcode.Service.Calls
import Passcode.Service.Request
import Passcode.Settings.App
import Passcode.Settings.Cache
import Passcode.Settings.Email
import Passcode.Settings.EnvFile
import Passcode.Settings.Environment
import Passcode.Settings.Load
import Passcode.Settings.Logging
import Passcode.Settings.Schema
import Passcode.Settings.Server
import Passcode.Settings.Variables
import Passcode.Settings.Verification
import Passcode.Store.Call
import Passcode.Store.Sweeper
import Passcode.Store.Vault
import Passcode.Text.Address
import Passcode.Text.Alphanumeric
import Passcode.Text.Base64
import Passcode.Text.Blank
import Passcode.Text.Lowercase
import Passcode.Text.Numeral
import Passcode.Text.Percent
import Passcode.Text.Printable
import Passcode.Text.Quoted
import Passcode.Text.Ranges
import Passcode.Text.Split
import Passcode.Text.Timestamp
import Passcode.Text.Utf8
import Passcode.Toml.Date
import Passcode.Toml.Document
import Passcode.Toml.Token
