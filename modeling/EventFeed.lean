import EventFeed.Attempt.Body
import EventFeed.Attempt.Course
import EventFeed.Attempt.Network
import EventFeed.Attempt.Source
import EventFeed.Attempt.Stream
import EventFeed.Builder
import EventFeed.Client.Action
import EventFeed.Client.Basic
import EventFeed.Client.Bound
import EventFeed.Client.Callback
import EventFeed.Client.Dispatch
import EventFeed.Client.Keepalive
import EventFeed.Client.Link
import EventFeed.Client.Phase
import EventFeed.Client.Registry
import EventFeed.Client.Remark
import EventFeed.Client.Tally
import EventFeed.Client.Transport
import EventFeed.Client.Turn
import EventFeed.Config
import EventFeed.Event
import EventFeed.Event.Described
import EventFeed.Event.Json
import EventFeed.FeedError
import EventFeed.Frame
import EventFeed.Http.Exchange
import EventFeed.Http.Status
import EventFeed.Json.Basic
import EventFeed.Json.Outline
import EventFeed.Json.Printer
import EventFeed.Json.Reader
import EventFeed.Json.Token
import EventFeed.Launch.ConfigSource
import EventFeed.Launch.EnvFile
import EventFeed.Launch.Files
import EventFeed.Launch.Listener
import EventFeed.Launch.LogFilter
import EventFeed.Launch.RunPlan
import EventFeed.Log
import EventFeed.Main
import EventFeed.Payload
import EventFeed.Proofs.Attempt.Agreement
import EventFeed.Proofs.Attempt.Crew
import EventFeed.Proofs.Attempt.Pursuit
import EventFeed.Proofs.Attempt.Response
import EventFeed.Proofs.Attempt.Signals
import EventFeed.Proofs.Attempt.Staging
import EventFeed.Proofs.Client.Account
import EventFeed.Proofs.Client.Budget
import EventFeed.Proofs.Client.Calm
import EventFeed.Proofs.Client.Carriers
import EventFeed.Proofs.Client.Clock
import EventFeed.Proofs.Client.Core
import EventFeed.Proofs.Client.Delay
import EventFeed.Proofs.Client.Dispatch
import EventFeed.Proofs.Client.Effect
import EventFeed.Proofs.Client.Failure
import EventFeed.Proofs.Client.Flattening
import EventFeed.Proofs.Client.Guard
import EventFeed.Proofs.Client.Guise
import EventFeed.Proofs.Client.History
import EventFeed.Proofs.Client.Lateness
import EventFeed.Proofs.Client.Likeness
import EventFeed.Proofs.Client.Losses
import EventFeed.Proofs.Client.Mirror
import EventFeed.Proofs.Client.Mishaps
import EventFeed.Proofs.Client.Observers
import EventFeed.Proofs.Client.Opening
import EventFeed.Proofs.Client.Outlook
import EventFeed.Proofs.Client.Past
import EventFeed.Proofs.Client.Protocol
import EventFeed.Proofs.Client.Recast
import EventFeed.Proofs.Client.Reentrancy
import EventFeed.Proofs.Client.Remarks
import EventFeed.Proofs.Client.Renewal
import EventFeed.Proofs.Client.Retirement
import EventFeed.Proofs.Client.Run
import EventFeed.Proofs.Client.Secrecy
import EventFeed.Proofs.Client.Settled
import EventFeed.Proofs.Client.Shelter
import EventFeed.Proofs.Client.Silence
import EventFeed.Proofs.Client.SingleFlight
import EventFeed.Proofs.Client.Supervision
import EventFeed.Proofs.Client.Suppression
import EventFeed.Proofs.Client.Unheard
import EventFeed.Proofs.Client.Vigil
import EventFeed.Proofs.Frame.Blocks
import EventFeed.Proofs.Frame.Chunks
import EventFeed.Proofs.Frame.Common
import EventFeed.Proofs.Frame.Decoding
import EventFeed.Proofs.Frame.Wire
import EventFeed.Proofs.Json.Event
import EventFeed.Proofs.Json.Glyph
import EventFeed.Proofs.Json.Number
import EventFeed.Proofs.Json.Payload
import EventFeed.Proofs.Json.Printing
import EventFeed.Proofs.Json.Reading
import EventFeed.Proofs.Json.Spelling
import EventFeed.Proofs.Json.Syntax
import EventFeed.Proofs.Settings.Comparison
import EventFeed.Proofs.Settings.Credential
import EventFeed.Proofs.Settings.Loading
import EventFeed.Proofs.Settings.Recipe
import EventFeed.Proofs.Settings.Verdict
import EventFeed.Proofs.Text.Lossy
import EventFeed.Proofs.Text.Utf8
import EventFeed.Session
import EventFeed.Settings
import EventFeed.Settings.File
import EventFeed.Settings.Yaml
import EventFeed.Text.Blank
import EventFeed.Text.CodeSet
import EventFeed.Text.Form
import EventFeed.Text.Hex
import EventFeed.Text.Normal
import EventFeed.Text.Normal.Data
import EventFeed.Text.Quoted
import EventFeed.Text.Sorted
import EventFeed.Text.Table
import EventFeed.Text.Utf8
import EventFeed.Text.Visible
import EventFeed.Time
import EventFeed.Url.Basic
import EventFeed.Url.Domain
import EventFeed.Url.Domain.Classes
import EventFeed.Url.Domain.Mapping
import EventFeed.Url.Domain.Punycode
import EventFeed.Url.Error
import EventFeed.Url.Host
import EventFeed.Url.Parser
import EventFeed.Url.Percent
import EventFeed.Yaml.Node
import EventFeed.Yaml.Spot
import EventFeed.Yaml.Token
import EventFeed.Yaml.Token.Block
import EventFeed.Yaml.Token.Gap
import EventFeed.Yaml.Token.Plain
import EventFeed.Yaml.Token.Quoted
import EventFeed.Yaml.Token.Scan
import EventFeed.Yaml.Token.Tag
