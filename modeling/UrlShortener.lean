import UrlShortener.App.Basic
import UrlShortener.App.Minter
import UrlShortener.App.Run
import UrlShortener.App.Settle
import UrlShortener.App.Startup
import UrlShortener.Backend.Counter
import UrlShortener.Backend.Reply
import UrlShortener.Backend.Store
import UrlShortener.Http.Health
import UrlShortener.Http.Intake
import UrlShortener.Http.LinkBody
import UrlShortener.Http.Location
import UrlShortener.Http.MediaType
import UrlShortener.Http.Request
import UrlShortener.Http.Response
import UrlShortener.Http.Router
import UrlShortener.Http.Target
import UrlShortener.Json.Fault
import UrlShortener.Json.Printer
import UrlShortener.Json.Scan
import UrlShortener.Json.Value
import UrlShortener.Link.Code
import UrlShortener.Link.Destination
import UrlShortener.Link.Entry
import UrlShortener.Link.Mint
import UrlShortener.Link.Request
import UrlShortener.Main
import UrlShortener.Number.Binary
import UrlShortener.Number.Decimal
import UrlShortener.Number.Signed
import UrlShortener.Number.Unsigned
import UrlShortener.Redis.Address
import UrlShortener.Redis.Counter
import UrlShortener.Redis.Server
import UrlShortener.Service.Dialogue
import UrlShortener.Service.Failure
import UrlShortener.Service.Metrics
import UrlShortener.Service.Policy
import UrlShortener.Service.Shortener
import UrlShortener.Settings.Basic
import UrlShortener.Settings.Environment
import UrlShortener.Settings.Masking
import UrlShortener.Settings.SocketAddress
import UrlShortener.Settings.Summary
import UrlShortener.Settings.Validation
import UrlShortener.Store.Fault
import UrlShortener.Store.Memory
import UrlShortener.Text.Blank
import UrlShortener.Text.Hex
import UrlShortener.Text.Percent
import UrlShortener.Text.Quoted
import UrlShortener.Text.Split
import UrlShortener.Text.Utf8
import UrlShortener.Time.Printer
import UrlShortener.Time.Reader
import UrlShortener.Time.Span
import UrlShortener.Time.Timestamp
import UrlShortener.Unicode.CompositionTable
import UrlShortener.Unicode.Direction
import UrlShortener.Unicode.DirectionTable
import UrlShortener.Unicode.JoiningTable
import UrlShortener.Unicode.MappingTable
import UrlShortener.Unicode.Normal
import UrlShortener.Unicode.QuotingTable
import UrlShortener.Unicode.Rows
import UrlShortener.Url.Address
import UrlShortener.Url.Basic
import UrlShortener.Url.Domain
import UrlShortener.Url.Host
import UrlShortener.Url.Parser
import UrlShortener.Url.Punycode
import UrlShortener.Visit.Fault
import UrlShortener.Visit.Queue
import UrlShortener.Visit.Recording
import UrlShortener.Visit.Tally
import UrlShortener.Visit.Worker
import UrlShortener.Proofs.Store.Content
import UrlShortener.Proofs.Store.History
import UrlShortener.Proofs.Store.Race
import UrlShortener.Proofs.Store.Linearizability
import UrlShortener.Proofs.Service.Course
import UrlShortener.Proofs.App.Step
import UrlShortener.Proofs.App.Traffic
import UrlShortener.Proofs.App.Permanence
import UrlShortener.Proofs.Visit.Recording
import UrlShortener.Proofs.Visit.Worker
import UrlShortener.Proofs.Visit.Poll
import UrlShortener.Proofs.Visit.Shift
import UrlShortener.Proofs.Visit.Schedule
import UrlShortener.Proofs.Visit.TallyRace
import UrlShortener.Proofs.Visit.Increments
import UrlShortener.Proofs.App.Visits
import UrlShortener.Proofs.App.Conservation
import UrlShortener.Proofs.App.Asks
import UrlShortener.Proofs.Text.Cuts
import UrlShortener.Proofs.Text.Escapes
import UrlShortener.Proofs.Text.Printable
import UrlShortener.Proofs.Text.Unescape
import UrlShortener.Proofs.Text.Utf8
import UrlShortener.Proofs.Url.Domain
import UrlShortener.Proofs.Url.Printable
import UrlShortener.Proofs.Url.Reading
import UrlShortener.Proofs.Url.Resolution
import UrlShortener.Proofs.Url.Written
import UrlShortener.Proofs.Url.RoundTrip
import UrlShortener.Proofs.Url.Names
import UrlShortener.Proofs.Url.Addresses
import UrlShortener.Proofs.Http.LookUps
import UrlShortener.Proofs.Http.Redirects
import UrlShortener.Proofs.Http.Locations
import UrlShortener.Proofs.Http.Failures
import UrlShortener.Proofs.Http.FaultTexts
import UrlShortener.Proofs.Http.Expiry
import UrlShortener.Proofs.App.Discretion
import UrlShortener.Proofs.App.Attempts
import UrlShortener.Proofs.App.Creation
import UrlShortener.Proofs.Settings.Masking
import UrlShortener.Proofs.Redis.Place
import UrlShortener.Proofs.Redis.Components
import UrlShortener.Proofs.Http.Minted
import UrlShortener.Proofs.Number.Printed
import UrlShortener.Proofs.Redis.Refinement
import UrlShortener.Proofs.Link.Distribution
import UrlShortener.Proofs.Visit.Timetable
import UrlShortener.Proofs.Time.Later
import UrlShortener.Proofs.Settings.Validity
import UrlShortener.Proofs.Text.Trimming
import UrlShortener.Proofs.Service.DefaultExpiry
import UrlShortener.Proofs.Settings.Loading
import UrlShortener.Proofs.Settings.Listening
import UrlShortener.Proofs.Http.Validation
import UrlShortener.Proofs.Results
import UrlShortener.Proofs.Json.Strings
import UrlShortener.Proofs.Json.Values
import UrlShortener.Proofs.Http.Bodies
import UrlShortener.Proofs.Link.Ends
import UrlShortener.Proofs.App.Lifetime
import UrlShortener.Proofs.Backend.Ping
import UrlShortener.Proofs.Http.Probing
