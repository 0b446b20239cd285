import CarbonIntensity.Assoc
import CarbonIntensity.CommandLine.Arguments
import CarbonIntensity.CommandLine.Run
import CarbonIntensity.DomainName.Ascii
import CarbonIntensity.DomainName.Direction
import CarbonIntensity.DomainName.Joiner
import CarbonIntensity.DomainName.Mapping
import CarbonIntensity.DomainName.Punycode
import CarbonIntensity.ElectricityMaps.Client
import CarbonIntensity.ElectricityMaps.Payload
import CarbonIntensity.ElectricityMapsFree.Client
import CarbonIntensity.ElectricityMapsFree.Payload
import CarbonIntensity.Failure
import CarbonIntensity.Fault
import CarbonIntensity.Files
import CarbonIntensity.Http.Line
import CarbonIntensity.Http.Message
import CarbonIntensity.Http.Settings
import CarbonIntensity.Json.Basic
import CarbonIntensity.Json.Document
import CarbonIntensity.Json.Parser
import CarbonIntensity.Location.Position
import CarbonIntensity.Location.Registry
import CarbonIntensity.Main
import CarbonIntensity.Number.Basic
import CarbonIntensity.Number.Dyadic
import CarbonIntensity.Number.Notation
import CarbonIntensity.Number.Numeral
import CarbonIntensity.Provider.Basic
import CarbonIntensity.Provider.DataFile
import CarbonIntensity.Provider.Entitlements
import CarbonIntensity.Provider.HistoryCache
import CarbonIntensity.Provider.RegionCache
import CarbonIntensity.Provider.Session
import CarbonIntensity.Provider.Sources
import CarbonIntensity.Provider.Table
import CarbonIntensity.Query.Parameters
import CarbonIntensity.Query.Validator
import CarbonIntensity.Sample
import CarbonIntensity.Series.Basic
import CarbonIntensity.Series.Mean
import CarbonIntensity.Series.Rolling
import CarbonIntensity.Service.Emissions
import CarbonIntensity.Service.Forecast
import CarbonIntensity.Settings.Basic
import CarbonIntensity.Settings.Environment
import CarbonIntensity.Settings.Services
import CarbonIntensity.Text.Basic
import CarbonIntensity.Text.Bytes
import CarbonIntensity.Text.Composed
import CarbonIntensity.Text.LowerCase
import CarbonIntensity.Text.MarkTable
import CarbonIntensity.Text.Quoted
import CarbonIntensity.Text.Table
import CarbonIntensity.Time.Instant
import CarbonIntensity.Time.Parser
import CarbonIntensity.Time.Span
import CarbonIntensity.Time.Text
import CarbonIntensity.Url.Basic
import CarbonIntensity.Url.Host
import CarbonIntensity.Url.Parser
import CarbonIntensity.Url.Path
import CarbonIntensity.WattTime.Client
import CarbonIntensity.WattTime.Payload
import CarbonIntensity.Proofs.Lists
import CarbonIntensity.Proofs.Series.Chain
import CarbonIntensity.Proofs.Number.Order
import CarbonIntensity.Proofs.Series.Mean
import CarbonIntensity.Proofs.Series.Optimum
import CarbonIntensity.Proofs.Series.Rolling
import CarbonIntensity.Proofs.Provider.HistoryCache
import CarbonIntensity.Proofs.Provider.HistoryJournal
import CarbonIntensity.Proofs.Provider.RegionCache
import CarbonIntensity.Proofs.Service.Forecast
import CarbonIntensity.Proofs.Provider.Credential
import CarbonIntensity.Proofs.WattTime.Client
import CarbonIntensity.Proofs.Query.Validator
import CarbonIntensity.Proofs.Service.Gate
import CarbonIntensity.Proofs.ElectricityMaps.Client
import CarbonIntensity.Proofs.Series.Meets
import CarbonIntensity.Proofs.Provider.DataFile
import CarbonIntensity.Proofs.Provider.InTurn
import CarbonIntensity.Proofs.Provider.Labels
import CarbonIntensity.Proofs.Service.Locations
import CarbonIntensity.Proofs.Time.Civil
import CarbonIntensity.Proofs.Time.Text
import CarbonIntensity.Proofs.Time.Period
import CarbonIntensity.Proofs.WattTime.History
import CarbonIntensity.Proofs.ElectricityMaps.History
import CarbonIntensity.Proofs.Series.Overlap
import CarbonIntensity.Proofs.Series.Partition
import CarbonIntensity.Proofs.Series.Clip
import CarbonIntensity.Proofs.Provider.EvenSpacing
import CarbonIntensity.Proofs.Series.Grid
import CarbonIntensity.Proofs.Series.Windows
import CarbonIntensity.Proofs.Series.Chronological
import CarbonIntensity.Proofs.Settings.Buildable
import CarbonIntensity.Proofs.Outcome
import CarbonIntensity.Proofs.Series.Accepted
import CarbonIntensity.Proofs.Series.Weights
import CarbonIntensity.Proofs.Series.PeriodWindows
import CarbonIntensity.Proofs.Series.ListingOrder
import CarbonIntensity.Proofs.Series.ClipOverlap
import CarbonIntensity.Proofs.Service.Backwards
import CarbonIntensity.Proofs.Query.Grouping
import CarbonIntensity.Proofs.Query.Phases
import CarbonIntensity.Proofs.Service.WindowSize
import CarbonIntensity.Proofs.Location.Loading
import CarbonIntensity.Proofs.WattTime.Snapshots
import CarbonIntensity.Proofs.Location.Order
import CarbonIntensity.Proofs.Location.Addressing
import CarbonIntensity.Proofs.Settings.Secrets
import CarbonIntensity.Proofs.Url.Path
import CarbonIntensity.Proofs.Url.Slash
import CarbonIntensity.Proofs.Url.Base
import CarbonIntensity.Proofs.Text.Trim
import CarbonIntensity.Proofs.Location.Entry
import CarbonIntensity.Proofs.Series.Split
import CarbonIntensity.Proofs.Number.Unpacked
import CarbonIntensity.Proofs.Number.Rounding
import CarbonIntensity.Proofs.Provider.NearPlaces
