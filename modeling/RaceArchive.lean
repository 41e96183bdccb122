import RaceArchive.Text.Utf8
import RaceArchive.Crash
import RaceArchive.Text.Punycode
import RaceArchive.Text.Printable
import RaceArchive.Text.Quote
import RaceArchive.Json.Scan
import RaceArchive.Decimal.Binary64
import RaceArchive.Decimal.Parse
import RaceArchive.Decimal.Shortest
import RaceArchive.Decimal.Layout
import RaceArchive.Json.Read
import RaceArchive.Json.Value
import RaceArchive.Time.Civil
import RaceArchive.Time.Stamp
import RaceArchive.Failure
import RaceArchive.Results.Entry
import RaceArchive.Results.Payload
import RaceArchive.Results.Rows
import RaceArchive.Catalog
import RaceArchive.Codec.Base64
import RaceArchive.Crypto.Sha256
import RaceArchive.Text.CaseMap
import RaceArchive.Web.Ip
import RaceArchive.Web.Url
import RaceArchive.Web.Http
import RaceArchive.Web.Cookie
import RaceArchive.Web.Stub
import RaceArchive.Json.Valid
import RaceArchive.Remote.Client
import RaceArchive.Remote.Endpoints
import RaceArchive.Discovery
import RaceArchive.Usage
import RaceArchive.Time.Duration
import RaceArchive.Sync.Report
import RaceArchive.Notify.Message
import RaceArchive.Notify.Deliver
import RaceArchive.Page.Format
import RaceArchive.Table
import RaceArchive.Sync.Status
import RaceArchive.Sync.Alerts
import RaceArchive.Yaml.Stream
import RaceArchive.Yaml.Scan
import RaceArchive.Yaml.Resolve
import RaceArchive.Yaml.Compose
import RaceArchive.Yaml.Decode
import RaceArchive.Settings
import RaceArchive.Store.Tables
import RaceArchive.Store.Query
import RaceArchive.Store.Bulk
import RaceArchive.Codec.Crc32
import RaceArchive.Codec.Inflate
import RaceArchive.Codec.Zip
import RaceArchive.Files
import RaceArchive.Cache
import RaceArchive.Sync.Pipeline
import RaceArchive.Web.Address
import RaceArchive.Page.Index
import RaceArchive.Api
import RaceArchive.Proofs.BulkRefinement
import RaceArchive.Proofs.Flatten
import RaceArchive.Proofs.Integrity
import RaceArchive.Proofs.IngestContract
import RaceArchive.Proofs.SessionCache
import RaceArchive.Proofs.SyncRuns
import RaceArchive.Proofs.Resync
import RaceArchive.Proofs.CacheListing
import RaceArchive.Proofs.StoreOrder
import RaceArchive.Proofs.RunEffects
import RaceArchive.Proofs.Rebuild
import RaceArchive.Proofs.Keys
import RaceArchive.Proofs.RatingHistory
import RaceArchive.Proofs.DriverTable
import RaceArchive.Proofs.UsageTable
import RaceArchive.Proofs.UsageTotals
import RaceArchive.Proofs.UsagePage
import RaceArchive.Proofs.ReferenceSnapshots
import RaceArchive.Proofs.Tables
import RaceArchive.Proofs.AlertEpisodes
import RaceArchive.Proofs.Filings
import RaceArchive.Proofs.Retries
import RaceArchive.Proofs.BulkReports
import RaceArchive.Proofs.Backoff
import RaceArchive.Proofs.SearchGrid
import RaceArchive.Proofs.CivilCalendar
import RaceArchive.Proofs.Octets
import RaceArchive.Proofs.StartTimes
import RaceArchive.Proofs.JsonText
import RaceArchive.Proofs.CacheLookup
import RaceArchive.Proofs.ChunkedSearch
import RaceArchive.Proofs.StoredDeflate
import RaceArchive.Proofs.OneEntryArchive
import RaceArchive.Proofs.CacheMemo
import RaceArchive.Proofs.ReferenceReplacement
import RaceArchive.Proofs.ParticipantText
import RaceArchive.Proofs.RunFailures
import RaceArchive.Proofs.StatusStreaks
