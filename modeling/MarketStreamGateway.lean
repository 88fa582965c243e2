import MarketStreamGateway.Lib.Run
import MarketStreamGateway.Lib.Iter
import MarketStreamGateway.Lib.Demand
import MarketStreamGateway.Lib.Text
import MarketStreamGateway.Lib.Json
import MarketStreamGateway.Lib.Result
import MarketStreamGateway.Lib.Ledger
import MarketStreamGateway.Lib.Paging
import MarketStreamGateway.Lib.Batch
import MarketStreamGateway.Lib.Expansion
import MarketStreamGateway.Lib.Serde
import MarketStreamGateway.Lib.Overlay
import MarketStreamGateway.Lib.Lexeme
import MarketStreamGateway.Lib.Utf8
import MarketStreamGateway.Lib.Flow
import MarketStreamGateway.Lib.Compact
import MarketStreamGateway.Domain
import MarketStreamGateway.Registry
import MarketStreamGateway.RegistryInvariant
import MarketStreamGateway.RegistryConfluence
import MarketStreamGateway.Hub
import MarketStreamGateway.HubDelivery
import MarketStreamGateway.Session
import MarketStreamGateway.Overrun
import MarketStreamGateway.Agreement
import MarketStreamGateway.History
import MarketStreamGateway.HistoryPagination
import MarketStreamGateway.HistoryResult
import MarketStreamGateway.HistorySoundness
import MarketStreamGateway.Providers.Adapter
import MarketStreamGateway.Providers.Bybit
import MarketStreamGateway.Providers.Binance
import MarketStreamGateway.Providers.Okx
import MarketStreamGateway.Providers.Kucoin
import MarketStreamGateway.Providers.Mexc
import MarketStreamGateway.Providers.Bingx
import MarketStreamGateway.Providers.Venue
import MarketStreamGateway.Runtime.Commands
import MarketStreamGateway.Runtime.Connection
import MarketStreamGateway.Runtime.Supervisor
import MarketStreamGateway.Runtime.Deadline
import MarketStreamGateway.Runtime.Readiness
import MarketStreamGateway.Runtime.Topics
import MarketStreamGateway.Runtime.Building
import MarketStreamGateway.Runtime.Exchange
import MarketStreamGateway.Catalog
import MarketStreamGateway.CatalogGrammar
import MarketStreamGateway.Feeds.Reading
import MarketStreamGateway.Feeds.RawNumber
import MarketStreamGateway.Feeds.RawBytes
import MarketStreamGateway.Feeds.Cache
import MarketStreamGateway.Feeds.Bybit
import MarketStreamGateway.Feeds.Binance
import MarketStreamGateway.Feeds.Okx
import MarketStreamGateway.Feeds.Kucoin
import MarketStreamGateway.Feeds.Mexc
import MarketStreamGateway.Feeds.Bingx
import MarketStreamGateway.Feeds.Session
import MarketStreamGateway.Atomicity
import MarketStreamGateway.Batching
import MarketStreamGateway.Routing
import MarketStreamGateway.Provenance
import MarketStreamGateway.CatalogPaging
import MarketStreamGateway.CatalogRefresh
import MarketStreamGateway.RegistryReports
import MarketStreamGateway.CommandOutcome
import MarketStreamGateway.Exponents
import MarketStreamGateway.Fidelity
import MarketStreamGateway.HistoryWindows
import MarketStreamGateway.HubRoutes
import MarketStreamGateway.Resubscription
import MarketStreamGateway.Runtime.Accounting
import MarketStreamGateway.Runtime.ErrorText
import MarketStreamGateway.Runtime.LiveState
import MarketStreamGateway.Suppression
import MarketStreamGateway.TickerFold
import MarketStreamGateway.Runtime.Calls
import MarketStreamGateway.System
import MarketStreamGateway.SystemDelivery
import MarketStreamGateway.SystemDemand
import MarketStreamGateway.Config
import MarketStreamGateway.Runtime.Health
import MarketStreamGateway.Runtime.Pacing
import MarketStreamGateway.CatalogQueries
import MarketStreamGateway.Wire
import MarketStreamGateway.Candles
