import ProxyConsole.Config
import ProxyConsole.Http.Site
import ProxyConsole.Instant.Reader
import ProxyConsole.SeedFile
import ProxyConsole.Proofs.RouteTable
import ProxyConsole.Proofs.Consult
import ProxyConsole.Proofs.EndpointPlans
import ProxyConsole.Proofs.Dispatch
import ProxyConsole.Proofs.Passwords
import ProxyConsole.Proofs.FailFast
import ProxyConsole.Proofs.Markup
import ProxyConsole.Proofs.PageShape
import ProxyConsole.Proofs.SeedLoading
import ProxyConsole.Proofs.Redirect
import ProxyConsole.Proofs.PageReading
import ProxyConsole.Proofs.GridPartition
import ProxyConsole.Proofs.StableOrder
import ProxyConsole.Proofs.AccountOrder
import ProxyConsole.Proofs.CardGridPage
import ProxyConsole.Proofs.Numerals
import ProxyConsole.Proofs.Sequencing
import ProxyConsole.Proofs.Configuration
import ProxyConsole.Proofs.HiddenProducts
import ProxyConsole.Proofs.PercentCoding
import ProxyConsole.Proofs.CatalogCalls
import ProxyConsole.Proofs.ServerLookup
import ProxyConsole.Proofs.OverviewPage
import ProxyConsole.Proofs.HexDigits
import ProxyConsole.Proofs.UuidSpelling
import ProxyConsole.Proofs.RecordLookup
import ProxyConsole.Proofs.FormFields
import ProxyConsole.Proofs.QueryArguments
import ProxyConsole.Proofs.EditRuns
import ProxyConsole.Proofs.ServerRecordJson
import ProxyConsole.Proofs.WrittenNumerals
import ProxyConsole.Proofs.InstantText
import ProxyConsole.Proofs.AccountJson
import ProxyConsole.Proofs.PricingPage
import ProxyConsole.Proofs.BindAddress
import ProxyConsole.Proofs.AccountBuilding
import ProxyConsole.Proofs.IdentifierText
import ProxyConsole.Proofs.Navigation
import ProxyConsole.Proofs.PriceLabel
import ProxyConsole.Proofs.QuotedText
import ProxyConsole.Proofs.FaultMessages
