import IndexProtocol.Protocol.PositionBookkeeping
import IndexProtocol.System.Transactions
import IndexProtocol.System.AuctionWindow
import IndexProtocol.System.AuctionTargets
import IndexProtocol.System.AuctionUnlock
import IndexProtocol.System.Solvency
import IndexProtocol.System.StreamingFees
import IndexProtocol.System.AuctionSize
import IndexProtocol.System.DebtFlow
import IndexProtocol.System.SupplyAccounting
import IndexProtocol.System.IssuancePreview
import IndexProtocol.System.RegistryConsistency
import IndexProtocol.System.SetTokenLifecycle
import IndexProtocol.System.AuctionPrices
import IndexProtocol.Library.Accounts
import IndexProtocol.System.StakingLedger
import IndexProtocol.System.Permissions
import IndexProtocol.System.ClaimRegistry
import IndexProtocol.System.AuctionSettlement
import IndexProtocol.System.NavBacking
import IndexProtocol.System.PerpPositions
import IndexProtocol.System.SettledFunding
import IndexProtocol.System.PerpBookkeeping
import IndexProtocol.System.SlippageBalances
import IndexProtocol.System.StoredUnits
import IndexProtocol.System.EmptyBids
import IndexProtocol.System.PositionListing
import IndexProtocol.System.OpeningPrices
import IndexProtocol.System.LeverageSync
import IndexProtocol.Modules.CompoundLeverageCalls
import IndexProtocol.System.EnabledAssets
import IndexProtocol.Modules.GeneralIndexCalls
import IndexProtocol.System.WETHTargets
import IndexProtocol.System.RedeemValidity
import IndexProtocol.Modules.AirdropModule
import IndexProtocol.Library.Charging
import IndexProtocol.System.AirdropFees
import IndexProtocol.System.FixedPointRounding
import IndexProtocol.Integration.UniswapV3ExchangeAdapterV2
import IndexProtocol.System.TradePaths
import IndexProtocol.Integration.ZeroExApiAdapter
import IndexProtocol.System.RfqBatches
import IndexProtocol.Integration.UniswapV2AmmAdapter
import IndexProtocol.System.PoolRequests
import IndexProtocol.Product.AMMSplitter
import IndexProtocol.System.PoolRouting
import IndexProtocol.Modules.AmmModule
import IndexProtocol.System.LiquidityOwnership
import IndexProtocol.Protocol.PositionUpdates
import IndexProtocol.Modules.SingleIndexModule
import IndexProtocol.System.IndexTargets
import IndexProtocol.Modules.NotionalTradeModule
import IndexProtocol.System.MaturedPositions
import IndexProtocol.System.InterleavedSafety
import IndexProtocol.System.Redemptions
import IndexProtocol.System.NavFairness
import IndexProtocol.System.GovernedRecords
import IndexProtocol.System.CoolOff
import IndexProtocol.System.NavTerms
import IndexProtocol.System.IssuanceTerms
import IndexProtocol.System.FeeCeiling
import IndexProtocol.System.BidderFairness
