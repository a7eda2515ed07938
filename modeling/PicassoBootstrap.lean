import PicassoBootstrap.Lib.Settlement
import PicassoBootstrap.Lib.Task
import PicassoBootstrap.Lib.Fallible
import PicassoBootstrap.Lib.Decimal
import PicassoBootstrap.Lib.DecimalDivision
import PicassoBootstrap.Lib.Double
import PicassoBootstrap.Lib.Schema
import PicassoBootstrap.Lib.KeyedMap
import PicassoBootstrap.Lib.Ledger
import PicassoBootstrap.Lib.Script
import PicassoBootstrap.Lib.Staged
import PicassoBootstrap.Lib.TaskLogic
import PicassoBootstrap.Chain
import PicassoBootstrap.Wallets
import PicassoBootstrap.Codec
import PicassoBootstrap.Senders
import PicassoBootstrap.SenderRuns
import PicassoBootstrap.Api
import PicassoBootstrap.Assets
import PicassoBootstrap.Minting
import PicassoBootstrap.Units
import PicassoBootstrap.Pablo
import PicassoBootstrap.BootstrapPools
import PicassoBootstrap.PoolScript
import PicassoBootstrap.PoolPlan
import PicassoBootstrap.SaleSchedule
import PicassoBootstrap.BondedFinance
import PicassoBootstrap.Amounts
import PicassoBootstrap.Misc
import PicassoBootstrap.CrowdloanRewards
import PicassoBootstrap.CrowdloanFunds
import PicassoBootstrap.CrowdloanProofs
import PicassoBootstrap.AssociationMessages
import PicassoBootstrap.ConnectionHelpers
import PicassoBootstrap.Mosaic
import PicassoBootstrap.Sudo
import PicassoBootstrap.PoolIds
import PicassoBootstrap.Submissions
import PicassoBootstrap.Operations
import PicassoBootstrap.BootstrapSteps
import PicassoBootstrap.ConfigFormat
import PicassoBootstrap.Main
import PicassoBootstrap.MainPlan
import PicassoBootstrap.Market
import PicassoBootstrap.MarketRuns
import PicassoBootstrap.MainRuns
import PicassoBootstrap.Completion
import PicassoBootstrap.Trading
