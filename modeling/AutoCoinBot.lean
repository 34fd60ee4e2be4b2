import AutoCoinBot.AccountingEpoch.SmokeTestPreflight
import AutoCoinBot.Auth.SessionTokens
import AutoCoinBot.AutoLivePilot.KeptOrder
import AutoCoinBot.Backtest.LookAhead
import AutoCoinBot.CapitalAllocator.Markets
import AutoCoinBot.CapitalAllocator.OpenOrders
import AutoCoinBot.ControlledAutoLive.IgnoredStops
import AutoCoinBot.ControlledAutoLive.PositionLoop
import AutoCoinBot.ControlledAutoLive.ProtectedSession
import AutoCoinBot.Database.ConcurrentUpdates
import AutoCoinBot.Database.SchedulerLocks
import AutoCoinBot.Database.SlotOccupancy
import AutoCoinBot.ExchangeFillsLedger.MatchedQuantities
import AutoCoinBot.ExchangeFillsLedger.MissingFills
import AutoCoinBot.ExchangeFillsLedger.TradeShares
import AutoCoinBot.LiveExit.ActualPnl
import AutoCoinBot.LiveExit.CandidateLifecycle
import AutoCoinBot.LiveExit.ClosedPositions
import AutoCoinBot.LiveExit.ExitPrices
import AutoCoinBot.LiveExit.FinishedOrders
import AutoCoinBot.LiveExit.SentVolumes
import AutoCoinBot.LivePositionSync.BuyFillRuns
import AutoCoinBot.LivePositionSync.Retry
import AutoCoinBot.LiveStateReconciler.Convergence
import AutoCoinBot.LiveStateReconciler.Exposure
import AutoCoinBot.LiveStateReconciler.InFlight
import AutoCoinBot.LiveStrategyPilot.DistinctSessions
import AutoCoinBot.LiveStrategyPilot.FinalRows
import AutoCoinBot.LiveStrategyPilot.OrderManagers
import AutoCoinBot.LiveStrategyPilot.OrderWindow
import AutoCoinBot.LiveStrategyPilot.ProfitEngineBypass
import AutoCoinBot.LiveStrategyPilot.RebalanceAccumulator
import AutoCoinBot.LiveStrategyPilot.SizingBands
import AutoCoinBot.MarketScanner.MarketUniverse
import AutoCoinBot.Notifications.Dedupe
import AutoCoinBot.OrderFillRepair.RepairedTwice
import AutoCoinBot.PaperTrading.ForwardDrawdown
import AutoCoinBot.PaperTrading.PaperPnl
import AutoCoinBot.PaperTrading.Simulators
import AutoCoinBot.ProtectedAutoWorker.GateSnapshots
import AutoCoinBot.ProtectedAutoWorker.HeldRuns
import AutoCoinBot.ProtectedAutoWorker.LockHolders
import AutoCoinBot.ProtectedAutoWorker.MergedReports
import AutoCoinBot.RiskManager.DailyLoss
import AutoCoinBot.RiskManager.Exposure
import AutoCoinBot.ScaleInRepair.HoldingsManaged
import AutoCoinBot.SmartDecision.AttackLayer
import AutoCoinBot.SmartDecision.PositionMetrics
import AutoCoinBot.Strategies.LatestSignal
import AutoCoinBot.Strategies.RsiSignals
import AutoCoinBot.StrategyDiscovery.PeriodCandles
import AutoCoinBot.StrategyPromotion.HaltedCandidates
import AutoCoinBot.StrategyPromotion.KillSwitchWindows
import AutoCoinBot.TradeOutcomes.PostFillReturns
import AutoCoinBot.TradeOutcomes.RealizedReturns
import AutoCoinBot.TradingDiagnostics.OrderTimeGate
