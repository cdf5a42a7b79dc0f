import PaymentsEngine.Library.FiniteMap
import PaymentsEngine.Library.Machine
import PaymentsEngine.Library.Replay
import PaymentsEngine.Library.TwoRuns
import PaymentsEngine.Library.Keyed
import PaymentsEngine.Library.Schedule
import PaymentsEngine.Library.Book
import PaymentsEngine.Library.BinaryHeap
import PaymentsEngine.Library.Decimal
import PaymentsEngine.Library.Csv
import PaymentsEngine.Domain.Amount
import PaymentsEngine.Domain.IntegerText
import PaymentsEngine.Domain.AmountText
import PaymentsEngine.Domain.AmountDisplay
import PaymentsEngine.Domain.Transaction
import PaymentsEngine.Domain.Account
import PaymentsEngine.Domain.AccountSteps
import PaymentsEngine.Domain.Invariants
import PaymentsEngine.Domain.ResolvedDispute
import PaymentsEngine.Domain.Lifecycle
import PaymentsEngine.Domain.Behaviour
import PaymentsEngine.Domain.Redelivery
import PaymentsEngine.Domain.Equality
import PaymentsEngine.Domain.Ledger
import PaymentsEngine.Infrastructure.CsvReader
import PaymentsEngine.Infrastructure.LoadFile
import PaymentsEngine.Infrastructure.ShortRows
import PaymentsEngine.Infrastructure.CsvWriter
import PaymentsEngine.Service.Accounts
import PaymentsEngine.Service.EventLoop
import PaymentsEngine.Service.Flush
import PaymentsEngine.Service.ArrivalOrder
import PaymentsEngine.Service.Accounting
import PaymentsEngine.Service.ExactlyOnce
import PaymentsEngine.Service.Sequential
import PaymentsEngine.Service.Restart
import PaymentsEngine.Service.IgnoredAmounts
import PaymentsEngine.Service.ClosedReceivers
import PaymentsEngine.Service.Clients
import PaymentsEngine.Spec.PaymentsSpec
import PaymentsEngine.Spec.Refinement
import PaymentsEngine.Pipeline.Tasks
import PaymentsEngine.Pipeline.LoadTask
import PaymentsEngine.Pipeline.ServerTask
import PaymentsEngine.Pipeline.InOrder
import PaymentsEngine.Pipeline.Snapshot
import PaymentsEngine.Pipeline.Progress
import PaymentsEngine.Pipeline.AmountColumn
import PaymentsEngine.Service.WriteSnapshot
import PaymentsEngine.Pipeline.Termination
import PaymentsEngine.Pipeline.ExitStatus
import PaymentsEngine.Pipeline.OutcomeHandler
import PaymentsEngine.Spec.Exactness
import PaymentsEngine.Spec.SafetyInvariants
import PaymentsEngine.Pipeline.Output
import PaymentsEngine.Domain.Reachable
import PaymentsEngine.Service.ReachableAccounts
import PaymentsEngine.Service.Metrics
import PaymentsEngine.Infrastructure.InputRows
import PaymentsEngine.Pipeline.EveryState
import PaymentsEngine.Pipeline.ServiceRun
