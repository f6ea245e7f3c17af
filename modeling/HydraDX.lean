import HydraDX.Lib.Fallible
import HydraDX.Lib.Parallel
import HydraDX.Lib.Ledger
import HydraDX.Lib.Supply
import HydraDX.Lib.Rounding
import HydraDX.Lib.Tally
import HydraDX.Lib.Imbalance
import HydraDX.Lib.Histories
import HydraDX.Lib.Dispatch
import HydraDX.Lib.Entries
import HydraDX.Lib.Decimal
import HydraDX.Lib.Hex
import HydraDX.Primitives
import HydraDX.Fees
import HydraDX.Environment
import HydraDX.Balances
import HydraDX.State
import HydraDX.Registry
import HydraDX.AssetIds
import HydraDX.XYK.Trade
import HydraDX.XYK.Pool
import HydraDX.XYK.Calls
import HydraDX.XYK.Reserves
import HydraDX.Exchange.Direct
import HydraDX.Exchange.Resolver
import HydraDX.Exchange.Iteration
import HydraDX.Exchange.Reservations
import HydraDX.Chain
import HydraDX.Exchange.Finalize
import HydraDX.Exchange.Undo
import HydraDX.Exchange.Outcome
import HydraDX.Exchange.Log
import HydraDX.Exchange.Exhausted
import HydraDX.Exchange.Arithmetic
import HydraDX.Exchange.Settlement
import HydraDX.Exchange.Registration
import HydraDX.Exchange.Once
import HydraDX.Exchange.Participants
import HydraDX.Exchange.Book
import HydraDX.Exchange.Order
import HydraDX.Exchange.Limits
import HydraDX.Exchange.History
import HydraDX.Exchange.Spending
import HydraDX.Exchange.Purchases
import HydraDX.Exchange.LedgerMoves
import HydraDX.Exchange.Execute
import HydraDX.Exchange.Fees
import HydraDX.Actions
import HydraDX.Conservation
import HydraDX.XYK.Independence
import HydraDX.XYK.Product
import HydraDX.XYK.Liquidity
import HydraDX.XYK.Alive
import HydraDX.XYK.Shares
import HydraDX.XYK.Leave
import HydraDX.XYK.Removal
import HydraDX.XYK.Trader
import HydraDX.XYK.Validated
import HydraDX.XYK.Discount
import HydraDX.XYK.Monotone
import HydraDX.XYK.RoundTrip
import HydraDX.XYK.Rpc
import HydraDX.Exchange.Matching
import HydraDX.Exchange.Reported
import HydraDX.Exchange.Ids
import HydraDX.Exchange.Batch
import HydraDX.Imbalances
import HydraDX.Payment.Pallet
import HydraDX.Payment.Adapter
import HydraDX.Payment.Currencies
import HydraDX.Payment.Transactions
import HydraDX.PalletBalances.Storage
import HydraDX.PalletBalances.System
import HydraDX.PalletBalances.Mutate
import HydraDX.PalletBalances.Currency
import HydraDX.PalletBalances.Reservable
import HydraDX.PalletBalances.Lockable
import HydraDX.PalletBalances.Fungible
import HydraDX.PalletBalances.Calls
import HydraDX.PalletBalances.Operation
import HydraDX.PalletBalances.Existence
import HydraDX.PalletBalances.Transfer
import HydraDX.PalletBalances.Supply
import HydraDX.PalletBalances.Issuance
import HydraDX.PalletBalances.Accounting
import HydraDX.PalletBalances.Frame
import HydraDX.PalletBalances.Locks
import HydraDX.PalletBalances.Refines
import HydraDX.PalletBalances.Consequences
import HydraDX.PalletBalances.Atomic
import HydraDX.PalletBalances.Genesis
import HydraDX.Faucet
import HydraDX.Claims.Address
import HydraDX.Claims.Message
import HydraDX.Claims.Pallet
import HydraDX.Claims.Migration
import HydraDX.Claims.Once
import HydraDX.Claims.Validate
import HydraDX.Faucet.Log
