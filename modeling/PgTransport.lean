import PgTransport.Backend.Balance
import PgTransport.Backend.Extended.Outcome
import PgTransport.Backend.Extended.ParseString
import PgTransport.Backend.OpenBlockRuns
import PgTransport.Backend.OpenBlocks
import PgTransport.Computation.Ending
import PgTransport.Properties.AbortedGate
import PgTransport.Properties.AuthenticationGate
import PgTransport.Properties.BackendAgreement
import PgTransport.Properties.BracketBalance
import PgTransport.Properties.ClientFirstGrammar
import PgTransport.Properties.ClientIsolation
import PgTransport.Properties.CommitTag
import PgTransport.Properties.ContainedErrors
import PgTransport.Properties.CredentialLookup
import PgTransport.Properties.DeadSlots
import PgTransport.Properties.DescribedFormats
import PgTransport.Properties.ErrorAborts
import PgTransport.Properties.FinalRejection
import PgTransport.Properties.HandoffProtocol
import PgTransport.Properties.HonestClient
import PgTransport.Properties.IdleReaping
import PgTransport.Properties.ImplicitAtomicity
import PgTransport.Properties.Interception
import PgTransport.Properties.InternalPanics
import PgTransport.Properties.LoweredCeiling
import PgTransport.Properties.NoDowngrade
import PgTransport.Properties.NoLostWakeup
import PgTransport.Properties.ObservabilityGuards
import PgTransport.Properties.Ownership
import PgTransport.Properties.ParameterHints
import PgTransport.Properties.ParseResidue
import PgTransport.Properties.PipelineAtomicity
import PgTransport.Properties.PoolCeiling
import PgTransport.Properties.PoolContainers
import PgTransport.Properties.PortalNames
import PgTransport.Properties.PreparedStatements
import PgTransport.Properties.ResultEncoders
import PgTransport.Properties.RowEncoders
import PgTransport.Properties.RowLimits
import PgTransport.Properties.ScramExchange
import PgTransport.Properties.ServedOnce
import PgTransport.Properties.SessionBooks
import PgTransport.Properties.SlotIsolation
import PgTransport.Properties.SlotJournal
import PgTransport.Properties.SlotRefinement
import PgTransport.Properties.SlotShutdown
import PgTransport.Properties.SqlState
import PgTransport.Properties.StatementRole
import PgTransport.Properties.TransactionStatus
import PgTransport.Properties.VerifierRoundTrip
import PgTransport.Wire.Panics
