import Signet.Schemas.ShortId
import Signet.Seals.LinearChain
import Signet.Cli.Confinement
import Signet.Verifier.Envelope
import Signet.Ws.Lifecycle
import Signet.Cli.OperatorRemoval
import Signet.Cli.RevealLifetime
import Signet.Cli.ElevationDisclosure
import Signet.Cli.DeadCredentialSeals
import Signet.Cli.RollbackWindow
import Signet.Cli.InviteTagGate
import Signet.Keys.IdentityKeys
import Signet.Core.StreamOwnership
import Signet.Actions.ScopeOnMcp
import Signet.Actions.AdminReads
import Signet.Core.NetworkStart
import Signet.Cli.ChatCleanup
import Signet.Cli.RetryableJoins
import Signet.OpenClaw.CheckpointAhead
import Signet.Seals.Canonicalize
import Signet.OpenClaw.InOrder
import Signet.OpenClaw.CheckpointStore
import Signet.Cli.ElevationAudit
import Signet.Core.InboxLinks
import Signet.Core.JoinConversation
import Signet.Sessions.Reissue
import Signet.Cli.ConfirmedActions
import Signet.Keys.AccountDerivation
import Signet.Keys.VaultAgreement
import Signet.Keys.AdminKey
import Signet.Cli.ActionRoutes
import Signet.Verifier.RateLimiter
import Signet.Sessions.MaterialDelta
import Signet.Seals.DeltaVerification
import Signet.Seals.IssueSkips
import Signet.Sessions.OperatorUpdates
import Signet.Sessions.PolicyIdentity
import Signet.Policy.RevealHistory
import Signet.Cli.ExpiryPaths
import Signet.Verifier.CertificateKey
import Signet.Verifier.DsseVerify
import Signet.Core.InviteFields
import Signet.Sdk.EventStream
import Signet.Sdk.ResumePoint
import Signet.Sdk.RequestSettlement
import Signet.Keys.StampedKeyIds
import Signet.Keys.Mnemonic
import Signet.Cli.AdminSessions
