import SsnConsole.AccessListings
import SsnConsole.AuthCache
import SsnConsole.BillingDates
import SsnConsole.CanisterListing
import SsnConsole.CanisterProjects
import SsnConsole.CanisterQuota
import SsnConsole.CanisterRecords
import SsnConsole.ChallengeEncoding
import SsnConsole.ChangeListing
import SsnConsole.ControllerConfinement
import SsnConsole.DelegatedAuthentication
import SsnConsole.DeletionCompleteness
import SsnConsole.DisplayedPermissions
import SsnConsole.ExistenceHiding
import SsnConsole.ExportedNames
import SsnConsole.ExportedPages
import SsnConsole.FlagGates
import SsnConsole.GrafanaClient
import SsnConsole.GranterCeilings
import SsnConsole.HistoricalRows
import SsnConsole.HistoryAccounting
import SsnConsole.HistoryOrder
import SsnConsole.IdentityIntegrity
import SsnConsole.InviteLifecycle
import SsnConsole.LinkCodeAvailability
import SsnConsole.LiveSessions
import SsnConsole.MailDelivery
import SsnConsole.MailThrottle
import SsnConsole.MailedTokens
import SsnConsole.Mailer
import SsnConsole.MembershipRosters
import SsnConsole.MetricsAccess
import SsnConsole.MintRequests
import SsnConsole.OrganizationDeletion
import SsnConsole.PagedListings
import SsnConsole.PayrexxClient
import SsnConsole.ProposalAtomicity
import SsnConsole.PruneSoundness
import SsnConsole.Sessions
import SsnConsole.SharedMints
import SsnConsole.SnapshotPolling
import SsnConsole.SnapshotRetention
import SsnConsole.StaffCeiling
import SsnConsole.StaffViews
import SsnConsole.SubnetRanges
import SsnConsole.SyncTimer
import SsnConsole.SyncerCheckpoint
import SsnConsole.SyncerRun
import SsnConsole.TermsAcceptance
import SsnConsole.TrackingIntegrity
import SsnConsole.Upgrades
import SsnConsole.UsageTelescoping
import SsnConsole.UsageTotals
import SsnConsole.UserStatistics
import SsnConsole.VerifiedEmail
import SsnConsole.VoteCounting
