import DirectoryLogin.Attributes
import DirectoryLogin.Bind
import DirectoryLogin.CommandLine
import DirectoryLogin.CommandLine.Arguments
import DirectoryLogin.CommandLine.Report
import DirectoryLogin.Connection.Basic
import DirectoryLogin.Connection.Open
import DirectoryLogin.Connection.Results
import DirectoryLogin.Credential
import DirectoryLogin.Directory.Basic
import DirectoryLogin.Environment
import DirectoryLogin.Failure
import DirectoryLogin.Filter.Escape
import DirectoryLogin.Handle
import DirectoryLogin.Main
import DirectoryLogin.Manager
import DirectoryLogin.Name.Components
import DirectoryLogin.Name.Compose
import DirectoryLogin.Name.Escape
import DirectoryLogin.Number.Binary64
import DirectoryLogin.Number.Literal
import DirectoryLogin.PatternList
import DirectoryLogin.Pool
import DirectoryLogin.Proofs.Calm
import DirectoryLogin.Proofs.Connection.Outcome
import DirectoryLogin.Proofs.Connection.Rebinding
import DirectoryLogin.Proofs.Connection.Requests
import DirectoryLogin.Proofs.Connection.Unbinding
import DirectoryLogin.Proofs.Environment
import DirectoryLogin.Proofs.Groups.BreadthFirst
import DirectoryLogin.Proofs.Groups.NestedRoles
import DirectoryLogin.Proofs.Identity
import DirectoryLogin.Proofs.Manager.Accounting
import DirectoryLogin.Proofs.Manager.Books
import DirectoryLogin.Proofs.Manager.Desk
import DirectoryLogin.Proofs.Manager.Faultless
import DirectoryLogin.Proofs.Manager.Invariants
import DirectoryLogin.Proofs.Manager.Keeping
import DirectoryLogin.Proofs.Manager.Lending
import DirectoryLogin.Proofs.Manager.Operations
import DirectoryLogin.Proofs.Manager.PoolIntegrity
import DirectoryLogin.Proofs.Manager.Regular
import DirectoryLogin.Proofs.Opening
import DirectoryLogin.Proofs.Orderly
import DirectoryLogin.Proofs.Programs
import DirectoryLogin.Proofs.Realm.CallMoves
import DirectoryLogin.Proofs.Realm.CheckedPasswords
import DirectoryLogin.Proofs.Realm.FreshCredentials
import DirectoryLogin.Proofs.Realm.HistoryIndependence
import DirectoryLogin.Proofs.Realm.MutexDiscipline
import DirectoryLogin.Proofs.Realm.NoOrphans
import DirectoryLogin.Proofs.Realm.Running
import DirectoryLogin.Proofs.Realm.ServiceIdentity
import DirectoryLogin.Proofs.Rejecting
import DirectoryLogin.Proofs.Session.Completing
import DirectoryLogin.Proofs.Session.Concluding
import DirectoryLogin.Proofs.Session.Respects
import DirectoryLogin.Proofs.Similar
import DirectoryLogin.Proofs.Wire
import DirectoryLogin.ProviderUrl
import DirectoryLogin.Realm
import DirectoryLogin.Registry
import DirectoryLogin.Roles
import DirectoryLogin.Session
import DirectoryLogin.Settings.Basic
import DirectoryLogin.Settings.Field
import DirectoryLogin.Settings.Load
import DirectoryLogin.Settings.Problem
import DirectoryLogin.Template
import DirectoryLogin.Text.Blank
import DirectoryLogin.Text.Case
import DirectoryLogin.Text.CaseContext
import DirectoryLogin.Text.CaseTable
import DirectoryLogin.Text.CodePoint
import DirectoryLogin.Text.Digit
import DirectoryLogin.Text.Percent
import DirectoryLogin.Text.PrintableTable
import DirectoryLogin.Text.Quoted
import DirectoryLogin.Text.Utf8
import DirectoryLogin.Timeout
import DirectoryLogin.Tls
import DirectoryLogin.Url.Bracketed
import DirectoryLogin.Url.Split
import DirectoryLogin.User
import DirectoryLogin.UserLookup
import DirectoryLogin.Value
import DirectoryLogin.World
import DirectoryLogin.Proofs.Manager.Completing
import DirectoryLogin.Proofs.Manager.Stock
import DirectoryLogin.Proofs.Manager.Clearing
import DirectoryLogin.Proofs.Realm.Retrying
import DirectoryLogin.Proofs.Connection.SearchFaults
import DirectoryLogin.Proofs.Manager.SearchFaults
import DirectoryLogin.Proofs.Realm.TransientFailures
import DirectoryLogin.Proofs.Connection.StartTls
import DirectoryLogin.Proofs.Manager.Encrypting
import DirectoryLogin.Proofs.Realm.EncryptedConnections
import DirectoryLogin.Proofs.Connection.Results
import DirectoryLogin.Proofs.Session.Failing
import DirectoryLogin.Proofs.Users.SingleEntry
import DirectoryLogin.Proofs.Raising
import DirectoryLogin.Proofs.Faults
import DirectoryLogin.Proofs.Manager.Choosing
import DirectoryLogin.Proofs.Realm.OpeningPolicies
import DirectoryLogin.Proofs.Manager.Unrejected
import DirectoryLogin.Proofs.Realm.RejectedSettings
import DirectoryLogin.Proofs.Text.Coding
import DirectoryLogin.Proofs.Text.Lower
import DirectoryLogin.Proofs.Name.ResultNames
import DirectoryLogin.Proofs.Groups.IncompleteResults
import DirectoryLogin.Proofs.Users.StoredPasswords
import DirectoryLogin.Proofs.Realm.StoredPasswords
import DirectoryLogin.Proofs.Lifetimes
import DirectoryLogin.Proofs.Connection.Lifetimes
import DirectoryLogin.Proofs.Manager.Steps
import DirectoryLogin.Proofs.Manager.Lifetimes
import DirectoryLogin.Proofs.Realm.Lifetimes
import DirectoryLogin.Proofs.Session.Coupling
import DirectoryLogin.Proofs.Directory.Texts
import DirectoryLogin.Proofs.Twins
import DirectoryLogin.Proofs.Connection.Twins
import DirectoryLogin.Proofs.Users.Twins
import DirectoryLogin.Proofs.Manager.Twins
import DirectoryLogin.Proofs.Realm.RejectedPasswords
import DirectoryLogin.Proofs.Connection.Queries
import DirectoryLogin.Proofs.Groups.BoundedWork
import DirectoryLogin.Proofs.Connection.FailedOpening
import DirectoryLogin.Proofs.Realm.DecidingPatterns
import DirectoryLogin.Proofs.Users.EntryNames
import DirectoryLogin.Proofs.Text.Unescaping
import DirectoryLogin.Proofs.Templates
import DirectoryLogin.Proofs.Filter.Arguments
import DirectoryLogin.Proofs.Connection.Reads
import DirectoryLogin.Proofs.Users.BindVerdicts
import DirectoryLogin.Proofs.Realm.FirstCalls
import DirectoryLogin.Proofs.Realm.BindOnlyPatterns
import DirectoryLogin.Proofs.Users.Lookups
import DirectoryLogin.Proofs.Realm.LookupsAfterLogins
import DirectoryLogin.Proofs.Name.NormalForm
import DirectoryLogin.Proofs.Name.Cutting
import DirectoryLogin.Proofs.Name.EscapedValues
import DirectoryLogin.Proofs.Name.FirstComponent
import DirectoryLogin.Proofs.Users.PatternComponents
import DirectoryLogin.Proofs.PatternLists
import DirectoryLogin.Proofs.Substitution
import DirectoryLogin.Proofs.Manager.Failover
import DirectoryLogin.Proofs.Text.Digits
import DirectoryLogin.Proofs.Url.Splitting
import DirectoryLogin.Proofs.ProviderUrls
import DirectoryLogin.Proofs.Manager.Wires
import DirectoryLogin.Proofs.Manager.FailedBlocks
import DirectoryLogin.Proofs.Number.WholeNumbers
import DirectoryLogin.Proofs.Settings.Kinds
import DirectoryLogin.Proofs.Settings.Loading
import DirectoryLogin.Password
import DirectoryLogin.Proofs.Manager.Parting
import DirectoryLogin.Proofs.Passwords
import DirectoryLogin.Text.Broken
