import AccessControl.Action
import AccessControl.Administration.AuditLog
import AccessControl.Administration.Basic
import AccessControl.Administration.Delegations
import AccessControl.Administration.Operation
import AccessControl.Administration.Overrides
import AccessControl.Administration.Roles
import AccessControl.Audit.Entry
import AccessControl.Audit.Log
import AccessControl.Audit.Service
import AccessControl.Authorization
import AccessControl.Backend
import AccessControl.Binary64
import AccessControl.Bootstrap
import AccessControl.CacheServer
import AccessControl.Call
import AccessControl.Config
import AccessControl.Database.AuditEntries
import AccessControl.Database.Delegations
import AccessControl.Database.Members
import AccessControl.Database.Overrides
import AccessControl.Database.Roles
import AccessControl.Database.Schema
import AccessControl.Database.Script
import AccessControl.Database.Session
import AccessControl.Database.Statement
import AccessControl.Database.Value
import AccessControl.Delegation
import AccessControl.Fault
import AccessControl.Http.Body
import AccessControl.Http.Caller
import AccessControl.Http.Handler
import AccessControl.Http.Message
import AccessControl.Http.Query
import AccessControl.Http.Route
import AccessControl.Http.View
import AccessControl.Identifier
import AccessControl.Instant.Basic
import AccessControl.Instant.Text
import AccessControl.Json.Basic
import AccessControl.Json.Member
import AccessControl.Json.Read
import AccessControl.Json.Record
import AccessControl.Json.Write
import AccessControl.Main
import AccessControl.Member
import AccessControl.Net.Address
import AccessControl.Net.RedisUrl
import AccessControl.Override
import AccessControl.Permission
import AccessControl.Program
import AccessControl.Proofs.Administration.Checks
import AccessControl.Proofs.Administration.Conduct
import AccessControl.Proofs.Administration.Delegations
import AccessControl.Proofs.Administration.Operation
import AccessControl.Proofs.Administration.Overrides
import AccessControl.Proofs.Administration.Roles
import AccessControl.Proofs.AuditDelivery
import AccessControl.Proofs.AuditTrail
import AccessControl.Proofs.BareResources
import AccessControl.Proofs.CacheRuns
import AccessControl.Proofs.Cataloging
import AccessControl.Proofs.Changes
import AccessControl.Proofs.Coherence
import AccessControl.Proofs.Conduct
import AccessControl.Proofs.DefaultExpiry
import AccessControl.Proofs.DelegatedAuthority
import AccessControl.Proofs.DelegationBound
import AccessControl.Proofs.Deletions
import AccessControl.Proofs.Discipline
import AccessControl.Proofs.EncodedForms
import AccessControl.Proofs.EndedOverrides
import AccessControl.Proofs.Exceptions
import AccessControl.Proofs.Execution
import AccessControl.Proofs.ExtensionAuthority
import AccessControl.Proofs.FirstRoles
import AccessControl.Proofs.Gathering
import AccessControl.Proofs.GrantOrder
import AccessControl.Proofs.GrantRemoval
import AccessControl.Proofs.Histories
import AccessControl.Proofs.HourWindows
import AccessControl.Proofs.Indifference
import AccessControl.Proofs.Inquiry
import AccessControl.Proofs.Inspection
import AccessControl.Proofs.Interleaving
import AccessControl.Proofs.Issuance
import AccessControl.Proofs.Layers
import AccessControl.Proofs.Ledger
import AccessControl.Proofs.Levels
import AccessControl.Proofs.Lifecycle
import AccessControl.Proofs.Ordering
import AccessControl.Proofs.Outsiders
import AccessControl.Proofs.OwnerMemberships
import AccessControl.Proofs.OwnerReassignment
import AccessControl.Proofs.Paging
import AccessControl.Proofs.PermissionDelegation
import AccessControl.Proofs.PermissionTexts
import AccessControl.Proofs.PriorityCeiling
import AccessControl.Proofs.Race
import AccessControl.Proofs.Reach
import AccessControl.Proofs.Reading
import AccessControl.Proofs.Records
import AccessControl.Proofs.References
import AccessControl.Proofs.Reporting
import AccessControl.Proofs.RequestIsolation
import AccessControl.Proofs.RoleForms
import AccessControl.Proofs.RoleGrants
import AccessControl.Proofs.RoleInstances
import AccessControl.Proofs.RoleRows
import AccessControl.Proofs.Roster
import AccessControl.Proofs.RowForms
import AccessControl.Proofs.RuleTexts
import AccessControl.Proofs.Runs
import AccessControl.Proofs.Saving
import AccessControl.Proofs.Selection
import AccessControl.Proofs.Services
import AccessControl.Proofs.Sessions
import AccessControl.Proofs.SharedCache
import AccessControl.Proofs.Silence
import AccessControl.Proofs.Sources
import AccessControl.Proofs.Summaries
import AccessControl.Proofs.SystemRoles
import AccessControl.Proofs.Tables
import AccessControl.Proofs.Tenancy
import AccessControl.Proofs.Tenants
import AccessControl.Proofs.TimeBoxes
import AccessControl.Proofs.TimeSpans
import AccessControl.Proofs.Transactions
import AccessControl.Proofs.Verdict
import AccessControl.Proofs.WholeTypes
import AccessControl.Resolution
import AccessControl.Resource
import AccessControl.ResourceType
import AccessControl.Role
import AccessControl.Rule
import AccessControl.RuleCache
import AccessControl.Server
import AccessControl.Setting
import AccessControl.Startup
import AccessControl.Store
import AccessControl.Table
import AccessControl.Template
import AccessControl.Text.Blank
import AccessControl.Text.Digits
import AccessControl.Text.Hidden
import AccessControl.Text.Literal
import AccessControl.Text.Numeral
import AccessControl.Text.Percent
import AccessControl.Text.Set
import AccessControl.Text.Split
import AccessControl.Text.Utf8
import AccessControl.Uuid
import AccessControl.Wire.Basic
import AccessControl.Wire.Call
import AccessControl.Wire.Canonical
import AccessControl.Wire.Operation
import AccessControl.Wire.Record
import AccessControl.Wire.Role
import AccessControl.Wire.Rule
