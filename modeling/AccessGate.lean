import AccessGate.Action
import AccessGate.Client.Basic
import AccessGate.Client.Header
import AccessGate.Client.Redirect
import AccessGate.Client.Registry
import AccessGate.Config.Basic
import AccessGate.Config.Settings
import AccessGate.Context
import AccessGate.Credentials.ApiKeyText
import AccessGate.Credentials.ApiKeys
import AccessGate.Credentials.Basic
import AccessGate.Credentials.SignedToken
import AccessGate.Data.Dict
import AccessGate.Digest.Compare
import AccessGate.Digest.Sha256
import AccessGate.Encoding.Base64
import AccessGate.Encoding.Form
import AccessGate.Encoding.Percent
import AccessGate.Error
import AccessGate.Gate.Decision
import AccessGate.Gate.Middleware
import AccessGate.Http.Headers
import AccessGate.Http.Token
import AccessGate.Http.Uri
import AccessGate.Identifiers
import AccessGate.Json.Basic
import AccessGate.Json.Printer
import AccessGate.Json.Reader
import AccessGate.Json.Record
import AccessGate.Pattern.Basic
import AccessGate.Pattern.Class
import AccessGate.Pattern.Flags
import AccessGate.Pattern.Property
import AccessGate.Pattern.Reader
import AccessGate.Profile.Basic
import AccessGate.Profile.Set
import AccessGate.Proofs.Course
import AccessGate.Proofs.Decision
import AccessGate.Proofs.Events
import AccessGate.Proofs.Failure
import AccessGate.Proofs.Fixation
import AccessGate.Proofs.Grant
import AccessGate.Proofs.Issue
import AccessGate.Proofs.Lookup
import AccessGate.Proofs.Provenance
import AccessGate.Proofs.Stages
import AccessGate.Proofs.Trace
import AccessGate.Proofs.Turn
import AccessGate.Rule.Authorizer
import AccessGate.Rule.Matcher
import AccessGate.Rule.PathMatcher
import AccessGate.Rule.Registry
import AccessGate.Session.Plan
import AccessGate.Session.Scopes
import AccessGate.Session.Store
import AccessGate.Text.Blank
import AccessGate.Text.Category
import AccessGate.Text.CategoryTable
import AccessGate.Text.Composition
import AccessGate.Text.CompositionTable
import AccessGate.Text.Fold
import AccessGate.Text.NameList
import AccessGate.Text.Octets
import AccessGate.Text.Quoted
import AccessGate.Text.ScriptTable
import AccessGate.Text.Unprintable
import AccessGate.Time.Calendar
import AccessGate.Time.Instant
import AccessGate.Time.Text
import AccessGate.Url.Address
import AccessGate.Url.Basic
import AccessGate.Url.Component
import AccessGate.Url.Domain.Basic
import AccessGate.Url.Domain.Mapping
import AccessGate.Url.Domain.Validity
import AccessGate.Url.Fault
import AccessGate.Url.Punycode
import AccessGate.Url.Reader
import AccessGate.Proofs.Logout
import AccessGate.Proofs.Mistakes
import AccessGate.Proofs.Restriction
import AccessGate.Proofs.SingleProfile
import AccessGate.Proofs.Staleness
import AccessGate.Proofs.Frame
import AccessGate.Proofs.Interference
import AccessGate.Proofs.Dates
import AccessGate.Proofs.InstantText
import AccessGate.Proofs.WireForm
import AccessGate.Proofs.CookieField
import AccessGate.Proofs.Continuity
import AccessGate.Proofs.Repetition
import AccessGate.Proofs.Replacement
import AccessGate.Proofs.Leakage
import AccessGate.Proofs.Deadlines
import AccessGate.Proofs.Order
import AccessGate.Proofs.Phase
import AccessGate.Proofs.TwoMaps
import AccessGate.Proofs.Resolution
import AccessGate.Proofs.NameLists
import AccessGate.Proofs.Addressing
import AccessGate.Proofs.Rounds
import AccessGate.Proofs.Wording
import AccessGate.Proofs.Enumeration
import AccessGate.Proofs.Registrations
import AccessGate.Proofs.OctetText
import AccessGate.Proofs.FormText
import AccessGate.Proofs.UrlText
import AccessGate.Proofs.LoginPage
import AccessGate.Proofs.JsonText
import AccessGate.Proofs.Minting
import AccessGate.Proofs.PatternMatches
import AccessGate.Proofs.PatternText
import AccessGate.Proofs.PatternParts
import AccessGate.Proofs.PatternClasses
import AccessGate.Proofs.PatternBodies
import AccessGate.Proofs.WholePaths
import AccessGate.Proofs.Transport
import AccessGate.Proofs.Horizon
import AccessGate.Proofs.TaggedForms
import AccessGate.Proofs.KeyForm
import AccessGate.Proofs.NameLayout
import AccessGate.Proofs.SetAlgebra
import AccessGate.Proofs.Engine
import AccessGate.Proofs.ResponseFields
import AccessGate.Proofs.Comparison
