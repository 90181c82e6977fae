import Portcullis.Main
import Portcullis.Logging.Sampler
import Portcullis.Rehearsal.Run
import Portcullis.Settings.Setup
import Portcullis.Proofs.Session.Event
import Portcullis.Proofs.Session.Live
import Portcullis.Proofs.Session.Roster
import Portcullis.Proofs.Pipeline.Transit
import Portcullis.Proofs.Pipeline.Contract
import Portcullis.Proofs.Guard.Plan
import Portcullis.Proofs.Guard.Mediation
import Portcullis.Proofs.Session.Contexts
import Portcullis.Proofs.Guard.Hosting
import Portcullis.Proofs.Session.Keeping
import Portcullis.Proofs.Guard.Provenance
import Portcullis.Proofs.Guard.Layers
import Portcullis.Proofs.Guard.Fixation
import Portcullis.Proofs.Cors.Verdict
import Portcullis.Proofs.Pipeline.Readers
import Portcullis.Proofs.Guard.Readers
import Portcullis.Proofs.Session.Interference
import Portcullis.Proofs.Guard.Rotation
import Portcullis.Proofs.Cors.Credentials
import Portcullis.Proofs.Guard.CatchAll
import Portcullis.Proofs.Pipeline.Journal
import Portcullis.Proofs.Pipeline.Lifecycle
import Portcullis.Proofs.Session.Tidy
import Portcullis.Proofs.Session.Likeness
import Portcullis.Proofs.Pipeline.Alongside
import Portcullis.Proofs.Guard.SaveModes
import Portcullis.Proofs.Pipeline.Logbook
import Portcullis.Proofs.Guard.FirstFailure
import Portcullis.Proofs.Session.Cookie
import Portcullis.Proofs.Session.Refusal
import Portcullis.Proofs.Pipeline.Aside
import Portcullis.Proofs.Guard.Refusals
import Portcullis.Proofs.Comparison
import Portcullis.Proofs.Session.Pairing
import Portcullis.Proofs.Pipeline.Pairing
import Portcullis.Proofs.Guard.Clients
import Portcullis.Proofs.Session.CookieLine
import Portcullis.Proofs.Guard.Presenting
import Portcullis.Proofs.Pipeline.Licence
import Portcullis.Proofs.Pipeline.Licensed
import Portcullis.Proofs.Session.Census
import Portcullis.Proofs.Guard.Licensed
import Portcullis.Proofs.Guard.Turns
import Portcullis.Proofs.Guard.SessionCookie
import Portcullis.Proofs.Guard.Ledger
import Portcullis.Proofs.Guard.Creation
import Portcullis.Proofs.Session.Uses
import Portcullis.Proofs.Guard.Isolation
import Portcullis.Proofs.Text
import Portcullis.Proofs.PathPattern.Language
import Portcullis.Proofs.PathPattern.Choice
import Portcullis.Proofs.PathPattern.Everything
import Portcullis.Proofs.PathPattern.Plain
import Portcullis.Proofs.Cors.Registration
import Portcullis.Proofs.Cors.Routing
import Portcullis.Proofs.Guard.Keepsakes
import Portcullis.Proofs.Session.RoundTrip
import Portcullis.Proofs.CommaList
import Portcullis.Proofs.Vary
import Portcullis.Proofs.Cors.Fields
import Portcullis.Proofs.Cors.Preflight
import Portcullis.Proofs.Pipeline.Merging
import Portcullis.Proofs.Cors.OriginPattern
import Portcullis.Proofs.Cors.HeadLikeGet
import Portcullis.Proofs.Url
import Portcullis.Proofs.Cors.Literal
import Portcullis.Proofs.Pipeline.Unmatched
import Portcullis.Proofs.Unicode.CaseFold
import Portcullis.Proofs.Cors.OriginLists
import Portcullis.Proofs.Security.Expressions
import Portcullis.Proofs.Security.Roles
import Portcullis.Proofs.Settings.Requirements
import Portcullis.Proofs.Codec.Utf8
import Portcullis.Proofs.Codec.Base64
import Portcullis.Proofs.Pipeline.BasicCredentials
import Portcullis.Proofs.Guard.Enumeration
import Portcullis.Proofs.Guard.Counts
import Portcullis.Proofs.Guard.LoginFailures
import Portcullis.Proofs.Guard.Assembly
import Portcullis.Proofs.Session.Sweeping
import Portcullis.Proofs.Logging.Sampling
import Portcullis.Proofs.Ulid
import Portcullis.Proofs.Http.CallerId
