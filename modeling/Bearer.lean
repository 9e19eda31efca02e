import Bearer.Http.Api
import Bearer.Http.Guard
import Bearer.Rpc.Api
import Bearer.Rpc.Client
import Bearer.Rpc.Guard
import Bearer.Settings.Basic
import Bearer.Site
import Bearer.Store.Connection
import Bearer.Store.Remote
import Bearer.Proofs.Base64
import Bearer.Proofs.Calendar
import Bearer.Proofs.Program.Run
import Bearer.Proofs.Store.Live
import Bearer.Proofs.Site.Run
import Bearer.Proofs.Claims.Lifetime
import Bearer.Proofs.Service.Tokens
import Bearer.Proofs.Service.Login
import Bearer.Proofs.Site.Request
import Bearer.Proofs.Revocation
import Bearer.Proofs.Json.RoundTrip
import Bearer.Proofs.Token.RoundTrip
import Bearer.Proofs.Token.Soundness
import Bearer.Proofs.Lockout.Login
import Bearer.Proofs.Lockout.Machine
import Bearer.Proofs.Store.Eager
import Bearer.Proofs.Program.Surroundings
import Bearer.Proofs.Service.Discretion
import Bearer.Proofs.Service.Entrances
import Bearer.Proofs.Password
import Bearer.Proofs.Program.Crowd
import Bearer.Proofs.Store.Count
import Bearer.Proofs.Lockout.Stages
import Bearer.Proofs.Lockout.Overlap
import Bearer.Proofs.Text.LowerCase
import Bearer.Proofs.Email
import Bearer.Proofs.Lockout.Key
import Bearer.Proofs.Net.Address
import Bearer.Proofs.Lockout.Origin
import Bearer.Proofs.Settings.Window
import Bearer.Proofs.Store.Remote
import Bearer.Proofs.Site.Deadlines
import Bearer.Proofs.Store.Shown
import Bearer.Proofs.Site.Footprint
import Bearer.Proofs.Site.Apart
import Bearer.Proofs.Lockout.Epochs
import Bearer.Proofs.Service.Grant
import Bearer.Proofs.Rpc.Client
import Bearer.Proofs.Service.Wording
import Bearer.Proofs.Settings.Acceptance
import Bearer.Proofs.Site.Metrics
import Bearer.Proofs.Claims.End
import Bearer.Proofs.Revocation.Refresh
import Bearer.Proofs.Settings.Choice
import Bearer.Proofs.Lockout.Outage
import Bearer.Proofs.Secret.Runs
import Bearer.Proofs.Secret.Entropy
import Bearer.Proofs.Base64.Symbols
import Bearer.Proofs.Secret.Provision
import Bearer.Proofs.Service.Spelling
import Bearer.Proofs.Claims.Report
