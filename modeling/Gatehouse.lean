import Gatehouse.Directory.Roster
import Gatehouse.Gateway.Basic
import Gatehouse.Main
import Gatehouse.Pool.Rehearsal
import Gatehouse.Proofs.Json.Reading
import Gatehouse.Proofs.Text.Base64
import Gatehouse.Service.Authorization
import Gatehouse.Service.Login
import Gatehouse.Service.Session
import Gatehouse.Token.Id
import Gatehouse.Proofs.Token.Signed
import Gatehouse.Proofs.Counter.Action
import Gatehouse.Proofs.Counter.Key
import Gatehouse.Proofs.Guard.Frame
import Gatehouse.Proofs.Service.Run
import Gatehouse.Proofs.Service.Presented
import Gatehouse.Proofs.Service.Listing
import Gatehouse.Proofs.Service.Revocation
import Gatehouse.Proofs.Token.Plain
import Gatehouse.Proofs.Service.Finality
import Gatehouse.Proofs.Token.Issued
import Gatehouse.Proofs.Service.Login
import Gatehouse.Proofs.Service.Rotation
import Gatehouse.Proofs.Guard.Reading
import Gatehouse.Proofs.Service.Secrecy
import Gatehouse.Proofs.Counter.Plain
import Gatehouse.Proofs.Guard.Backoff
import Gatehouse.Proofs.Guard.Doubling
import Gatehouse.Proofs.Guard.Endurance
import Gatehouse.Proofs.Guard.Extension
import Gatehouse.Proofs.Database.Identity
import Gatehouse.Proofs.Service.Sanction
import Gatehouse.Proofs.Token.Verified
import Gatehouse.Proofs.Token.Length
import Gatehouse.Proofs.Service.Acceptance
import Gatehouse.Proofs.Counter.Agreement
import Gatehouse.Proofs.Guard.Party
import Gatehouse.Proofs.Service.Party
import Gatehouse.Proofs.Service.Visit
import Gatehouse.Proofs.Service.Isolation
import Gatehouse.Proofs.Guard.Limit
import Gatehouse.Proofs.Pool.Accounting
import Gatehouse.Proofs.Service.Departure
import Gatehouse.Proofs.Service.Logout
import Gatehouse.Proofs.Service.Exchange
import Gatehouse.Proofs.Guard.Order
import Gatehouse.Proofs.Guard.Level
import Gatehouse.Proofs.Guard.RetryAfter
import Gatehouse.Proofs.Database.Migration
import Gatehouse.Proofs.Database.Upgrade
import Gatehouse.Proofs.Database.Outcome
import Gatehouse.Proofs.Database.Refusal
import Gatehouse.Proofs.Database.Coherence
import Gatehouse.Proofs.Database.Completion
import Gatehouse.Proofs.Database.Downgrade
import Gatehouse.Proofs.Database.Versions
import Gatehouse.Proofs.Service.Written
import Gatehouse.Proofs.Gateway.Upkeep
import Gatehouse.Proofs.Command.Seed
import Gatehouse.Proofs.Service.Intake
