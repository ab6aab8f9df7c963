import PvpDuel.Room.Lifecycle
import PvpDuel.Room.Timeline
import PvpDuel.Room.Damage
import PvpDuel.Room.Mirror
import PvpDuel.Room.Movement
import PvpDuel.Room.Hitbox
import PvpDuel.Room.Ranges
import PvpDuel.MatchServer.Latest
import PvpDuel.Delivery.Agreement
import PvpDuel.Delivery.Wire
import PvpDuel.Gateway.Handlers
import PvpDuel.Reporting.Statistics
import PvpDuel.App.SignOut
import PvpDuel.Transport.Handler
import PvpDuel.Transport.Receive
import PvpDuel.Delivery.Finality
import PvpDuel.Delivery.Reconciliation
import PvpDuel.MatchServer.Replay
import PvpDuel.MatchServer.Verdict
import PvpDuel.MatchServer.Authority
import PvpDuel.Matchmaking.Meeting
import PvpDuel.Delivery.Adoption
import PvpDuel.Delivery.Cadence
import PvpDuel.Client.Logout
import PvpDuel.Client.Refresh
import PvpDuel.Client.SavedLogin
import PvpDuel.AuthServer.SingleUse
import PvpDuel.Profiles.Refinement
import PvpDuel.Delivery.Presentation
import PvpDuel.Room.Countdown
import PvpDuel.Room.Merge
import PvpDuel.Matchmaking.Failure
import PvpDuel.Matchmaking.Expiry
import PvpDuel.AuthServer.Store
import PvpDuel.AuthServer.Atomicity
import PvpDuel.AuthServer.Postgres
import PvpDuel.Updater.Precedence
import PvpDuel.Client.Persistence
import PvpDuel.Client.Sampler
import PvpDuel.Client.Interpolation
import PvpDuel.Updater.Install
import PvpDuel.Lib.Files
import PvpDuel.Updater.Check
