import PokerClient.Main
import PokerClient.Session
import PokerClient.CashGame
import PokerClient.Outcome.Stated
import PokerClient.Proofs.AnyText
import PokerClient.Proofs.CellSession
import PokerClient.Proofs.LoggedOut
import PokerClient.Proofs.Race
import PokerClient.Proofs.StoredLogin
import PokerClient.Proofs.KeyringFaults
import PokerClient.Proofs.Likeness
import PokerClient.Proofs.StoreKinds
import PokerClient.Proofs.BearerRequest
import PokerClient.Proofs.SecretStore
import PokerClient.Proofs.SecretRequests
import PokerClient.Proofs.Secrets
import PokerClient.Proofs.Contract
import PokerClient.Proofs.Degrading
import PokerClient.Proofs.Probing
import PokerClient.Proofs.Creating
import PokerClient.Proofs.EnvelopeReading
import PokerClient.Proofs.WireForms
import PokerClient.Proofs.RootedPath
import PokerClient.Proofs.PlainBackend
import PokerClient.Proofs.Addressing
import PokerClient.Proofs.Asking
import PokerClient.Proofs.Verifying
import PokerClient.Proofs.TargetEnd
import PokerClient.Proofs.Verdict
import PokerClient.Proofs.LoginReading
import PokerClient.Proofs.ParsedStrings
import PokerClient.Proofs.Wording
import PokerClient.Proofs.RefusedLogin
import PokerClient.Proofs.PathPrefix
import PokerClient.Proofs.ListedTables
import PokerClient.Proofs.ExpiryHint
import PokerClient.Proofs.Base64Text
import PokerClient.Proofs.ClaimedIdentity
import PokerClient.Proofs.Lifetime
import PokerClient.Proofs.TableDomain
import PokerClient.Proofs.TableSegment
import PokerClient.Proofs.LoginBody
import PokerClient.Proofs.HeaderValues
