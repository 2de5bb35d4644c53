import CratonHsm.Crypto.GcmInterleaving
import CratonHsm.Crypto.GcmLimit
import CratonHsm.Crypto.CtrRanges
import CratonHsm.Token.SoPinGuessing
import CratonHsm.Token.UserPinLock
import CratonHsm.Abi.LoginInterleaving
import CratonHsm.Abi.RestoredOperations
import CratonHsm.Abi.PartsAndWhole
import CratonHsm.Abi.TwoCalls
import CratonHsm.Abi.SessionCounts
import CratonHsm.Abi.CopyProtection
import CratonHsm.Abi.OaepRoundTrip
import CratonHsm.Abi.ProtectionRatchet
import CratonHsm.Audit.Tampering
import CratonHsm.Daemon.ChosenKeys
import CratonHsm.Daemon.KeyLifecycle
import CratonHsm.Daemon.AuditedEffects
import CratonHsm.Daemon.SessionRights
import CratonHsm.Daemon.ThrottleRuns
import CratonHsm.Admin.KeyImport
import CratonHsm.Admin.Backup
import CratonHsm.Session.OperationBlobs
import CratonHsm.Abi.PublicReaders
import CratonHsm.Abi.Fork
import CratonHsm.Store.ObjectLimit
import CratonHsm.Store.DestroyedObjects
import CratonHsm.Store.HandleCollisions
import CratonHsm.Store.ReplayGuard
import CratonHsm.Store.EncryptedStore
import CratonHsm.Store.KeyMemory
import CratonHsm.Session.HandleRaces
import CratonHsm.Session.CacheRaces
import CratonHsm.Abi.SlotLockouts
import CratonHsm.Token.PinChangeCrash
import CratonHsm.Token.FailureCounters
import CratonHsm.Token.StateFile
