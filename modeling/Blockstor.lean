import Blockstor.Quorum.OnNoQuorum
import Blockstor.Store.LeftoverSafety
import Blockstor.Placer.SameSafety
import Blockstor.Drbd.RecoverySafety
import Blockstor.Validate.MidSync
import Blockstor.Satellite.RepairSafety
import Blockstor.Satellite.GiHistorySafety
import Blockstor.Satellite.TeardownSafety
import Blockstor.Satellite.ProvisionSafety
import Blockstor.Satellite.ToggleSafety
import Blockstor.Dispatch.Minors
import Blockstor.Dispatch.Sections
import Blockstor.Dispatch.Winners
import Blockstor.Volumes.Linear
import Blockstor.Options.View
import Blockstor.Store.Folding
import Blockstor.Satellite.InterruptedSafety
import Blockstor.Storage.LvmSafety
import Blockstor.Satellite.RestoreSafety
import Blockstor.Controller.NodeIDSafety
import Blockstor.Controller.MinorFit
import Blockstor.Controller.SkipSyncSafety
import Blockstor.Store.DeleteSafety
import Blockstor.Store.ReapSafety
import Blockstor.Store.RollbackSafety
import Blockstor.Orchestration.Barrier
import Blockstor.Orchestration.Abort
import Blockstor.Orchestration.Finalizer
import Blockstor.Orchestration.Release
import Blockstor.Orchestration.Taken
import Blockstor.Controller.LayerStackSafety
import Blockstor.Placer.DisabledNodes
import Blockstor.Evacuation.Migration
import Blockstor.Evacuation.DrainSafety
import Blockstor.Evacuation.DrainCount
import Blockstor.Placer.Oversub
import Blockstor.Doors.RequestWins
import Blockstor.Options.TypedResolve
import Blockstor.Controller.Reallocate
import Blockstor.Doors.GroupPatch
import Blockstor.Drbd.Exhaustion
import Blockstor.Migrate.Latch
