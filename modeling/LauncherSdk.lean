import LauncherSdk.ResponseId
import LauncherSdk.ResponseJson
import LauncherSdk.Command
import LauncherSdk.Run
import LauncherSdk.CloseParentFds
import LauncherSdk.SyncChildProcess
import LauncherSdk.ExecChild
