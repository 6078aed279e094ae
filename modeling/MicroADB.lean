import MicroADB.ByteMemory
import MicroADB.EventRun
import MicroADB.PrefixCode
import MicroADB.LinkedList
import MicroADB.Ledger
import MicroADB.Monitor
import MicroADB.SharedRun
import MicroADB.FileStore
import MicroADB.Adb
import MicroADB.FileSystem
import MicroADB.FileSync
import MicroADB.AdbBanner
import MicroADB.AdbFrame
import MicroADB.AdbUv
import MicroADB.AdbClient
import MicroADB.AdbRun
import MicroADB.FileSyncStep
import MicroADB.FileSyncRun
import MicroADB.FileSyncResources
import MicroADB.FileSyncWf
import MicroADB.FileSyncReply
import MicroADB.FileSyncRequest
import MicroADB.FileSyncReading
import MicroADB.FileSyncReplies
import MicroADB.FileSyncRoom
import MicroADB.FileSyncData
import MicroADB.FileSyncOverwrite
import MicroADB.FileSyncAck
import MicroADB.FileSyncTransfer
import MicroADB.FileSyncFollow
import MicroADB.FileSyncDerail
import MicroADB.FileSyncUpload
import MicroADB.AdbAct
import MicroADB.AdbGuard
import MicroADB.AdbStep
import MicroADB.AdbService
import MicroADB.AdbPool
import MicroADB.AdbQueue
import MicroADB.AdbWire
import MicroADB.FileSyncRecv
import MicroADB.FileSyncList
import MicroADB.FileSyncExecute
import MicroADB.AdbAside
import MicroADB.AdbReceive
import MicroADB.AdbAuth
import MicroADB.AdbServiceClose
import MicroADB.AdbKick
import MicroADB.AdbReply
import MicroADB.AdbTable
import MicroADB.AdbCapacity
import MicroADB.AdbOpen
import MicroADB.AdbMove
import MicroADB.AdbMoveFrames
import MicroADB.AdbMoveStep
import MicroADB.AdbRoute
import MicroADB.AdbStream
import MicroADB.AdbStreamStep
import MicroADB.AdbTold
import MicroADB.AdbWindow
import MicroADB.AdbSyncWindow
import MicroADB.AdbConnect
import MicroADB.AdbDispose
import MicroADB.AdbCnxn
import MicroADB.FileSyncDirs
import MicroADB.FileSyncBuffer
import MicroADB.FileSyncCalls
import MicroADB.FileSyncStore
import MicroADB.AdbCloseOnce
import MicroADB.AdbDestroy
import MicroADB.AdbFreed
import MicroADB.QemuServer
import MicroADB.ShellService
import MicroADB.FileSyncServer
import MicroADB.FileSyncTrace
import MicroADB.AdbSync
import MicroADB.AdbServer
