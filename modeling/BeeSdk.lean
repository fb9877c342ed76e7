import BeeSdk.ConnectAgain
import BeeSdk.ManualBodyProofs
import BeeSdk.CaClientProofs
import BeeSdk.CaRepliesProofs
import BeeSdk.ChunkSizeLine
import BeeSdk.DataPromiseProofs
import BeeSdk.LuaHttpSessionProofs
import BeeSdk.LuaLwsMessages
import BeeSdk.ComThreadProofs
import BeeSdk.LogForeignFiles
import BeeSdk.LwsCloseAll
import BeeSdk.LwsConnections
import BeeSdk.SafeList
import BeeSdk.SafeQueueProofs
import BeeSdk.StatusdProofs
import BeeSdk.WhiteBoardMembers
import BeeSdk.AndroidServiceProofs
import BeeSdk.ApiCommandsProofs
import BeeSdk.BoardAgreement
import BeeSdk.HttpStatusLine
import BeeSdk.LogSorting
import BeeSdk.LogVolumeSizes
import BeeSdk.ReceiveTlvLengths
import BeeSdk.ScanfValuesProofs
import BeeSdk.XxteaForeign
import BeeSdk.EndpointOrder
import BeeSdk.AndroidRenderers
import BeeSdk.BoardRestoreProofs
import BeeSdk.ContentBody
import BeeSdk.TouchStrokesProofs
import BeeSdk.WindowsNotifications
import BeeSdk.AsyncWaitTimer
import BeeSdk.DecryptCache
import BeeSdk.EntranceSessions
import BeeSdk.GzStreamsProofs
import BeeSdk.HttpGets
import BeeSdk.HttpRange
import BeeSdk.PcmChunksProofs
import BeeSdk.ScanfFormatsProofs
import BeeSdk.SessionServices
import BeeSdk.BufferPool
import BeeSdk.CandidateDelivery
import BeeSdk.IOBufferMemory
import BeeSdk.InternetChecksum
import BeeSdk.LuaObjMgr
import BeeSdk.RoomNames
import BeeSdk.SplitPieces
import BeeSdk.StatusdPackets
import BeeSdk.UrlEncode
import BeeSdk.WinVideoTrackSource
