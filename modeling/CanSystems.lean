import CanSystems.CheckSound
import CanSystems.BootSafe
import CanSystems.CanOta
import CanSystems.CanNode
import CanSystems.OtaDelivery
import CanSystems.OtaBus
import CanSystems.OtaLockstep
import CanSystems.SharedImage
import CanSystems.VerifiedContent
import CanSystems.FileReaders
import CanSystems.UploadRecovery
import CanSystems.Addressing
import CanSystems.PumpWatch
import CanSystems.ReconnectPacing
import CanSystems.Availability
import CanSystems.FinishedFile
import CanSystems.TransferOutcome
import CanSystems.StartAnswers
import CanSystems.BatchTurns
import CanSystems.CanIdRequests
import CanSystems.KeepAlive
import CanSystems.PumpCopies
import CanSystems.PumpRepeats
import CanSystems.StoringPieces
import CanSystems.BeginAtomic
import CanSystems.PieceTexts
import CanSystems.TransferDiscipline
import CanSystems.OnlineClient
import CanSystems.PageWrites
import CanSystems.ImageBounds
import CanSystems.AnsweredPing
import CanSystems.PublishRoundTrip
import CanSystems.CircularBuffer
import CanSystems.TopicFilter
import CanSystems.ShadowRegister
import CanSystems.EepromHandler
import CanSystems.AcceptanceFilters
import CanSystems.FrameRoundTrip
import CanSystems.TransmitOrder
import CanSystems.WaitingTable
import CanSystems.PlayRetries
import CanSystems.DiscoveryPayload
import CanSystems.RCSwitch
import CanSystems.RfReception
import CanSystems.RfRoundTrip
import CanSystems.CanTraffic
import CanSystems.CanTrafficRuns
import CanSystems.MqttHandshake
import CanSystems.RfHandler
import CanSystems.RfRuns
import CanSystems.TaskHandler
