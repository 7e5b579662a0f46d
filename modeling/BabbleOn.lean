import BabbleOn.Library.BigEndian
import BabbleOn.Library.Execution
import BabbleOn.Library.PartialMemory
import BabbleOn.Library.SegmentedStream
import BabbleOn.Library.Pieces
import BabbleOn.Library.ProgramLogic
import BabbleOn.Library.Interaction
import BabbleOn.Library.Hexadecimal
import BabbleOn.Server.SPChatMessage
import BabbleOn.Server.SPChatLogin
import BabbleOn.Server.SPChatHandshake
import BabbleOn.Server.SPChatPoll
import BabbleOn.Server.SPChatFrame
import BabbleOn.Server.PayloadBounds
import BabbleOn.Server.PayloadReads
import BabbleOn.Server.SPChatStream
import BabbleOn.Server.Connection
import BabbleOn.Server.AuthenticationGate
import BabbleOn.Server.Dialogue
import BabbleOn.Server.SharedDatabase
import BabbleOn.Server.ConcurrentServer
import BabbleOn.Server.Attribution
import BabbleOn.Client.BabbleOnMessage
import BabbleOn.Client.Messages
import BabbleOn.Client.MsgMessage
import BabbleOn.Client.ReaderRuns
import BabbleOn.Client.ReaderThread
import BabbleOn.Client.Session
import BabbleOn.Client.SessionFlags
import BabbleOn.Client.FrameBoundary
import BabbleOn.Client.HandleChallenge
import BabbleOn.Agreement.ClientFrames
import BabbleOn.Agreement.ServerFrames
import BabbleOn.Agreement.ChallengeResponse
import BabbleOn.Client.OutgoingMessage
import BabbleOn.Server.MessageStore
import BabbleOn.Agreement.Reassembly
import BabbleOn.Library.Runs
import BabbleOn.Server.MessageDelivery
import BabbleOn.Agreement.TextDelivery
import BabbleOn.Agreement.PollWindow
import BabbleOn.Server.HonestLength
import BabbleOn.Server.Acceptance
import BabbleOn.Server.CanonicalFrames
import BabbleOn.Server.ByteOrder
import BabbleOn.Server.CutConnections
import BabbleOn.Server.MessageIds
import BabbleOn.Server.SessionOpening
import BabbleOn.Server.SessionExpiry
import BabbleOn.Server.EntryValidation
import BabbleOn.Server.PollResponseHandler
import BabbleOn.Server.SendTime
import BabbleOn.Server.HonestSession
import BabbleOn.Server.AuthenticDelivery
import BabbleOn.Server.CompleteAnswers
import BabbleOn.Client.SegmentedReads
import BabbleOn.Client.RoundTrip
import BabbleOn.Client.Setters
import BabbleOn.Library.LineWrap
import BabbleOn.Agreement.PemText
import BabbleOn.Server.CursorDiscipline
import BabbleOn.Server.UncaughtExceptions
import BabbleOn.Server.ListCount
import BabbleOn.Server.FailingSetters
import BabbleOn.Server.HashConstruction
import BabbleOn.Client.ACKState
import BabbleOn.Library.CipherBlockChaining
import BabbleOn.Client.BlockwiseEncryption
import BabbleOn.Library.BlockDeciphering
import BabbleOn.Server.Encryption
import BabbleOn.Client.Decryption
import BabbleOn.Client.Recipients
import BabbleOn.Agreement.IncomingText
import BabbleOn.Agreement.PollCycle
import BabbleOn.Server.StoredRows
import BabbleOn.Agreement.OutgoingText
import BabbleOn.Agreement.MessageShown
