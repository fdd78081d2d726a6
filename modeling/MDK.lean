import MDK.StepSystem
import MDK.StepProgress
import MDK.TraceAutomaton
import MDK.WhileLoop
import MDK.ResourceLog
import MDK.ThreadSlot
import MDK.CString
import MDK.CStringMemory
import MDK.DecimalText
import MDK.Database
import MDK.ResultSet
import MDK.QueryExecution
import MDK.ResultSetHistory
import MDK.CursorMoves
import MDK.RowGetters
import MDK.FailedMoves
import MDK.QueryOutcome
import MDK.QueryReadout
import MDK.HistoryReadout
import MDK.FetchFailures
import MDK.BackendAgreement
import MDK.LiteralLexing
import MDK.StatementLexing
import MDK.QueryEscape
import MDK.Arena
import MDK.SharedCells
import MDK.DatabaseConnection
import MDK.QueryHandles
import MDK.DatabaseRuns
import MDK.DatabaseTag
import MDK.DatabaseHandles
import MDK.ConnectAgreement
import MDK.QuerySuccess
import MDK.DatabaseLink
import MDK.LinkRefinement
import MDK.QueryRoundTrip
import MDK.StatementEscape
import MDK.TemplateSocket
import MDK.TemplateServer
import MDK.ServerLifetime
import MDK.ServerRuns
import MDK.ConnectionClose
import MDK.SessionProtocol
import MDK.ServerDelivery
import MDK.ConnectionData
import MDK.ListenerData
import MDK.ListenerFrames
import MDK.PeerAddress
import MDK.PeerLookup
import MDK.TemplateClient
import MDK.ConnectionSides
import MDK.NetworkRuns
import MDK.SocketWrites
import MDK.PointerWrites
import MDK.BindSteps
import MDK.BindOutcomes
import MDK.SocketKind
import MDK.ReceiveBuffers
import MDK.ThreadServer
import MDK.ThreadSteps
import MDK.StartArguments
import MDK.BoundEndpoint
import MDK.ThreadStop
import MDK.ThreadStatus
import MDK.ThreadJoins
import MDK.ThreadExit
import MDK.ThreadProgress
import MDK.ThreadHang
import MDK.ThreadQuiet
import MDK.LoopTeardown
import MDK.StringAffixes
import MDK.StringDeletion
import MDK.StringRandom
import MDK.StringSearch
