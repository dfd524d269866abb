import DtmcLinux.Foundation.StepRun
import DtmcLinux.Foundation.Loop
import DtmcLinux.Foundation.BigEndian
import DtmcLinux.Foundation.BlockHash
import DtmcLinux.Foundation.RingBuffer
import DtmcLinux.Foundation.Fifo
import DtmcLinux.Posix.Pthread
import DtmcLinux.Dtcore.Dterr
import DtmcLinux.Dtcore.Dtlock
import DtmcLinux.Modbus.Interface
import DtmcLinux.Dtbufferqueue.Basic
import DtmcLinux.Dtbufferqueue.System
import DtmcLinux.Dtbufferqueue.Refinement
import DtmcLinux.Dtsha1.Fips180
import DtmcLinux.Dtsha1.Dtsha1
import DtmcLinux.Dtsha1.Correct
import DtmcLinux.Modbus.Master
import DtmcLinux.Modbus.MasterFlag
import DtmcLinux.Modbus.Slave
import DtmcLinux.Modbus.SlaveTask
import DtmcLinux.Modbus.Mailbox
import DtmcLinux.Modbus.MailboxRegisters
import DtmcLinux.Modbus.MailboxCorrect
import DtmcLinux.Foundation.PrefixCode
import DtmcLinux.Foundation.Decimal
import DtmcLinux.Foundation.Http
import DtmcLinux.Foundation.Base64
import DtmcLinux.Foundation.LexicalPath
import DtmcLinux.Foundation.Rfc6455
import DtmcLinux.DtioxLinuxWebsocket.Basic
import DtmcLinux.DtioxLinuxWebsocket.Frames
import DtmcLinux.DtioxLinuxWebsocket.Descriptors
import DtmcLinux.DtioxLinuxWebsocket.Handshake
import DtmcLinux.DtioxLinuxWebsocket.HandshakeAccept
import DtmcLinux.DtioxLinuxWebsocket.HandshakeText
import DtmcLinux.DtioxLinuxWebsocket.HandshakeCorrect
import DtmcLinux.Dtiox.Tty
import DtmcLinux.Dtiox.Tcp
import DtmcLinux.Dtiox.OneRxTask
import DtmcLinux.Dthttpd.Slots
import DtmcLinux.Dthttpd.SlotsCorrect
import DtmcLinux.Foundation.FirstOccurrence
import DtmcLinux.Foundation.Segments
import DtmcLinux.Posix.CString
import DtmcLinux.Posix.Receive
import DtmcLinux.Dthttpd.Request
import DtmcLinux.Dthttpd.RequestSegments
import DtmcLinux.Dthttpd.RequestAccepted
import DtmcLinux.Dthttpd.RequestBody
import DtmcLinux.Dthttpd.Response
import DtmcLinux.Dthttpd.Start
import DtmcLinux.Dthttpd.StaticFiles
import DtmcLinux.Dthttpd.RequestLine
import DtmcLinux.Dthttpd.ClientTask
import DtmcLinux.Modbus.Facade
import DtmcLinux.Modbus.LockBalance
import DtmcLinux.Modbus.Truncation
import DtmcLinux.Modbus.TruncationCorrect
import DtmcLinux.Dtiox.StreamGap
import DtmcLinux.Dtiox.StreamWakeup
import DtmcLinux.Foundation.Lockstep
import DtmcLinux.Modbus.ReceiveSide
import DtmcLinux.Modbus.ReceiveSideCorrect
import DtmcLinux.Dtbufferqueue.Wakeup
import DtmcLinux.Dtsemaphore.Basic
import DtmcLinux.Dtsemaphore.Correct
import DtmcLinux.Dttasker.Basic
import DtmcLinux.Dttasker.ReadyHandshake
import DtmcLinux.Dttasker.StartReleased
import DtmcLinux.Dttasker.ThreadsJoined
import DtmcLinux.Dtcore.DterrObjects
import DtmcLinux.Dtiox.Canbus
import DtmcLinux.Dtiox.ErrorOwnership
import DtmcLinux.Dtiox.TcpConnections
import DtmcLinux.DtnetportalCoap.Basic
import DtmcLinux.DtnetportalCoap.Publish
import DtmcLinux.DtnetportalCoap.Decoding
import DtmcLinux.DtnetportalMosquitto.Basic
import DtmcLinux.DtnetportalMosquitto.Connection
import DtmcLinux.DtnetportalMosquitto.ConnectionWait
import DtmcLinux.DtnetportalMosquitto.Steps
import DtmcLinux.DtnetportalMosquitto.Suback
import DtmcLinux.DtnetportalMosquitto.Subscriptions
import DtmcLinux.Dttasker.Joiners
import DtmcLinux.Modbus.SlaveReattach
import DtmcLinux.Modbus.SlaveTransmit
import DtmcLinux.SvcAdcws.Basic
import DtmcLinux.SvcAdcws.TaskErrors
import DtmcLinux.DtnetportalCoap.OnPostTopic
import DtmcLinux.Dthttpclient.Accumulate
import DtmcLinux.Dthttpclient.Perform
import DtmcLinux.Dtiox.CanbusFrames
import DtmcLinux.Modbus.MasterChunks
import DtmcLinux.Modbus.SlaveSession
import DtmcLinux.Modbus.MasterRead
import DtmcLinux.Modbus.SlaveAccounting
import DtmcLinux.Modbus.SlaveDescriptors
import DtmcLinux.Dtiox.TcpDescriptors
import DtmcLinux.DtioxLinuxWebsocket.Base64
import DtmcLinux.Posix.Timespec
import DtmcLinux.Dtbufferqueue.Sections
import DtmcLinux.Dtbufferqueue.Deadline
import DtmcLinux.Dtsemaphore.Deadline
import DtmcLinux.DtnetportalMosquitto.Deadline
import DtmcLinux.Dtbufferqueue.Outcome
import DtmcLinux.Dtbufferqueue.Create
import DtmcLinux.Dtbufferqueue.Overwrite
import DtmcLinux.Dtnvblob.File
import DtmcLinux.Dtiox.Write
import DtmcLinux.Dthttpd.Exchange
import DtmcLinux.Dthttpd.Shutdown
import DtmcLinux.Dthttpd.ShutdownReturns
import DtmcLinux.DtnetportalCoap.PublishOne
import DtmcLinux.DtnetportalCoap.Delivery
import DtmcLinux.Foundation.Pipe
import DtmcLinux.Dtiox.TcpPair
import DtmcLinux.Posix.Getopt
import DtmcLinux.Dtiox.TcpConfigure
import DtmcLinux.Apps.Arguments
import DtmcLinux.Apps.DemoIoxTcp
import DtmcLinux.SvcAdcws.Parser
import DtmcLinux.Foundation.WebsocketClient
import DtmcLinux.DtioxLinuxWebsocket.Session
import DtmcLinux.Dtiox.TtyLifecycle
import DtmcLinux.Dtiox.CanbusLifecycle
import DtmcLinux.DtdisplayLinuxSdl.Basic
import DtmcLinux.DtdisplayLinuxSdl.Screen
import DtmcLinux.DtdisplayLinuxSdl.Objects
import DtmcLinux.DtdisplayLinuxSdl.Progress
