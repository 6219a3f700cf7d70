import UCLinux.CommonUtils.DateTime
import UCLinux.Fleet.Employees
import UCLinux.Fleet.WebSessions
import UCLinux.Geocoder.Location
import UCLinux.Geocoder.Reverse
import UCLinux.Navigation.Guidance
import UCLinux.Navigation.OptRoute
import UCLinux.Navigation.RouteStatus
import UCLinux.Navigation.VoiceRouter
import UCLinux.Ocpp.Admission
import UCLinux.Ocpp.Answering
import UCLinux.Ocpp.BootNotification
import UCLinux.Ocpp.CertFlags
import UCLinux.Ocpp.Claiming
import UCLinux.Ocpp.Coherence
import UCLinux.Ocpp.Correlation
import UCLinux.Ocpp.Decoding
import UCLinux.Ocpp.FirmwareDownload
import UCLinux.Ocpp.ForeignReads
import UCLinux.Ocpp.History
import UCLinux.Ocpp.Isolation
import UCLinux.Ocpp.JsonReplies
import UCLinux.Ocpp.Lexing
import UCLinux.Ocpp.Outstanding
import UCLinux.Ocpp.Ownership
import UCLinux.Ocpp.Presence
import UCLinux.Ocpp.ProfileCalls
import UCLinux.Ocpp.ProfileRoundTrip
import UCLinux.Ocpp.Profiles
import UCLinux.Ocpp.RemoteStops
import UCLinux.Ocpp.Routing
import UCLinux.Ocpp.Statistics
import UCLinux.Ocpp.StatusRecords
import UCLinux.Ocpp.StopTransactions
import UCLinux.Ocpp.TimestampTexts
import UCLinux.Ocpp.Transactions
import UCLinux.Ocpp.Uids
import UCLinux.Ocpp.WebCommands
import UCLinux.Phones.Downloads
import UCLinux.Phones.Framing
import UCLinux.Phones.Requests
import UCLinux.Sip.Bindings
import UCLinux.Sip.Content
import UCLinux.Sip.Dispatching
import UCLinux.Sip.LineBuffers
import UCLinux.Sip.Recipients
import UCLinux.Sip.Traffic
import UCLinux.Sip.ViaStack
import UCLinux.Web.Confinement
import UCLinux.Web.Posts
import UCLinux.Web.ProtectedPages
import UCLinux.Web.TileKeys
import UCLinux.Machine.Attempt
import UCLinux.Ocpp.InputArchive
import UCLinux.Ocpp.OutputArchive
import UCLinux.Ocpp.Records
import UCLinux.Ocpp.Members
