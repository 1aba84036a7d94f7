import HatDrivers.Lib.Bytes
import HatDrivers.Lib.Reads
import HatDrivers.Lib.Framing
import HatDrivers.Basic
import HatDrivers.Doubles
import HatDrivers.Iec60870.Encodings.Common
import HatDrivers.Iec60870.Encodings.Time
import HatDrivers.Iec60870.Encodings.Encoder
import HatDrivers.Iec60870.Encodings.Iec101.Common
import HatDrivers.Iec60870.Encodings.Iec101.Encoder
import HatDrivers.Iec60870.Encodings.Iec101.Packing
import HatDrivers.Iec60870.Encodings.Iec101.Fields
import HatDrivers.Iec60870.Encodings.Iec101.Elements
import HatDrivers.Iec60870.Encodings.Iec104.Encoder
import HatDrivers.Iec60870.Encodings.Iec101.RoundTrip
import HatDrivers.Iec60870.Encodings.Iec104.RoundTrip
import HatDrivers.Iec101.Common
import HatDrivers.Iec101.Encoder
import HatDrivers.Iec101.RoundTrip
import HatDrivers.Iec104.Encoder
import HatDrivers.Iec104.RoundTrip
import HatDrivers.Modbus.Transport.Common
import HatDrivers.Modbus.Transport.Encoder
import HatDrivers.Modbus.Transport.Pdu
import HatDrivers.Modbus.Transport.Connection
import HatDrivers.Iec60870.Apci.Common
import HatDrivers.Iec60870.Apci.Encoder
import HatDrivers.Lib.Transition
import HatDrivers.Lib.Sequence
import HatDrivers.Iec60870.Apci.Connection
import HatDrivers.Iec60870.Apci.Window
import HatDrivers.Iec60870.Encodings.Security.Common
import HatDrivers.Iec60870.Encodings.Security.Encoder
import HatDrivers.Iec60870.Encodings.Security.Elements
import HatDrivers.Iec60870.Encodings.Security.Segmentation
import HatDrivers.Iec60870.Encodings.Security.RoundTrip
import HatDrivers.Iec60870.Encodings.Security.Reassembly
import HatDrivers.Lib.Varint
import HatDrivers.Lib.ReadWhile
import HatDrivers.Mqtt.Common
import HatDrivers.Mqtt.Transport.Common
import HatDrivers.Mqtt.Transport.Fields
import HatDrivers.Mqtt.Transport.Properties
import HatDrivers.Mqtt.Transport.PropertyRoundTrip
import HatDrivers.Mqtt.Transport.Encoder
import HatDrivers.Mqtt.Transport.WellFormed
import HatDrivers.Mqtt.Transport.RoundTrip
import HatDrivers.Mqtt.Transport.Publish
import HatDrivers.Tcp
import HatDrivers.Lib.Entries
import HatDrivers.Mqtt.IdentifierRegistry
import HatDrivers.Mqtt.Allocation
import HatDrivers.Mqtt.Client
import HatDrivers.Mqtt.Client.Handshake
import HatDrivers.Mqtt.Client.Invariant
import HatDrivers.Mqtt.Client.Calls
import HatDrivers.Mqtt.Client.Runs
import HatDrivers.Mqtt.Client.Matching
import HatDrivers.Mqtt.Client.Publish
import HatDrivers.Mqtt.Receive
import HatDrivers.Tcp.Read
import HatDrivers.Cotp.Connection
import HatDrivers.Cotp.Handshake
import HatDrivers.Iec60870.Link.Endpoint
import HatDrivers.Iec60870.Link.Unbalanced.Attribution
import HatDrivers.Iec60870.Link.Isolation
import HatDrivers.Modbus.Robustness
import HatDrivers.Modbus.EndToEnd
import HatDrivers.Smpp.Common
import HatDrivers.Smpp.Transport.Enumerations
import HatDrivers.Smpp.Transport.Common
import HatDrivers.Smpp.Transport.Fields
import HatDrivers.Smpp.Transport.OptionalParams
import HatDrivers.Smpp.Transport.Encoder
import HatDrivers.Smpp.Transport.Connection
import HatDrivers.Smpp.Transport.Encodable
import HatDrivers.Smpp.Transport.Serving
import HatDrivers.Smpp.Transport.Matching
import HatDrivers.Smpp.Transport.Codes
import HatDrivers.Smpp.Transport.RoundTrip
import HatDrivers.Smpp.Transport.Tenths
import HatDrivers.Iec60870.Encodings.Iec103.Common
import HatDrivers.Iec60870.Encodings.Iec103.Values
import HatDrivers.Iec60870.Encodings.Iec103.Encoder
import HatDrivers.Iec60870.Encodings.Iec103.Fields
import HatDrivers.Iec60870.Encodings.Iec103.Elements
import HatDrivers.Iec60870.Encodings.Iec103.RoundTrip
import HatDrivers.Iec60870.Encodings.Iec103.GenericData
import HatDrivers.Chatter.Common
import HatDrivers.Chatter.Connection
import HatDrivers.Chatter.Agreement
import HatDrivers.Mms.Common
import HatDrivers.Mms.Asn1
import HatDrivers.Mms.Encoder
import HatDrivers.Mms.Times
import HatDrivers.Mms.RoundTrip
import HatDrivers.Iec60870.Apci.SendWindow
import HatDrivers.Lib.Prefixes
import HatDrivers.Iec60870.Encodings.Layout
import HatDrivers.Iec60870.Encodings.Counts
import HatDrivers.Iec60870.Encodings.Iec101.Sizes
import HatDrivers.Iec60870.Encodings.Truncation
import HatDrivers.Iec60870.Encodings.Iec104.Truncation
import HatDrivers.Iec104.Sequences
import HatDrivers.Iec103.Common
import HatDrivers.Iec103.Master
import HatDrivers.Iec103.Processing
import HatDrivers.Iec103.Survival
import HatDrivers.Snmp.Common
import HatDrivers.Snmp.Asn1
import HatDrivers.Snmp.Key
import HatDrivers.Snmp.Encoder.V1
import HatDrivers.Snmp.Encoder.V2c
import HatDrivers.Snmp.Encoder.V3
import HatDrivers.Snmp.Encoder.Security
import HatDrivers.Snmp.Tables
import HatDrivers.Snmp.Encoder
import HatDrivers.Snmp.Users
import HatDrivers.Snmp.Agent
import HatDrivers.Snmp.Access
import HatDrivers.Snmp.Agent.Access
import HatDrivers.Snmp.Trap.Listener
import HatDrivers.Snmp.Trap.Access
import HatDrivers.Lib.Exchange
import HatDrivers.Snmp.Manager
import HatDrivers.Snmp.Trap.Sender
import HatDrivers.Snmp.Trap.Delivery
import HatDrivers.Snmp.Manager.Community
import HatDrivers.Snmp.Manager.UserBased
import HatDrivers.Snmp.Manager.EndToEnd
import HatDrivers.Snmp.Manager.Datagrams
import HatDrivers.Lib.Crc
import HatDrivers.Modbus.Transport.Crc
import HatDrivers.Cotp.RoundTrip
import HatDrivers.Lib.Receiving
import HatDrivers.Iec60870.Apci.Transport
import HatDrivers.Iec60870.Link.Grammar
import HatDrivers.Cotp.Fragmentation
import HatDrivers.Cosp.Common
import HatDrivers.Cosp.Encoder
import HatDrivers.Cosp.RoundTrip
import HatDrivers.Lib.LocalTime
import HatDrivers.Iec60870.Encodings.Datetime
import HatDrivers.Modbus.Master.SendLoop
import HatDrivers.Tcp.Drain
import HatDrivers.Lib.Views
import HatDrivers.Iec60870.Encodings.Iec103.Counts
import HatDrivers.Mms.Connection
import HatDrivers.Mms.Matching
import HatDrivers.Iec61850.Client.Commands
import HatDrivers.Mqtt.Transport.Robustness
import HatDrivers.Mqtt.Transport.Abbreviations
import HatDrivers.Strings
import HatDrivers.Iec61850.References
import HatDrivers.Iec61850.Encoder
import HatDrivers.Iec61850.RoundTrip
import HatDrivers.Iec61850.Reports
import HatDrivers.Acse.Connection
import HatDrivers.Iec61850.Manager.Templates
import HatDrivers.Iec61850.Manager.ValueTypes
import HatDrivers.Lib.Generator
import HatDrivers.Iec61850.Manager.Data
import HatDrivers.Iec61850.Manager.Members
import HatDrivers.Lib.OnesComplement
import HatDrivers.Icmp.Encoder
import HatDrivers.Icmp.Checksum
import HatDrivers.Iec61850.Manager.AcsiTypes
import HatDrivers.Lib.SlidingWindow
import HatDrivers.Iec60870.Apci.Ends
import HatDrivers.Iec60870.Apci.Confirmed
import HatDrivers.Iec60870.Apci.Link
import HatDrivers.Iec60870.Link.Unbalanced.Line
import HatDrivers.Cosp.Connection
import HatDrivers.Lib.Dict
import HatDrivers.Copp.Connection
import HatDrivers.Acse.Association
