import Mqtt.FixedHeader
import Mqtt.FrameReader
import Mqtt.Packet
import Mqtt.PacketId
import Mqtt.Session.Store
import Mqtt.Proofs.Wire.Reader
import Mqtt.Proofs.Wire.VarInt
import Mqtt.Proofs.FixedHeader
import Mqtt.Proofs.Property.Basic
import Mqtt.Proofs.Property.Block
import Mqtt.Proofs.Property.Agreement
import Mqtt.Proofs.Packet.Ack
import Mqtt.Proofs.Packet.Auth
import Mqtt.Proofs.Packet.ConnAck
import Mqtt.Proofs.Packet.Disconnect
import Mqtt.Proofs.Packet.Publish
import Mqtt.Proofs.Packet.SubscriptionAck
import Mqtt.Proofs.Packet.Subscribe
import Mqtt.Proofs.Packet.Connect
import Mqtt.Proofs.Packet
import Mqtt.Proofs.Packet.Construction
import Mqtt.Proofs.FrameReader.Front
import Mqtt.Proofs.FrameReader.Run
import Mqtt.Proofs.FrameReader.Drain
import Mqtt.Proofs.FrameReader.Stream
import Mqtt.Proofs.FrameReader.Limit
import Mqtt.Proofs.Cursor.Scan
import Mqtt.Proofs.Cursor.Field
import Mqtt.Proofs.Cursor.Packet
import Mqtt.Proofs.PacketId
import Mqtt.Proofs.Session.Run
import Mqtt.Proofs.Session.Log
import Mqtt.Proofs.Session.Consistency
import Mqtt.Proofs.Session.Sender
import Mqtt.Proofs.Session.Incoming
import Mqtt.Proofs.Session.Stage
import Mqtt.Proofs.Packet.Extent
import Mqtt.Proofs.Session.Interleaving
import Mqtt.Proofs.Packet.TopicNames
import Mqtt.Proofs.Wire.Success
import Mqtt.Proofs.Property.Layout
import Mqtt.Proofs.Property.Owner
import Mqtt.Proofs.Property.Lookup
import Mqtt.Proofs.Property.Acceptance
import Mqtt.Proofs.Wire.Alike
import Mqtt.Proofs.Property.Order
import Mqtt.Proofs.Packet.PropertyOrder
import Mqtt.Proofs.Property.Spelling
import Mqtt.Proofs.Packet.Segment
import Mqtt.Proofs.Packet.Layout
import Mqtt.Proofs.Packet.Form
import Mqtt.Proofs.Wire.SelfDelimiting
import Mqtt.Proofs.Packet.BodyExtent
import Mqtt.Proofs.Session.Release
import Mqtt.Proofs.Session.Expiry
import Mqtt.Proofs.Packet.ItemList
import Mqtt.Proofs.Topic.Filter
import Mqtt.Proofs.Packet.TopicFilters
import Mqtt.Proofs.PacketId.Search
import Mqtt.Proofs.PacketId.Sequence
import Mqtt.Proofs.FrameReader.Waiting
import Mqtt.Proofs.Packet.Repetition
import Mqtt.Proofs.Session.Retransmission
import Mqtt.Proofs.Wire.Append
import Mqtt.Proofs.Wire.VarInt.Codec
import Mqtt.Proofs.FixedHeader.Writing
import Mqtt.Proofs.Packet.NonzeroNumbers
import Mqtt.Proofs.Packet.Contents
