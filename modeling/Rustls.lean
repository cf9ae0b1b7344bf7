import Rustls.Lib.BigEndian
import Rustls.Lib.Aead
import Rustls.Lib.Codec
import Rustls.Lib.FirstMatch
import Rustls.Lib.Slice
import Rustls.Lib.Recency
import Rustls.Lib.Chunks
import Rustls.Lib.Kdf
import Rustls.Lib.Der
import Rustls.Lib.Budget
import Rustls.Enums
import Rustls.Error
import Rustls.Msgs.Message
import Rustls.Msgs.Framing
import Rustls.Msgs.Outbound
import Rustls.Crypto.Cipher
import Rustls.Crypto.Ring.Tls13
import Rustls.Crypto.Ring.Tls12
import Rustls.Crypto.Ring.RoundTrip
import Rustls.Crypto.Ring.Quic
import Rustls.Crypto.Ring.Ticketer
import Rustls.RecordLayer
import Rustls.RecordLayer.Trial
import Rustls.Tls13.KeySchedule
import Rustls.Tls12.ConnectionSecrets
import Rustls.Crypto.Hmac
import Rustls.X509
import Rustls.Tls13.Epochs
import Rustls.Tls13.RejectedEarlyData
import Rustls.Quic.Keys
import Rustls.Quic.Packet
import Rustls.Quic.Handshake
import Rustls.Client.Hs
import Rustls.VecBuf
import Rustls.Msgs.Handshake
import Rustls.Msgs.Codec
import Rustls.Msgs.Certificate
import Rustls.Compress
import Rustls.Msgs.Persist
import Rustls.Server.Tls13
import Rustls.Server.Negotiate
import Rustls.Msgs.Deframer
import Rustls.Msgs.Coalesce
import Rustls.CommonState
import Rustls.HashHs
import Rustls.CommonState.Send
import Rustls.CommonState.WritePlaintext
import Rustls.Msgs.Fragmenter
import Rustls.Conn
import Rustls.Conn.Traffic
import Rustls.Client.Hello
import Rustls.Client.Ech
import Rustls.Client.EchInner
import Rustls.Msgs.ServerExtension
import Rustls.Server.Hs
import Rustls.Client.Tls13
import Rustls.Client.EarlyData
import Rustls.Tls13.EncryptedExtensions
import Rustls.LimitedCache
import Rustls.Client.Handy
import Rustls.Server.Handy
import Rustls.Client.Tickets
import Rustls.Ticketer
import Rustls.Conn.Export
