import Yabridge.Bitsery.Adapter
import Yabridge.Bitsery.Values
import Yabridge.Bitsery.Containers
import Yabridge.Bitsery.Positional
import Yabridge.Serialization.Structs
import Yabridge.Serialization.Payloads
import Yabridge.Serialization.Messages
import Yabridge.Proofs.RoundTrip
import Yabridge.Proofs.AEffect
import Yabridge.Proofs.Discriminant
import Yabridge.Proofs.Bitness
import Yabridge.Proofs.FrameSize
import Yabridge.Proofs.Limits
import Yabridge.Proofs.Framing
import Yabridge.Proofs.Reuse
import Yabridge.Proofs.Canonical
