import SubstratumNode.Net
import SubstratumNode.Stream
import SubstratumNode.Messages
import SubstratumNode.Discriminator
import SubstratumNode.Reader
import SubstratumNode.Reader.Delivery
import SubstratumNode.Reader.Termination
import SubstratumNode.Writer
import SubstratumNode.Pool
import SubstratumNode.Pool.Add
import SubstratumNode.Pool.Transmit
import SubstratumNode.System
import SubstratumNode.System.Writers
import SubstratumNode.System.Readers
import SubstratumNode.System.Identity
import SubstratumNode.System.SelfRemoval
import SubstratumNode.System.Effects
import SubstratumNode.System.Delivery
import SubstratumNode.System.Outbound
import SubstratumNode.System.Provenance
