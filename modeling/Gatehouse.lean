import Gatehouse.Octets
import Gatehouse.Text.Latin1
import Gatehouse.Text.Base64
import Gatehouse.Text.Blank
import Gatehouse.Text.Numeral
import Gatehouse.Calendar
import Gatehouse.Checksum
import Gatehouse.Cipher.Xtea
import Gatehouse.Position
import Gatehouse.Wire.Limits
import Gatehouse.Wire.Opcode
import Gatehouse.Wire.Field
import Gatehouse.Wire.FrameReader
import Gatehouse.Wire.Read
import Gatehouse.Wire.FrameBuffer
import Gatehouse.Wire.ServerMessage
import Gatehouse.Text.Pem
import Gatehouse.Rsa.Key
import Gatehouse.Rsa.Decimal
import Gatehouse.Rsa.Der
import Gatehouse.Rsa.KeyFile
import Gatehouse.Net.Address
import Gatehouse.Account.Basic
import Gatehouse.Account.Store
import Gatehouse.World
import Gatehouse.WaitingList
import Gatehouse.Login.Rejection
import Gatehouse.Login.Request
import Gatehouse.Toml.Value
import Gatehouse.Toml.Quoted
import Gatehouse.Toml.Scalar
import Gatehouse.Toml.Document
import Gatehouse.Config.Basic
import Gatehouse.Config.Decode
import Gatehouse.Session.Basic
import Gatehouse.Session.Registry
import Gatehouse.TaskQueue
import Gatehouse.Game.Basic
import Gatehouse.Game.Attach
import Gatehouse.BufferPool
import Gatehouse.Connection.Basic
import Gatehouse.Roster
import Gatehouse.Handlers
import Gatehouse.Server.Basic
import Gatehouse.Server.Tasks
import Gatehouse.Server.Handshake
import Gatehouse.Server.Steady
import Gatehouse.Server.Reader
import Gatehouse.Simulation.Pipe
import Gatehouse.Simulation.Basic
import Gatehouse.Simulation.Run
import Gatehouse.Simulation.Attempt
import Gatehouse.Simulation.Script
import Gatehouse.Simulation.Agenda
import Gatehouse.Client.LoginForm
import Gatehouse.Client.Basic
import Gatehouse.CommandLine
import Gatehouse.Main
import Gatehouse.Proofs.LittleEndian
import Gatehouse.Proofs.ModularPower
import Gatehouse.Proofs.Stretch
import Gatehouse.Proofs.Cipher
import Gatehouse.Proofs.Sealing
import Gatehouse.Proofs.Opening
import Gatehouse.Proofs.OutputPath
import Gatehouse.Proofs.Steps
import Gatehouse.Proofs.FrameSizes
import Gatehouse.Proofs.Registry
import Gatehouse.Proofs.Attaching
import Gatehouse.Proofs.Seats
import Gatehouse.Proofs.Traffic
import Gatehouse.Proofs.Ownership
import Gatehouse.Proofs.Handover
import Gatehouse.Proofs.Runs
import Gatehouse.Proofs.Attachment
import Gatehouse.Proofs.Delivery
import Gatehouse.Proofs.RawRsa
import Gatehouse.Proofs.Base64
import Gatehouse.Proofs.Reading
import Gatehouse.Proofs.LoginReading
import Gatehouse.Proofs.LoginRequest
import Gatehouse.Proofs.Books
import Gatehouse.Proofs.Gates
import Gatehouse.Proofs.Judging
import Gatehouse.Proofs.Visits
import Gatehouse.Proofs.ReaderSteps
import Gatehouse.Proofs.Stages
import Gatehouse.Proofs.Handshakes
import Gatehouse.Proofs.Population
import Gatehouse.Proofs.Roll
import Gatehouse.Proofs.Queueing
import Gatehouse.Proofs.Promises
import Gatehouse.Proofs.Takeovers
import Gatehouse.Proofs.Outflow
import Gatehouse.Proofs.Numbering
import Gatehouse.Proofs.Draining
import Gatehouse.Proofs.DeclaredBytes
import Gatehouse.Proofs.Hearing
import Gatehouse.Proofs.Chunks
import Gatehouse.Proofs.DroppedFrames
import Gatehouse.Proofs.Barring
import Gatehouse.Proofs.Closing
import Gatehouse.Proofs.ZeroChecksums
import Gatehouse.Proofs.MessageReading
import Gatehouse.Proofs.AccountTables
import Gatehouse.Proofs.OnePerAccount
import Gatehouse.Proofs.Clones
import Gatehouse.Proofs.Gating
import Gatehouse.Proofs.Hands
import Gatehouse.Proofs.Ticking
import Gatehouse.Proofs.Dispatching
import Gatehouse.Proofs.Reuse
import Gatehouse.Proofs.ShortReads
import Gatehouse.Proofs.FieldReading
import Gatehouse.Proofs.Admission
import Gatehouse.Proofs.Decryption
import Gatehouse.Proofs.WholeBlocks
import Gatehouse.Proofs.LoginLayout
import Gatehouse.Proofs.RoundKeys
import Gatehouse.Proofs.InverseExponents
import Gatehouse.Proofs.RsaBlocks
import Gatehouse.Proofs.CheckedSums
import Gatehouse.Proofs.Flushing
import Gatehouse.Proofs.Keys
import Gatehouse.Proofs.PoolCounts
import Gatehouse.Proofs.SessionIds
import Gatehouse.Proofs.GuardedReads
import Gatehouse.Proofs.LoginBounds
import Gatehouse.Proofs.StoreRanges
import Gatehouse.Proofs.FrameCalls
import Gatehouse.Proofs.Searching
