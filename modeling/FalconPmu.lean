import FalconPmu.Engine.Board
import FalconPmu.Firmware.Shelf
import FalconPmu.Proofs.Controller.Custody
import FalconPmu.Proofs.Engine.Agreement
import FalconPmu.Proofs.Publication
import FalconPmu.Proofs.Buffer.Confinement
import FalconPmu.Proofs.Buffer.Records
import FalconPmu.Proofs.Buffer.Published
import FalconPmu.Proofs.Buffer.Separation
import FalconPmu.Proofs.Buffer.Embedding
import FalconPmu.Proofs.Controller.Rollback
import FalconPmu.Proofs.Engine.Conduct
import FalconPmu.Proofs.Controller.Play
import FalconPmu.Proofs.Controller.Likeness
import FalconPmu.Proofs.Controller.Interleaving
import FalconPmu.Proofs.Controller.Renewal
import FalconPmu.Proofs.Controller.Waning
import FalconPmu.Proofs.Controller.Settled
import FalconPmu.Proofs.Record.Word
import FalconPmu.Proofs.Record.Layout
import FalconPmu.Proofs.Record.PowerGating
import FalconPmu.Proofs.Record.BootArgs
import FalconPmu.Proofs.Firmware.Delivery
import FalconPmu.Proofs.Record.InitMessage
import FalconPmu.Proofs.Buffer.Piece
import FalconPmu.Proofs.Record.Sampling
import FalconPmu.Proofs.Record.BufferAddress
import FalconPmu.Proofs.Firmware.Descriptor
import FalconPmu.Proofs.Firmware.Image
import FalconPmu.Proofs.Buffer.Interchange
import FalconPmu.Proofs.Engine.Verdict
import FalconPmu.Proofs.Record.Counter
import FalconPmu.Proofs.Record.Allocation
import FalconPmu.Proofs.Congruence
import FalconPmu.Proofs.Reporting
import FalconPmu.Proofs.Firmware.Date
import FalconPmu.Proofs.Record.MemDesc
