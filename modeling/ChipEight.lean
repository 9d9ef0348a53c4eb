import ChipEight.Directory
import ChipEight.Machine.Host
import ChipEight.Main
import ChipEight.Screen.Host
import ChipEight.Proofs.Fault
import ChipEight.Proofs.IndexRegister
import ChipEight.Proofs.Wide.Ranges
import ChipEight.Proofs.Run
import ChipEight.Proofs.Subroutine
import ChipEight.Proofs.Effects
import ChipEight.Proofs.Halted
import ChipEight.Proofs.Twins
import ChipEight.Proofs.Reloading
import ChipEight.Proofs.RefusedLoad
import ChipEight.Proofs.ObservedKey
import ChipEight.Proofs.MemorySize
import ChipEight.Proofs.Surroundings
import ChipEight.Proofs.SoundTimer
import ChipEight.Proofs.Frames
import ChipEight.Proofs.Shown
import ChipEight.Proofs.KeyEvents
import ChipEight.Proofs.Drawing
import ChipEight.Proofs.SpriteOrigin
import ChipEight.Proofs.NeededBytes
import ChipEight.Proofs.Redrawing
import ChipEight.Proofs.Clipping
import ChipEight.Proofs.Arithmetic
import ChipEight.Proofs.Transfers
import ChipEight.Proofs.ReportedRefusals
import ChipEight.Proofs.KeyAnswers
import ChipEight.Proofs.KeyPresses
import ChipEight.Proofs.Assembly
import ChipEight.Proofs.Rendering
import ChipEight.Proofs.ByteMap
import ChipEight.Proofs.BoundedStack
import ChipEight.Proofs.DoubleOrder
import ChipEight.Proofs.Settings
import ChipEight.Proofs.AcceptedRanges
