import ChipEight.Headless
import ChipEight.Main
import ChipEight.Proofs.Effect
import ChipEight.Proofs.Operands
import ChipEight.Proofs.Running
import ChipEight.Proofs.Sprite
import ChipEight.Proofs.Bounded
import ChipEight.Proofs.Invariant
import ChipEight.Proofs.Safety
import ChipEight.Proofs.KeyWait
import ChipEight.Proofs.Fault
import ChipEight.Proofs.Table
import ChipEight.Proofs.Cause
import ChipEight.Proofs.Halted
import ChipEight.Proofs.Reload
import ChipEight.Proofs.Tick
import ChipEight.Proofs.Subroutine
import ChipEight.Proofs.Signal
import ChipEight.Proofs.Gate
import ChipEight.Proofs.Frame
import ChipEight.Proofs.Stall
import ChipEight.Proofs.Timer
import ChipEight.Proofs.Footprint
import ChipEight.Proofs.Held
import ChipEight.Proofs.Control
import ChipEight.Proofs.Batch
import ChipEight.Proofs.Generator
import ChipEight.Proofs.Bitmap
import ChipEight.Proofs.Course
import ChipEight.Proofs.Setting
import ChipEight.Proofs.Strokes
import ChipEight.Proofs.Quoted
import ChipEight.Proofs.Typing
import ChipEight.Proofs.Rings
import ChipEight.Proofs.Source
import ChipEight.Proofs.Outcome
import ChipEight.Proofs.Transfer
import ChipEight.Proofs.Access
import ChipEight.Proofs.Arithmetic
import ChipEight.Proofs.Redraw
import ChipEight.Proofs.History
import ChipEight.Proofs.Hexadecimal
import ChipEight.Proofs.Tracing
import ChipEight.Proofs.Mnemonic
import ChipEight.Proofs.Grammar
import ChipEight.Proofs.Lines
import ChipEight.Proofs.Picture
import ChipEight.Proofs.Listing
import ChipEight.Proofs.KeyLookup
import ChipEight.Proofs.KeyNumber
