import Chip8.Arithmetic
import Chip8.CallStack
import Chip8.CommandLine.Command
import Chip8.CommandLine.Grammar
import Chip8.CommandLine.Perform
import Chip8.CommandLine.Usage
import Chip8.Config
import Chip8.Core
import Chip8.Core.Execute
import Chip8.Device
import Chip8.Device.Bell
import Chip8.Device.Panel
import Chip8.Device.Unconnected
import Chip8.Digest.MD5
import Chip8.Disk
import Chip8.Event
import Chip8.FrameDivider
import Chip8.Instruction
import Chip8.Instruction.Decode
import Chip8.Instruction.Text
import Chip8.Journal
import Chip8.Journal.Severity
import Chip8.KeySource
import Chip8.KeySource.Reader
import Chip8.Keypad
import Chip8.Keypad.Wait
import Chip8.Keypad.Cached
import Chip8.Listing
import Chip8.Listing.Marking
import Chip8.Listing.Histogram
import Chip8.Listing.Item
import Chip8.Machine
import Chip8.Machine.Run
import Chip8.Machine.Trace
import Chip8.Main
import Chip8.Memory
import Chip8.Memory.Dump
import Chip8.Memory.Fault
import Chip8.Memory.Glyph
import Chip8.Numeric.Double
import Chip8.Numeric.Rounding
import Chip8.Numeric.Selection
import Chip8.Operation
import Chip8.Pacing.Clock
import Chip8.Pacing.Simulated
import Chip8.Pacing.Timekeeper
import Chip8.Random
import Chip8.Random.Twister
import Chip8.Registers
import Chip8.Screen
import Chip8.Screen.Frame
import Chip8.Screen.Sprite
import Chip8.Screen.Text
import Chip8.Summary
import Chip8.Text.Alphanumeric
import Chip8.Text.Blank
import Chip8.Text.Cased
import Chip8.Text.CellWidth
import Chip8.Text.CharRange
import Chip8.Text.CharacterName
import Chip8.Text.CharacterName.AToB
import Chip8.Text.CharacterName.CToD
import Chip8.Text.CharacterName.EToH
import Chip8.Text.CharacterName.IToL
import Chip8.Text.CharacterName.MToO
import Chip8.Text.CharacterName.PToS
import Chip8.Text.CharacterName.TToZ
import Chip8.Text.DecimalDigit
import Chip8.Text.Emoji
import Chip8.Text.Emoji.Flags
import Chip8.Text.Emoji.Plain
import Chip8.Text.Emoji.Toned
import Chip8.Text.Grapheme
import Chip8.Text.HexBytes
import Chip8.Text.Identifier
import Chip8.Text.IntLiteral
import Chip8.Text.LetterForm
import Chip8.Text.Literal
import Chip8.Text.Literal.Error
import Chip8.Text.Literal.Escape
import Chip8.Text.Literal.Expression
import Chip8.Text.Literal.Form
import Chip8.Text.Literal.Grammar
import Chip8.Text.Literal.Number
import Chip8.Text.Literal.Place
import Chip8.Text.Literal.Quotation
import Chip8.Text.Literal.Reader
import Chip8.Text.Literal.Token
import Chip8.Text.Literal.Value
import Chip8.Text.LowerCase
import Chip8.Text.Markup
import Chip8.Text.Numeral
import Chip8.Text.Printable
import Chip8.Text.Quoted
import Chip8.Text.Style
import Chip8.Text.Style.ColourName
import Chip8.Text.StyledText
import Chip8.Word
import Chip8.Proofs.Divider
import Chip8.Proofs.Footprint
import Chip8.Proofs.Range
import Chip8.Proofs.Course
import Chip8.Proofs.Wait
import Chip8.Proofs.CachedKeypad
import Chip8.Proofs.Program
import Chip8.Proofs.WellFormed
import Chip8.Proofs.Nesting
import Chip8.Proofs.HandOff
import Chip8.Proofs.Buzzer
import Chip8.Proofs.KeyChannel
import Chip8.Proofs.HeldKeys
import Chip8.Proofs.Entitlement
import Chip8.Proofs.FrameRate
import Chip8.Proofs.Agree
import Chip8.Proofs.Replay
import Chip8.Proofs.Accesses
import Chip8.Proofs.SameState
import Chip8.Proofs.TickEnd
import Chip8.Proofs.RunPace
import Chip8.Proofs.ListingItems
import Chip8.Proofs.Assembler
import Chip8.Proofs.Disassembly
import Chip8.Proofs.Drawing
import Chip8.Proofs.Overdraw
import Chip8.Proofs.Runaway
import Chip8.Proofs.Pacing
import Chip8.Proofs.KeyWait
import Chip8.Proofs.Sweep
import Chip8.Proofs.Annotation
import Chip8.Proofs.Marking
import Chip8.Proofs.MemoryHistory
import Chip8.Proofs.Flags
import Chip8.Proofs.BlockTransfer
import Chip8.Proofs.HeldTable
import Chip8.Proofs.HoldTime
import Chip8.Proofs.Deadline
import Chip8.Proofs.Ringers
import Chip8.Proofs.HexText
import Chip8.Proofs.Quotient
import Chip8.Proofs.ClockRate
import Chip8.Proofs.Report
import Chip8.Proofs.TotalTicks
import Chip8.Proofs.ScreenText
