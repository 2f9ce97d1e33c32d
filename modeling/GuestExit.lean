import GuestExit.Script.Handler
import GuestExit.Serial.Facade
import GuestExit.Serial.Traffic
import GuestExit.Vm.Step
import GuestExit.Proofs.Chain.History
import GuestExit.Proofs.Chain.Layers
import GuestExit.Proofs.ControlRegister.Answer
import GuestExit.Proofs.ControlRegister.HiddenVmxe
import GuestExit.Proofs.ControlRegister.Records
import GuestExit.Proofs.Exit.Codes
import GuestExit.Proofs.Exit.Interruption
import GuestExit.Proofs.Interrupt.Accounting
import GuestExit.Proofs.Interrupt.Reinjection
import GuestExit.Proofs.Interrupt.Vector
import GuestExit.Proofs.Machine.Pending
import GuestExit.Proofs.Text.Lines
import GuestExit.Proofs.Vm.Confinement
import GuestExit.Proofs.Vm.Decision
import GuestExit.Proofs.Vm.Dump
import GuestExit.Proofs.Vm.Fatal
import GuestExit.Proofs.Vm.Frame
import GuestExit.Proofs.Vm.Halt
import GuestExit.Proofs.Vm.Life
import GuestExit.Proofs.Vm.Recording
import GuestExit.Proofs.Vm.Resume
import GuestExit.Proofs.Vm.Router
import GuestExit.Proofs.Vm.Routing
import GuestExit.Proofs.Serial.Decoding
import GuestExit.Proofs.Serial.Handshake
import GuestExit.Proofs.Serial.LifeCycle
import GuestExit.Proofs.Interrupt.Coupling
import GuestExit.Proofs.Text.Reading
import GuestExit.Proofs.Vm.Escalation
import GuestExit.Proofs.Vm.ReadBack
import GuestExit.Proofs.Vm.Farewell
import GuestExit.Proofs.Machine.Stale
import GuestExit.Proofs.Vm.Comparison
import GuestExit.Proofs.Vm.Stale
import GuestExit.Proofs.Chain.Override
import GuestExit.Proofs.Vm.Override
import GuestExit.Proofs.ControlRegister.VirtualCr3
import GuestExit.Proofs.Vm.Written
import GuestExit.Proofs.Vm.InstructionPointer
import GuestExit.Proofs.Interrupt.Paths
import GuestExit.Proofs.ControlRegister.LogText
import GuestExit.Proofs.Interrupt.CountText
import GuestExit.Proofs.Vm.Transcript
import GuestExit.Proofs.Text.Limit
import GuestExit.Proofs.Serial.LogLine
import GuestExit.Proofs.Exit.Qualification
import GuestExit.Proofs.Vm.Registrations
import GuestExit.Proofs.Vm.BringUp
import GuestExit.Proofs.Machine.RegisterFile
