import Semihosting.File.Rehearsal
import Semihosting.Main
import Semihosting.Proofs.GuestMemory
import Semihosting.Proofs.Transcript
import Semihosting.Proofs.StreamServices
import Semihosting.Proofs.Transfer
import Semihosting.Proofs.Faults
import Semihosting.Proofs.FaultFrame
import Semihosting.Proofs.Handles
import Semihosting.Proofs.HandleLife
import Semihosting.Proofs.HostFiles
import Semihosting.Proofs.CarriedFile
import Semihosting.Proofs.RoundTrip
import Semihosting.Proofs.LossyDecoding
import Semihosting.Proofs.Servers
import Semihosting.Proofs.ConsoleOutput
import Semihosting.Proofs.MemoryWindows
import Semihosting.Proofs.InputDelivery
import Semihosting.Proofs.GuestCalls
import Semihosting.Proofs.GuestHeap
import Semihosting.Proofs.Exchanges
import Semihosting.Proofs.Relay
import Semihosting.Proofs.StreamCalls
import Semihosting.Proofs.CopyProgram
import Semihosting.Proofs.CopyStored
import Semihosting.Proofs.RehearsedStream
import Semihosting.Proofs.CopyRehearsed
import Semihosting.Proofs.StreamSteps
import Semihosting.Proofs.StreamFlags
import Semihosting.Proofs.StoredNames
import Semihosting.Proofs.AppendedFile
import Semihosting.Proofs.FileLimit
import Semihosting.Proofs.StreamPositions
import Semihosting.Proofs.CopyInPlace
import Semihosting.Proofs.TouchedFiles
import Semihosting.Proofs.StreamEffects
import Semihosting.Proofs.CommutingCalls
import Semihosting.Proofs.CatCommand
import Semihosting.Proofs.GuestFootprint
import Semihosting.Proofs.HandlerOrder
import Semihosting.Proofs.HostMaps
import Semihosting.Proofs.Interruptions
import Semihosting.Proofs.GuardedAccess
import Semihosting.Proofs.GuardedCalls
import Semihosting.Proofs.ItemTransfers
import Semihosting.Proofs.WholeFiles
import Semihosting.Proofs.ProgramStreams
import Semihosting.Proofs.HeapRuns
import Semihosting.Proofs.Dispatch
import Semihosting.Proofs.UnreadRegisters
import Semihosting.Proofs.RenamedHandles
import Semihosting.Proofs.Reopening
import Semihosting.Proofs.CallText
import Semihosting.Proofs.MemoryContents
import Semihosting.Proofs.ModeGrammar
import Semihosting.Proofs.ScriptedTransfers
import Semihosting.Proofs.EnoughRounds
