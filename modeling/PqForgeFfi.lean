import PqForgeFfi.Segmentation.Trace
import PqForgeFfi.Segmentation.HoldBack
import PqForgeFfi.Segmentation.FlaggedRun
import PqForgeFfi.Segmentation.Sealing
import PqForgeFfi.Segmentation.Agreement
import PqForgeFfi.Segmentation.ReadSchedule
import PqForgeFfi.ByteOrder.BigEndian
import PqForgeFfi.CodeUnits.Utf16
import PqForgeFfi.Transitions.Schedule
import PqForgeFfi.Paging.PageLocks
import PqForgeFfi.PlainFiles.Disk
import PqForgeFfi.DartErrors
import PqForgeFfi.NativeStatus
import PqForgeFfi.Backend
import PqForgeFfi.AwsLc
import PqForgeFfi.AeadContract
import PqForgeFfi.DartBytes
import PqForgeFfi.StreamFormat
import PqForgeFfi.DartStream
import PqForgeFfi.DartFraming
import PqForgeFfi.NativeReader
import PqForgeFfi.StreamFile
import PqForgeFfi.FileFraming
import PqForgeFfi.NonceEncoding
import PqForgeFfi.BlockReading
import PqForgeFfi.Lookahead
import PqForgeFfi.FileCall
import PqForgeFfi.StreamRuns
import PqForgeFfi.StreamRoundTrip
import PqForgeFfi.StreamAgreement
import PqForgeFfi.StreamAuthenticity
import PqForgeFfi.StreamNonces
import PqForgeFfi.DartBuffering
import PqForgeFfi.StreamEnds
import PqForgeFfi.StreamCanonical
import PqForgeFfi.SealedFiles
import PqForgeFfi.EnvelopeFormat
import PqForgeFfi.Envelope
import PqForgeFfi.EnvelopeCodec
import PqForgeFfi.EnvelopeRuns
import PqForgeFfi.PinnedSecrets
import PqForgeFfi.DartPaths
import PqForgeFfi.FileCipher
import PqForgeFfi.PathStrings
import PqForgeFfi.FilePublication
import PqForgeFfi.InterleavedFiles
import PqForgeFfi.FileInputs
import PqForgeFfi.KeptInputs
import PqForgeFfi.CBoundary
import PqForgeFfi.AwsLcKeys
import PqForgeFfi.NativeKem
import PqForgeFfi.NativeSign
import PqForgeFfi.NativeClassical
import PqForgeFfi.OutputRetry
import PqForgeFfi.NativeAead
import PqForgeFfi.NativeBackend
import PqForgeFfi.NativeOperations
import PqForgeFfi.Marshalling
import PqForgeFfi.FallbackBackend
import PqForgeFfi.Verification
import PqForgeFfi.AeadBackends
import PqForgeFfi.Allocation.Heap
import PqForgeFfi.Ed25519Verification
import PqForgeFfi.NativeMemory
import PqForgeFfi.NativeCalls
import PqForgeFfi.MemoryRuns
import PqForgeFfi.Segmentation.SharedFront
import PqForgeFfi.StreamFronts
import PqForgeFfi.StreamTampering
import PqForgeFfi.StreamInterruption
import PqForgeFfi.Transitions.Machine
import PqForgeFfi.PlainFiles.Publication
import PqForgeFfi.FileRuns
import PqForgeFfi.FileRoundTrip
import PqForgeFfi.ConcurrentFiles
import PqForgeFfi.NativeLibrary
import PqForgeFfi.Selector
import PqForgeFfi.BackendContract
import PqForgeFfi.Interoperation
import PqForgeFfi.LatticeProvider
import PqForgeFfi.ClassicalProvider
import PqForgeFfi.ExportedCalls
import PqForgeFfi.KeyReuse
import PqForgeFfi.RetryLoop
