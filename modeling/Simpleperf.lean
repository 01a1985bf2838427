import Simpleperf.Symbol
import Simpleperf.SymbolTable
import Simpleperf.DebugFileFinder
import Simpleperf.DexFile
import Simpleperf.Dso
import Simpleperf.DsoInvariants
import Simpleperf.Kernel
import Simpleperf.DexConversion
import Simpleperf.Lifecycle
import Simpleperf.FrameFilter
import Simpleperf.ReportLib
import Simpleperf.SampleStream
import Simpleperf.BuildIds
import Simpleperf.BuildIdList
import Simpleperf.Statics
import Simpleperf.Queries
