import LuaChunk.Main
import LuaChunk.Proofs.Input.Layout
import LuaChunk.Proofs.Input.Field
import LuaChunk.Proofs.File.Layout
import LuaChunk.Proofs.File.RoundTrip
import LuaChunk.Proofs.File.Prefix
import LuaChunk.Proofs.File.Qualified
import LuaChunk.Proofs.File.Depth
import LuaChunk.Proofs.File.Raises
import LuaChunk.Proofs.File.SelfCheck
import LuaChunk.Proofs.File.Texts
import LuaChunk.Proofs.File.Canonical
import LuaChunk.Proofs.Listing.Faults
import LuaChunk.Proofs.Listing.Unambiguous
import LuaChunk.Proofs.Command.Disk
import LuaChunk.Proofs.Command.Run
import LuaChunk.Proofs.Input.Advance
import LuaChunk.Proofs.File.Calls
import LuaChunk.Proofs.File.Budget
import LuaChunk.Proofs.Listing.Lines
import LuaChunk.Proofs.Input.Spans
import LuaChunk.Proofs.Settings.Layers
import LuaChunk.Proofs.File.Truncation
import LuaChunk.Proofs.Code.Word
import LuaChunk.Proofs.Listing.Wording
import LuaChunk.Proofs.Listing.Lossless
import LuaChunk.Proofs.File.Evidence
import LuaChunk.Proofs.Charset.Lossy
import LuaChunk.Proofs.Listing.Shift
import LuaChunk.Proofs.Input.Script
import LuaChunk.Proofs.Listing.Words
import LuaChunk.Proofs.Charset.LowAscii
import LuaChunk.Proofs.Listing.Quoted
import LuaChunk.Proofs.File.Reports
import LuaChunk.Proofs.File.Room
import LuaChunk.Proofs.Input.Segments
