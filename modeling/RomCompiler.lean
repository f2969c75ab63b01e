import RomCompiler.Image.Writer
import RomCompiler.Main
import RomCompiler.Memory
import RomCompiler.Session
import RomCompiler.Proofs.Listing.Grammar
import RomCompiler.Proofs.Listing.FirstFault
import RomCompiler.Proofs.Session
import RomCompiler.Proofs.CommandLine.Stages
import RomCompiler.Proofs.Hexdump.Restore
import RomCompiler.Proofs.Numeral.Shortest
import RomCompiler.Proofs.Hexdump.Columns
import RomCompiler.Proofs.Image.Build
import RomCompiler.Proofs.Recompilation
import RomCompiler.Proofs.CommandLine.Source
import RomCompiler.Proofs.Listing.Layout
import RomCompiler.Proofs.Listing.Renaming
import RomCompiler.Proofs.Listing.Concatenation
import RomCompiler.Proofs.Listing.Trace
import RomCompiler.Proofs.Log
import RomCompiler.Proofs.Session.Independence
import RomCompiler.Proofs.Image.Layout
import RomCompiler.Proofs.Hexdump.Runs
import RomCompiler.Proofs.Hexdump.Places
import RomCompiler.Proofs.Listing.Scan
import RomCompiler.Proofs.Numeral.Reading
import RomCompiler.Proofs.Size
import RomCompiler.Proofs.Image.Writer
import RomCompiler.Proofs.Text.Quoted
import RomCompiler.Proofs.CommandLine.Spelling
import RomCompiler.Proofs.Diagnostics
import RomCompiler.Proofs.FileSystem.Path
import RomCompiler.Proofs.FileSystem.Writable
import RomCompiler.Proofs.Memory
import RomCompiler.Proofs.Listing.Decoding
import RomCompiler.Proofs.CommandLine.Report
