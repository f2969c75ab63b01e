/-! # Bytes

The content of files, images and memory is a list of bytes.
- **`Bytes`** — a list of bytes, in address order. -/

namespace RomCompiler

/-- A list of bytes, in address order. -/
abbrev Bytes := List UInt8

end RomCompiler
