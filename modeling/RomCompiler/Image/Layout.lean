import RomCompiler.Word

/-! # The layout of an image

A 6502 sees the image at the upper half of its address space. The code lies at the start of the
image, and the word at a fixed offset tells the processor where to begin.
- **`filler`** — the byte of every place that nothing else takes.
- **`startAddress`** — where the processor finds the first byte of the image.
- **`resetVector`**, **`resetVectorEnd`** — the offsets between which the start address is kept.
- **`minimumSize`** — the size of the smallest image that has room for it. -/

namespace RomCompiler.Image

/-- The byte that pads an image: `0xea`, the instruction that does nothing. -/
def filler : UInt8 := 0xea

/-- **The address at which the processor starts**, `0x8000`, which is that of the first byte of the
image. -/
def startAddress : UInt16 := 0x8000

/-- **The reset vector**: the offset of the word from which the processor takes the start address,
`0x7ffc`. -/
def resetVector : Nat := 0x7ffc

/-- The offset right after the reset vector, `0x7ffe`. -/
def resetVectorEnd : Nat := resetVector + 2

/-- The size of the smallest image that holds the reset vector, `resetVectorEnd`. -/
def minimumSize : Nat := resetVectorEnd

end RomCompiler.Image
