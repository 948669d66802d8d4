import PluginChain.Text.Quoted

/-!
# Why an image cannot be read

In `osrkit` this is `ElfError`.
-/

namespace PluginChain.Elf

/-- A part of an image that is read as a whole. -/
inductive Part where
  | header
  | programHeaders
  | programHeader
  | dynamicSection
  | stringTable
deriving DecidableEq, Repr

/-- The word for a part. -/
def Part.word : Part → String
  | header => "ELF header"
  | programHeaders => "program headers"
  | programHeader => "program header"
  | dynamicSection => "dynamic section"
  | stringTable => "string table"

/-- Why the needed libraries of an image cannot be told. -/
inductive Error where
  /-- The image does not begin as an ELF file does. -/
  | notElf
  /-- The word size is neither 32 nor 64 bits. -/
  | unsupportedClass (number : UInt8)
  /-- The byte order is neither of the two. -/
  | unsupportedEncoding (number : UInt8)
  /-- Part of the image lies outside the data. -/
  | truncated (part : Part)
  /-- No program header describes a dynamic section. -/
  | noDynamicSegment
  /-- Libraries are needed and the dynamic section names no string table. -/
  | noStringTable
  /-- No loadable segment holds the address of the string table. -/
  | unmappedStringTable (address : Nat)
  /-- The name of a library is not UTF-8. -/
  | invalidName
deriving DecidableEq, Repr

/-- The wording of an error. -/
def Error.message : Error → String
  | notElf => "not an ELF file"
  | unsupportedClass number => "unsupported ELF class " ++ toString number.toNat
  | unsupportedEncoding number => "unsupported ELF data encoding " ++ toString number.toNat
  | truncated part => "truncated " ++ part.word
  | noDynamicSegment => "no PT_DYNAMIC segment"
  | noStringTable => "no DT_STRTAB entry"
  | unmappedStringTable address =>
    "string table address 0x" ++ Text.hexDigits address ++ " is not mapped by any PT_LOAD segment"
  | invalidName => "dependency name is not valid UTF-8"

end PluginChain.Elf
