/-
  INSTRUCTION words of the MIPS I instruction set.

    R format:  | op 6 | rs 5 | rt 5 | rd 5 | shamt 5 | funct 6 |
    I format:  | op 6 | rs 5 | rt 5 |      immediate 16       |
    J format:  | op 6 |               target 26               |
    COPn:      | 0100nn | format 5 | rt 5 | rd 5 |     0      |
    COPn:      | 0100nn |1|           command 25              |

  The fields are projections of the word that overlap from format to format.  `operation` says
  which instruction a word is; every word is one, since what is not listed is `reserved`.
-/
import PlayStation.Cpu.Coprocessor
import PlayStation.Word

namespace PlayStation

/-- The number of a general register. -/
abbrev Reg := Fin 32

/-- The register in which a call leaves its return address. -/
def Reg.link : Reg := Fin.ofNat 32 31

/-- What an instruction word asks for. -/
inductive Operation where
  -- shifts
  | sll | srl | sra | sllv | srlv | srav
  -- jumps and traps
  | jr | jalr | syscall | break
  -- the HI and LO registers
  | mfhi | mthi | mflo | mtlo | mult | multu | div | divu
  -- arithmetic and logic on registers
  | add | addu | sub | subu | and | or | xor | nor | slt | sltu
  -- comparisons with zero
  | bltz | bgez | bltzal | bgezal
  | j | jal | beq | bne | blez | bgtz
  -- arithmetic and logic with an immediate
  | addi | addiu | slti | sltiu | andi | ori | xori | lui
  /-- Work of coprocessor `n`. -/
  | cop (n : Coprocessor)
  | lb | lh | lwl | lw | lbu | lhu | lwr
  | sb | sh | swl | sw | swr
  /-- Load a word into coprocessor `n`. -/
  | lwc (n : Coprocessor)
  /-- Store a word from coprocessor `n`. -/
  | swc (n : Coprocessor)
  | reserved
deriving DecidableEq, Repr, Inhabited

/-- What a coprocessor instruction asks of its coprocessor. -/
inductive CoprocessorOperation where
  /-- Move from a data register. -/
  | mfc
  /-- Move from a control register. -/
  | cfc
  /-- Move to a data register. -/
  | mtc
  /-- Move to a control register. -/
  | ctc
  /-- Branch if the coprocessor's condition is false. -/
  | bcf
  /-- Branch if the coprocessor's condition is true. -/
  | bct
  /-- A command with a 25-bit immediate. -/
  | command (immediate : UInt32)
  | reserved
deriving DecidableEq, Repr, Inhabited

/-- An instruction word. -/
structure Instruction where
  word : UInt32
deriving DecidableEq, Repr, Inhabited

namespace Instruction

/-! ## Fields -/

/-- The primary opcode. -/
@[inline] def op (i : Instruction) : UInt32 := i.word >>> 26

/-- The register field that starts at bit `start`. -/
@[inline] def regField (i : Instruction) (start : UInt32) : Reg :=
  Fin.ofNat 32 (i.word >>> start).toNat

@[inline] def rs (i : Instruction) : Reg := i.regField 21
@[inline] def rt (i : Instruction) : Reg := i.regField 16
@[inline] def rd (i : Instruction) : Reg := i.regField 11

/-- The shift amount. -/
@[inline] def shamt (i : Instruction) : UInt32 := (i.word >>> 6) &&& 0x1F

/-- The function code of an R-format instruction. -/
@[inline] def funct (i : Instruction) : UInt32 := i.word &&& 0x3F

/-- The immediate, unsigned. -/
@[inline] def imm (i : Instruction) : UInt32 := i.word &&& 0xFFFF

/-- The immediate, sign-extended. -/
@[inline] def immSigned (i : Instruction) : UInt32 := Word.signExtendHalf i.word

/-- The jump target, in words. -/
@[inline] def target (i : Instruction) : UInt32 := i.word &&& 0x03FFFFFF

/-- The immediate as a branch offset: it counts words. -/
@[inline] def branchOffset (i : Instruction) : UInt32 := i.immSigned <<< 2

/-- The jump target in bytes. -/
@[inline] def jumpOffset (i : Instruction) : UInt32 := i.target <<< 2

/-- The number of the coprocessor addressed. -/
@[inline] def coprocessor (i : Instruction) : Coprocessor := .ofBits i.op

/-- The immediate of a coprocessor command. -/
@[inline] def commandField (i : Instruction) : UInt32 := i.word &&& 0x01FFFFFF

/-! ## Decoding -/

/-- R-format instructions, by function code. -/
def specialOperation (i : Instruction) : Operation :=
  match i.funct.toNat with
  | 0x00 => .sll
  | 0x02 => .srl
  | 0x03 => .sra
  | 0x04 => .sllv
  | 0x06 => .srlv
  | 0x07 => .srav
  | 0x08 => .jr
  | 0x09 => .jalr
  | 0x0C => .syscall
  | 0x0D => .break
  | 0x10 => .mfhi
  | 0x11 => .mthi
  | 0x12 => .mflo
  | 0x13 => .mtlo
  | 0x18 => .mult
  | 0x19 => .multu
  | 0x1A => .div
  | 0x1B => .divu
  | 0x20 => .add
  | 0x21 => .addu
  | 0x22 => .sub
  | 0x23 => .subu
  | 0x24 => .and
  | 0x25 => .or
  | 0x26 => .xor
  | 0x27 => .nor
  | 0x2A => .slt
  | 0x2B => .sltu
  | _ => .reserved

/-- Comparisons with zero.  Bit 0 of the `rt` field gives the condition, and the field links
exactly when its other bits are 10000: every `rt` decodes to one of the four. -/
def zeroBranchOperation (i : Instruction) : Operation :=
  let atLeastZero := Word.bit i.word 16
  let link := (i.word >>> 16) &&& 0x1E == 0x10
  match atLeastZero, link with
  | false, false => .bltz
  | true, false => .bgez
  | false, true => .bltzal
  | true, true => .bgezal

/-- Which instruction the word is. -/
def operation (i : Instruction) : Operation :=
  match i.op.toNat with
  | 0x00 => i.specialOperation
  | 0x01 => i.zeroBranchOperation
  | 0x02 => .j
  | 0x03 => .jal
  | 0x04 => .beq
  | 0x05 => .bne
  | 0x06 => .blez
  | 0x07 => .bgtz
  | 0x08 => .addi
  | 0x09 => .addiu
  | 0x0A => .slti
  | 0x0B => .sltiu
  | 0x0C => .andi
  | 0x0D => .ori
  | 0x0E => .xori
  | 0x0F => .lui
  | 0x10 => .cop .zero
  | 0x11 => .cop .one
  | 0x12 => .cop .two
  | 0x13 => .cop .three
  | 0x20 => .lb
  | 0x21 => .lh
  | 0x22 => .lwl
  | 0x23 => .lw
  | 0x24 => .lbu
  | 0x25 => .lhu
  | 0x26 => .lwr
  | 0x28 => .sb
  | 0x29 => .sh
  | 0x2A => .swl
  | 0x2B => .sw
  | 0x2E => .swr
  | 0x30 => .lwc .zero
  | 0x31 => .lwc .one
  | 0x32 => .lwc .two
  | 0x33 => .lwc .three
  | 0x38 => .swc .zero
  | 0x39 => .swc .one
  | 0x3A => .swc .two
  | 0x3B => .swc .three
  | _ => .reserved

/-- What the word asks of its coprocessor, read as a coprocessor instruction.  Bit 25 marks a
command; otherwise the `rs` field is a format. -/
def coprocessorOperation (i : Instruction) : CoprocessorOperation :=
  if Word.bit i.word 25 then .command i.commandField
  else
    match i.rs.val with
    | 0x00 => .mfc
    | 0x02 => .cfc
    | 0x04 => .mtc
    | 0x06 => .ctc
    | 0x08 => if Word.bit i.word 16 then .bct else .bcf
    | _ => .reserved

end Instruction

/-- The assembler's name for an operation. -/
def Operation.mnemonic : Operation → String
  | .sll => "sll" | .srl => "srl" | .sra => "sra"
  | .sllv => "sllv" | .srlv => "srlv" | .srav => "srav"
  | .jr => "jr" | .jalr => "jalr" | .syscall => "syscall" | .break => "break"
  | .mfhi => "mfhi" | .mthi => "mthi" | .mflo => "mflo" | .mtlo => "mtlo"
  | .mult => "mult" | .multu => "multu" | .div => "div" | .divu => "divu"
  | .add => "add" | .addu => "addu" | .sub => "sub" | .subu => "subu"
  | .and => "and" | .or => "or" | .xor => "xor" | .nor => "nor"
  | .slt => "slt" | .sltu => "sltu"
  | .bltz => "bltz" | .bgez => "bgez" | .bltzal => "bltzal" | .bgezal => "bgezal"
  | .j => "j" | .jal => "jal" | .beq => "beq" | .bne => "bne" | .blez => "blez" | .bgtz => "bgtz"
  | .addi => "addi" | .addiu => "addiu" | .slti => "slti" | .sltiu => "sltiu"
  | .andi => "andi" | .ori => "ori" | .xori => "xori" | .lui => "lui"
  | .cop _ => "cop"
  | .lb => "lb" | .lh => "lh" | .lwl => "lwl" | .lw => "lw"
  | .lbu => "lbu" | .lhu => "lhu" | .lwr => "lwr"
  | .sb => "sb" | .sh => "sh" | .swl => "swl" | .sw => "sw" | .swr => "swr"
  | .lwc _ => "lwc" | .swc _ => "swc"
  | .reserved => "reserved"

/-- The assembler's name for a coprocessor operation. -/
def CoprocessorOperation.mnemonic : CoprocessorOperation → String
  | .mfc => "mfc" | .cfc => "cfc" | .mtc => "mtc" | .ctc => "ctc"
  | .bcf => "bcf" | .bct => "bct" | .command _ => "command" | .reserved => "reserved"

end PlayStation
