import FiveStage.Proofs.Isa.Decoding
import FiveStage.Proofs.Isa.Fields

/-!
# The manual's encodings

The manual lists the operations with their encodings, column by column from the highest bit. The
listing here is written down as it stands there, without the masks, patterns and slices by which
instructions are decoded, so that decoding can be compared with it: it finds every listed encoding
with the operands that were put into it, it finds nothing else, and what it finds encodes to the
word it was found in.

## Main definitions

* `Layout`, `Layout.word`: the columns of an encoding, and the encoding with given operands
* `Layout.Reaches`, `Layout.Legal`: the immediates and the operands that an encoding can name
* `Mnemonic.layout`: the listing

## Main results

* `Mnemonic.ofEncoding?_eq_some_iff`: the operation of an encoding, read off its columns
* `Instruction.decode_inverts_word`: decoding is the inverse of encoding
-/

namespace FiveStage

/-- A gathered field has the bits of all its pieces. -/
theorem Slice.getLsbD_gather (slices : List Slice) (e : Encoding) (i : Nat) :
    (gather slices e).getLsbD i = slices.any fun s => (s.take e).getLsbD i := by
  have collected (field : Word) :
      (slices.foldl (fun field s => field ||| s.take e) field).getLsbD i =
        (field.getLsbD i || slices.any fun s => (s.take e).getLsbD i) := by
    induction slices generalizing field with
    | nil => simp
    | cons s slices ih =>
      rw [List.foldl_cons, ih, BitVec.getLsbD_or, List.any_cons, Bool.or_assoc]
  simpa [gather] using collected 0

/-- The columns of an encoding, with the values of those that select the operation. A shift has its
amount in place of an immediate of twelve bits; an environment call is one fixed encoding. -/
inductive Layout
  | r (funct7 : BitVec 7) (funct3 : BitVec 3) (opcode : BitVec 7)
  | i (funct3 : BitVec 3) (opcode : BitVec 7)
  | shift (funct6 : BitVec 6) (funct3 : BitVec 3) (opcode : BitVec 7)
  | shiftHalf (funct7 : BitVec 7) (funct3 : BitVec 3) (opcode : BitVec 7)
  | s (funct3 : BitVec 3) (opcode : BitVec 7)
  | b (funct3 : BitVec 3) (opcode : BitVec 7)
  | u (opcode : BitVec 7)
  | j (opcode : BitVec 7)
  | call
deriving DecidableEq, Repr

namespace Layout

/-! ### Encodings with given operands -/

/-- The encoding with the given operands. -/
def word (layout : Layout) (operands : Operands) : Encoding :=
  let rd := operands.rd?.getD 0
  let rs1 := operands.rs1?.getD 0
  let rs2 := operands.rs2?.getD 0
  let imm := operands.imm?.getD 0
  match layout with
  | r funct7 funct3 opcode => funct7 ++ rs2 ++ rs1 ++ funct3 ++ rd ++ opcode
  | i funct3 opcode => imm.extractLsb' 0 12 ++ rs1 ++ funct3 ++ rd ++ opcode
  | shift funct6 funct3 opcode => funct6 ++ imm.extractLsb' 0 6 ++ rs1 ++ funct3 ++ rd ++ opcode
  | shiftHalf funct7 funct3 opcode =>
    funct7 ++ imm.extractLsb' 0 5 ++ rs1 ++ funct3 ++ rd ++ opcode
  | s funct3 opcode =>
    imm.extractLsb' 5 7 ++ rs2 ++ rs1 ++ funct3 ++ imm.extractLsb' 0 5 ++ opcode
  | b funct3 opcode =>
    imm.extractLsb' 12 1 ++ imm.extractLsb' 5 6 ++ rs2 ++ rs1 ++ funct3 ++ imm.extractLsb' 1 4 ++
      imm.extractLsb' 11 1 ++ opcode
  | u opcode => imm.extractLsb' 12 20 ++ rd ++ opcode
  | j opcode =>
    imm.extractLsb' 20 1 ++ imm.extractLsb' 1 10 ++ imm.extractLsb' 11 1 ++ imm.extractLsb' 12 8 ++
      rd ++ opcode
  | call => 0x73

/-- The format that says which operands there are. -/
def format : Layout → Format
  | r .. | call => .r
  | i .. | shift .. | shiftHalf .. => .i
  | s .. => .s
  | b .. => .b
  | u .. => .u
  | j .. => .j

/-- The values that the immediate can have. -/
def Reaches (layout : Layout) (imm : Int) : Prop :=
  match layout with
  | r .. | call => True
  | i .. | s .. => -2048 ≤ imm ∧ imm ≤ 2047
  | shift .. => 0 ≤ imm ∧ imm ≤ 63
  | shiftHalf .. => 0 ≤ imm ∧ imm ≤ 31
  | b .. => -4096 ≤ imm ∧ imm ≤ 4094 ∧ 2 ∣ imm
  | u .. => -2 ^ 31 ≤ imm ∧ imm ≤ 2 ^ 31 - 4096 ∧ 4096 ∣ imm
  | j .. => -2 ^ 20 ≤ imm ∧ imm ≤ 2 ^ 20 - 2 ∧ 2 ∣ imm

instance (layout : Layout) (imm : Int) : Decidable (layout.Reaches imm) :=
  match layout with
  | r .. | call => inferInstanceAs (Decidable True)
  | i .. | s .. => inferInstanceAs (Decidable (-2048 ≤ imm ∧ imm ≤ 2047))
  | shift .. => inferInstanceAs (Decidable (0 ≤ imm ∧ imm ≤ 63))
  | shiftHalf .. => inferInstanceAs (Decidable (0 ≤ imm ∧ imm ≤ 31))
  | b .. => inferInstanceAs (Decidable (-4096 ≤ imm ∧ imm ≤ 4094 ∧ 2 ∣ imm))
  | u .. => inferInstanceAs (Decidable (-2 ^ 31 ≤ imm ∧ imm ≤ 2 ^ 31 - 4096 ∧ 4096 ∣ imm))
  | j .. => inferInstanceAs (Decidable (-2 ^ 20 ≤ imm ∧ imm ≤ 2 ^ 20 - 2 ∧ 2 ∣ imm))

/-- The operands that an encoding can name. -/
structure Legal (layout : Layout) (operands : Operands) : Prop where
  format : operands.format = layout.format
  reach : layout.Reaches (operands.imm?.getD 0).toInt
  fixed : layout = .call → operands = .r 0 0 0

/-! ### Columns of an encoding -/

/-- The column on the right. -/
def opcode : Layout → BitVec 7
  | r _ _ code | i _ code | shift _ _ code | shiftHalf _ _ code | s _ code | b _ code => code
  | u code | j code => code
  | call => 0x73

/-- The other columns with fixed values. -/
def selector : Layout → Selector
  | r f7 f3 _ | shiftHalf f7 f3 _ => .funct7 f3 f7
  | shift f6 f3 _ => .funct6 f3 f6
  | i f3 _ | s f3 _ | b f3 _ => .funct3 f3
  | u _ | j _ => .none
  | call => .whole

/-- Whether an encoding has the fixed values in their columns. -/
def Shows (layout : Layout) (e : Encoding) : Prop :=
  e.extractLsb' 0 7 = layout.opcode ∧ layout.selector.Shows e

/-- The columns of the immediate, put together. -/
def immediate (layout : Layout) (e : Encoding) : Word :=
  match layout with
  | r .. | call => 0
  | i .. => (e.extractLsb' 20 12).signExtend 64
  | shift .. => (e.extractLsb' 20 6).setWidth 64
  | shiftHalf .. => (e.extractLsb' 20 5).setWidth 64
  | s .. => (e.extractLsb' 25 7 ++ e.extractLsb' 7 5).signExtend 64
  | b .. =>
    (e.extractLsb' 31 1 ++ e.extractLsb' 7 1 ++ e.extractLsb' 25 6 ++ e.extractLsb' 8 4 ++
      0#1).signExtend 64
  | u .. => (e.extractLsb' 12 20 ++ 0#12).signExtend 64
  | j .. =>
    (e.extractLsb' 31 1 ++ e.extractLsb' 12 8 ++ e.extractLsb' 20 1 ++ e.extractLsb' 21 10 ++
      0#1).signExtend 64

/-- The operands in the columns of an encoding. -/
def read (layout : Layout) (e : Encoding) : Operands :=
  let rd : Reg := e.extractLsb' 7 5
  let rs1 : Reg := e.extractLsb' 15 5
  let rs2 : Reg := e.extractLsb' 20 5
  let imm := layout.immediate e
  match layout.format with
  | .r => .r rd rs1 rs2
  | .i => .i rd rs1 imm
  | .s => .s rs1 rs2 imm
  | .b => .b rs1 rs2 imm
  | .u => .u rd imm
  | .j => .j rd imm

variable {layout : Layout} {operands : Operands} {e : Encoding}

/-! ### From operands to the encoding and back -/

theorem shows_word : layout.Shows (layout.word operands) := by
  cases layout with
  | call =>
    have opcode : (0x73 : Encoding).extractLsb' 0 7 = 0x73 := by decide
    have rest : (0x73 : Encoding).extractLsb' 7 25 = 0 := by decide
    exact ⟨opcode, rest⟩
  | _ =>
    simp (disch := omega) only [Shows, word, opcode, selector, Selector.Shows,
      BitVec.extractLsb'_append_eq_of_add_le, BitVec.extractLsb'_append_eq_of_le, Nat.reduceSub,
      BitVec.extractLsb'_eq_self, and_self]

/-- The columns of the immediate hold the immediate that was put into them. -/
theorem immediate_word (legal : layout.Legal operands) :
    layout.immediate (layout.word operands) = operands.imm?.getD 0 := by
  obtain ⟨same, reach, -⟩ := legal
  -- taking the columns out leaves pieces of the immediate next to each other
  cases layout with
  | r | call => cases operands <;> first | rfl | cases same
  | i | s =>
    obtain ⟨low, high⟩ := reach
    simp (disch := omega) only [immediate, word, BitVec.extractLsb'_append_eq_of_add_le,
      BitVec.extractLsb'_append_eq_of_le, Nat.reduceSub, BitVec.extractLsb'_eq_self,
      BitVec.extractLsb'_append_extractLsb'_eq_extractLsb']
    exact signExtend_extractLsb' (by decide) (by decide) (by omega) (by omega)
  | shift | shiftHalf =>
    obtain ⟨low, high⟩ := reach
    simp (disch := omega) only [immediate, word, BitVec.extractLsb'_append_eq_of_add_le,
      BitVec.extractLsb'_append_eq_of_le, Nat.reduceSub, BitVec.extractLsb'_eq_self]
    exact setWidth_extractLsb' low (by omega)
  | b | j =>
    obtain ⟨low, high, even⟩ := reach
    have last : (operands.imm?.getD 0).extractLsb' 0 1 = 0#1 := extractLsb'_eq_zero (by decide) even
    simp (disch := omega) only [immediate, word, BitVec.extractLsb'_append_eq_of_add_le,
      BitVec.extractLsb'_append_eq_of_le, Nat.reduceSub, BitVec.extractLsb'_eq_self, ← last,
      BitVec.extractLsb'_append_extractLsb'_eq_extractLsb']
    exact signExtend_extractLsb' (by decide) (by decide) (by omega) (by omega)
  | u =>
    obtain ⟨low, high, multiple⟩ := reach
    have last : (operands.imm?.getD 0).extractLsb' 0 12 = 0#12 :=
      extractLsb'_eq_zero (by decide) multiple
    simp (disch := omega) only [immediate, word, BitVec.extractLsb'_append_eq_of_le, Nat.reduceSub,
      BitVec.extractLsb'_eq_self, ← last, BitVec.extractLsb'_append_extractLsb'_eq_extractLsb']
    exact signExtend_extractLsb' (by decide) (by decide) (by omega) (by omega)

theorem read_word (legal : layout.Legal operands) :
    layout.read (layout.word operands) = operands := by
  unfold read
  rw [immediate_word legal]
  obtain ⟨same, -, fixed⟩ := legal
  cases layout with
  | call =>
    rw [fixed rfl]
    rfl
  | _ =>
    cases operands <;> cases same
    simp (disch := omega) only [format, word, Operands.rd?, Operands.rs1?, Operands.rs2?,
      Operands.imm?, Option.getD_some, BitVec.extractLsb'_append_eq_of_add_le,
      BitVec.extractLsb'_append_eq_of_le, Nat.reduceSub, BitVec.extractLsb'_eq_self]

/-! ### From the encoding to operands and back -/

/-- The columns of the immediate hold an immediate within reach. -/
theorem reaches_immediate (layout : Layout) (e : Encoding) :
    layout.Reaches (layout.immediate e).toInt := by
  cases layout with
  | r | call => trivial
  | i | s => exact toInt_signExtend_bounds _ (by decide)
  | shift | shiftHalf => exact toInt_setWidth_bounds _ (by decide)
  | b | j | u => exact toInt_append_zeros_bounds _ (by decide) (by decide)

/-- The one encoding of an environment call. -/
theorem eq_of_shows_call (shown : call.Shows e) : e = 0x73 := by
  obtain ⟨opcode, rest⟩ := shown
  calc e = e.extractLsb' 7 25 ++ e.extractLsb' 0 7 := by
        rw [BitVec.extractLsb'_append_extractLsb'_eq_extractLsb' (by rfl),
          BitVec.extractLsb'_eq_self]
    _ = 0x73 := by
        rw [opcode, rest]
        decide

theorem legal_read (shown : layout.Shows e) : layout.Legal (layout.read e) where
  format := by cases layout <;> rfl
  reach := by
    have reach := reaches_immediate layout e
    cases layout <;> exact reach
  fixed := by
    rintro rfl
    rw [eq_of_shows_call shown]
    decide

theorem word_read (shown : layout.Shows e) : layout.word (layout.read e) = e := by
  cases layout with
  | call => exact (eq_of_shows_call shown).symm
  | u | j =>
    obtain ⟨rfl, -⟩ := shown
    simp (disch := omega) only [immediate, read, format, word, Operands.rd?,
      Operands.imm?, Option.getD_some, extractLsb'_signExtend,
      BitVec.extractLsb'_append_eq_of_add_le, BitVec.extractLsb'_append_eq_of_le, Nat.reduceSub,
      BitVec.extractLsb'_eq_self, BitVec.extractLsb'_append_extractLsb'_eq_extractLsb']
  | r | shift | shiftHalf | i | s | b =>
    obtain ⟨rfl, fields⟩ := shown
    simp only [selector, Selector.Shows] at fields
    simp (disch := omega) only [immediate, read, format, word, Operands.rd?, Operands.rs1?,
      Operands.rs2?, Operands.imm?, Option.getD_some, ← fields, extractLsb'_signExtend,
      extractLsb'_setWidth, BitVec.extractLsb'_append_eq_of_add_le,
      BitVec.extractLsb'_append_eq_of_le, Nat.reduceSub, BitVec.extractLsb'_eq_self,
      BitVec.extractLsb'_append_extractLsb'_eq_extractLsb']

/-! ### The slices of an immediate -/

/-- The slices in which the columns of the immediate are gathered. -/
def slices : Layout → Immediate
  | r .. | call => .absent
  | i .. => .ofI
  | shift .. => .ofShift
  | shiftHalf .. => .ofShiftHalf
  | s .. => .ofS
  | b .. => .ofB
  | u .. => .ofU
  | j .. => .ofJ

theorem read_slices (layout : Layout) (e : Encoding) :
    layout.slices.read e = layout.immediate e := by
  cases layout with
  | r | call => rfl
  | shift | shiftHalf =>
    simp [slices, Immediate.ofShift, Immediate.ofShiftHalf, Immediate.read, immediate, Slice.gather,
      Slice.take, Slice.width]
  | i | s | b | u | j =>
    simp only [slices, Immediate.ofI, Immediate.ofS, Immediate.ofB, Immediate.ofU, Immediate.ofJ,
      Immediate.read, signExtendFrom, if_true, immediate]
    congr 1
    ext i inside
    rw [BitVec.getElem_setWidth, Slice.getLsbD_gather]
    grind [Slice.take, Slice.width]

end Layout

/-- The encodings of the operations. -/
def Mnemonic.layout : Mnemonic → Layout
  | .lui => .u 0b0110111
  | .auipc => .u 0b0010111
  | .jal => .j 0b1101111
  | .jalr => .i 0b000 0b1100111
  | .beq => .b 0b000 0b1100011
  | .bne => .b 0b001 0b1100011
  | .blt => .b 0b100 0b1100011
  | .bge => .b 0b101 0b1100011
  | .bltu => .b 0b110 0b1100011
  | .bgeu => .b 0b111 0b1100011
  | .lb => .i 0b000 0b0000011
  | .lh => .i 0b001 0b0000011
  | .lw => .i 0b010 0b0000011
  | .ld => .i 0b011 0b0000011
  | .lbu => .i 0b100 0b0000011
  | .lhu => .i 0b101 0b0000011
  | .lwu => .i 0b110 0b0000011
  | .sb => .s 0b000 0b0100011
  | .sh => .s 0b001 0b0100011
  | .sw => .s 0b010 0b0100011
  | .sd => .s 0b011 0b0100011
  | .addi => .i 0b000 0b0010011
  | .slti => .i 0b010 0b0010011
  | .sltiu => .i 0b011 0b0010011
  | .xori => .i 0b100 0b0010011
  | .ori => .i 0b110 0b0010011
  | .andi => .i 0b111 0b0010011
  | .slli => .shift 0b000000 0b001 0b0010011
  | .srli => .shift 0b000000 0b101 0b0010011
  | .srai => .shift 0b010000 0b101 0b0010011
  | .addiw => .i 0b000 0b0011011
  | .slliw => .shiftHalf 0b0000000 0b001 0b0011011
  | .srliw => .shiftHalf 0b0000000 0b101 0b0011011
  | .sraiw => .shiftHalf 0b0100000 0b101 0b0011011
  | .add => .r 0b0000000 0b000 0b0110011
  | .sub => .r 0b0100000 0b000 0b0110011
  | .sll => .r 0b0000000 0b001 0b0110011
  | .slt => .r 0b0000000 0b010 0b0110011
  | .sltu => .r 0b0000000 0b011 0b0110011
  | .xor => .r 0b0000000 0b100 0b0110011
  | .srl => .r 0b0000000 0b101 0b0110011
  | .sra => .r 0b0100000 0b101 0b0110011
  | .or => .r 0b0000000 0b110 0b0110011
  | .and => .r 0b0000000 0b111 0b0110011
  | .mul => .r 0b0000001 0b000 0b0110011
  | .mulh => .r 0b0000001 0b001 0b0110011
  | .mulhsu => .r 0b0000001 0b010 0b0110011
  | .mulhu => .r 0b0000001 0b011 0b0110011
  | .div => .r 0b0000001 0b100 0b0110011
  | .divu => .r 0b0000001 0b101 0b0110011
  | .rem => .r 0b0000001 0b110 0b0110011
  | .remu => .r 0b0000001 0b111 0b0110011
  | .addw => .r 0b0000000 0b000 0b0111011
  | .subw => .r 0b0100000 0b000 0b0111011
  | .sllw => .r 0b0000000 0b001 0b0111011
  | .srlw => .r 0b0000000 0b101 0b0111011
  | .sraw => .r 0b0100000 0b101 0b0111011
  | .mulw => .r 0b0000001 0b000 0b0111011
  | .divw => .r 0b0000001 0b100 0b0111011
  | .divuw => .r 0b0000001 0b101 0b0111011
  | .remw => .r 0b0000001 0b110 0b0111011
  | .remuw => .r 0b0000001 0b111 0b0111011
  | .ecall => .call

namespace Mnemonic

/-- The encoding of the operation with the given operands. -/
def word (m : Mnemonic) (operands : Operands) : Encoding := m.layout.word operands

/-- The operands that an encoding of the operation can name. -/
def Accepts (m : Mnemonic) (operands : Operands) : Prop := m.layout.Legal operands

variable {m : Mnemonic} {e : Encoding}

theorem code_eq (m : Mnemonic) : m.opcode.code = m.layout.opcode := by cases m <;> rfl

theorem selector_eq (m : Mnemonic) : m.selector = m.layout.selector := by cases m <;> rfl

theorem slices_eq (m : Mnemonic) : m.immediate = m.layout.slices := by cases m <;> rfl

theorem format_eq (m : Mnemonic) : m.format = m.layout.format := by cases m <;> rfl

theorem and_mask_eq_iff (m : Mnemonic) (e : Encoding) :
    e &&& m.mask = m.pattern ↔ m.layout.Shows e := by
  unfold mask pattern Layout.Shows
  rw [code_eq, selector_eq]
  exact (Fixes.operation m.layout.opcode m.layout.selector).matched_iff e

/-- No two operations agree on the bits that both fix. -/
theorem eq_of_mask_eq : ∀ first ∈ all, ∀ second ∈ all,
    first.pattern &&& second.mask = second.pattern &&& first.mask → first = second := by
  decide +kernel

/-- The operation of an encoding is the one whose fixed values it has. -/
theorem ofEncoding?_eq_some_iff : ofEncoding? e = some m ↔ m.layout.Shows e := by
  rw [← and_mask_eq_iff]
  constructor
  · intro found
    simpa using List.find?_some found
  · intro matched
    cases found : ofEncoding? e with
    | none =>
      have unmatched := List.find?_eq_none.mp found m (mem_all m)
      simp [matched] at unmatched
    | some other =>
      have matched' : e &&& other.mask = other.pattern := by simpa using List.find?_some found
      have agree : other.pattern &&& m.mask = m.pattern &&& other.mask := by
        rw [← matched, ← matched', BitVec.and_assoc, BitVec.and_assoc, BitVec.and_comm m.mask]
      rw [eq_of_mask_eq other (mem_all other) m (mem_all m) agree]

end Mnemonic

theorem Operands.read_eq (m : Mnemonic) (e : Encoding) : Operands.read m e = m.layout.read e := by
  unfold read Layout.read
  rw [m.slices_eq, Layout.read_slices]
  have format := m.format_eq
  generalize m.layout.format = shape at format ⊢
  cases shape <;> rw [format]

namespace Instruction

/-- Decoding is the inverse of encoding: an encoding of an operation with operands that it accepts
is decoded to them, whatever is decoded encodes to the word it was found in, and a word that is no
encoding is refused. -/
theorem decode_inverts_word (pc : Word) :
    (∀ (m : Mnemonic) (operands : Operands), m.Accepts operands →
      decode (m.word operands) pc = .ok ⟨pc, m.word operands, m, operands⟩) ∧
    (∀ (e : Encoding) (inst : Instruction), decode e pc = .ok inst →
      inst.pc = pc ∧ inst.encoding = e ∧
        inst.mnemonic.Accepts inst.operands ∧ inst.mnemonic.word inst.operands = e) ∧
    (∀ e : Encoding,
      (∀ (m : Mnemonic) (operands : Operands), m.Accepts operands → m.word operands ≠ e) →
      decode e pc = .error (.illegalInstruction e pc)) := by
  refine ⟨fun m operands accepted => ?_, fun e inst decoded => ?_, fun e unlisted => ?_⟩
  · have found : Mnemonic.ofEncoding? (m.word operands) = some m :=
      Mnemonic.ofEncoding?_eq_some_iff.mpr Layout.shows_word
    have operands_eq : Operands.read m (m.word operands) = operands := by
      rw [Operands.read_eq]
      exact Layout.read_word accepted
    exact decode_eq_ok_iff.mpr ⟨m, found, by rw [operands_eq]⟩
  · obtain ⟨m, found, rfl⟩ := decode_eq_ok_iff.mp decoded
    have shown := Mnemonic.ofEncoding?_eq_some_iff.mp found
    simp only [Operands.read_eq, true_and]
    exact ⟨Layout.legal_read shown, Layout.word_read shown⟩
  · refine decode_eq_error_iff.mpr ⟨?_, rfl⟩
    cases found : Mnemonic.ofEncoding? e with
    | none => rfl
    | some m =>
      have shown := Mnemonic.ofEncoding?_eq_some_iff.mp found
      exact absurd (Layout.word_read shown) (unlisted m _ (Layout.legal_read shown))

/-- A branch back by eight bytes, and a shift of half a word by 32, which has no encoding. -/
theorem decode_inverts_word_branchAndShift :
    (Mnemonic.beq.Accepts (.b 5 6 (-8)) ∧
      decode 0xfe628ce3 0x1000 = .ok ⟨0x1000, 0xfe628ce3, .beq, .b 5 6 (-8)⟩ ∧
      Mnemonic.beq.word (.b 5 6 (-8)) = 0xfe628ce3) ∧
    decode 0x0200101b 0x1000 = .error (.illegalInstruction 0x0200101b 0x1000) := by
  obtain ⟨listed, found, unlisted⟩ := decode_inverts_word 0x1000
  have accepted : Mnemonic.beq.Accepts (.b 5 6 (-8)) := ⟨rfl, by decide, by decide⟩
  have word_eq : Mnemonic.beq.word (.b 5 6 (-8)) = 0xfe628ce3 := by decide
  have decoded := listed .beq (.b 5 6 (-8)) accepted
  rw [word_eq] at decoded
  have encoded := (found _ _ decoded).2.2.2
  refine ⟨⟨accepted, decoded, encoded⟩, unlisted _ fun m operands _ same => ?_⟩
  have shown : m.layout.Shows 0x0200101b := same ▸ Layout.shows_word
  have matched := (m.and_mask_eq_iff _).mpr shown
  have unmatched : ∀ m ∈ Mnemonic.all, (0x0200101b : Encoding) &&& m.mask ≠ m.pattern := by decide
  exact unmatched m m.mem_all matched

end Instruction

end FiveStage
