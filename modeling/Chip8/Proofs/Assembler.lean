import Chip8.Proofs.ListingItems
import Chip8.Registers
import Mathlib.Algebra.Group.Nat.Defs

/-!
# Reading assembly back

A listing loses nothing, even without its addresses, bytes and comments: the
assembly texts alone determine the bytes. `assemble?` reads them back, line by
line: commas are left out, blanks separate the words, the first word is the
mnemonic and the others are operands (`Operand`). Mnemonics are shared, so it
is the mnemonic together with the kinds of the operands that tells the
instruction (`Instruction.ofOperands?`); data keeps its bytes as its only
operand.

`Operand.ofText?_text` and `Instruction.ofOperands?_operandList` invert the two
steps of writing, and `assembleLine?_assembly` puts them together for one item.
-/

namespace Chip8

namespace Word

theorem toNat_ofBytes (high low : UInt8) :
    (ofBytes high low).toNat = 256 * high.toNat + low.toNat := by
  have := high.toNat_lt
  have := low.toNat_lt
  rw [ofBytes, UInt16.toNat_ofNat']
  omega

theorem high_ofBytes (high low : UInt8) : (ofBytes high low).high = high := by
  have := low.toNat_lt
  have hquot : (256 * high.toNat + low.toNat) / 256 = high.toNat := by omega
  rw [Word.high, toNat_ofBytes, hquot, UInt8.ofNat_toNat]

theorem low_ofBytes (high low : UInt8) : (ofBytes high low).low = low := by
  have := low.toNat_lt
  have hrest : (256 * high.toNat + low.toNat) % 256 = low.toNat := by omega
  rw [Word.low, toNat_ofBytes, hrest, UInt8.ofNat_toNat]

end Word

namespace Text

theorem hexValue?_hexDigit {d : Nat} (h : d < 16) :
    hexValue? (hexDigit d) = some d := by
  have hall : ∀ d : Fin 16, hexValue? (hexDigit d) = some d.val := by decide
  exact hall ⟨d, h⟩

def numberOfHex? (digits : List Char) : Option Nat :=
  digits.foldlM (fun n c => (hexValue? c).map (16 * n + ·)) 0

theorem numberOfHex?_fixedHex (w n : Nat) :
    numberOfHex? (fixedHex w n) = some (n % 16 ^ w) := by
  induction w generalizing n with
  | zero => simp [numberOfHex?, Nat.mod_one]
  | succ w ih =>
      have hdigit := hexValue?_hexDigit (Nat.mod_lt n (by decide : 0 < 16))
      have hrest : (fixedHex w (n / 16)).foldlM
          (fun n c => (hexValue? c).map (16 * n + ·)) 0 =
            some (n / 16 % 16 ^ w) := ih (n / 16)
      rw [numberOfHex?, fixedHex_succ, List.foldlM_append, hrest,
        Nat.pow_succ', Nat.mod_mul]
      simp [hdigit, Nat.add_comm]

theorem readPairs_fixedHex (position : Nat) (bytes : List UInt8) :
    readPairs position (bytes.flatMap fun b => fixedHex 2 b.toNat) =
      .ok bytes := by
  induction bytes generalizing position with
  | nil => rfl
  | cons b rest ih =>
      have hb := b.toNat_lt
      have hhigh :=
        hexValue?_hexDigit (Nat.mod_lt (b.toNat / 16) (by decide : 0 < 16))
      have hlow := hexValue?_hexDigit (Nat.mod_lt b.toNat (by decide : 0 < 16))
      have hvalue : 16 * (b.toNat / 16 % 16) + b.toNat % 16 = b.toNat := by
        omega
      have hdigits : fixedHex 2 b.toNat =
          [hexDigit (b.toNat / 16 % 16), hexDigit (b.toNat % 16)] := rfl
      rw [List.flatMap_cons, hdigits, List.cons_append, List.cons_append,
        List.nil_append, readPairs, hhigh, hlow]
      simp only [ih, hvalue, UInt8.ofNat_toNat]
      rfl

end Text

/-! ## Operands -/

inductive Operand where
  | register (x : Register)
  | address (nnn : Address)
  | byte (kk : UInt8)
  | rows (n : Nibble)
  | data (bytes : List UInt8)
  | index
  | indexed
  | delay
  | sound
  | key
  | glyph
  | decimal
  deriving DecidableEq

namespace Operand

open Text

def text : Operand → List Char
  | register x => ['V', hexDigit x]
  | address nnn => '$' :: fixedHex 3 nnn
  | byte kk => '#' :: '$' :: fixedHex 2 kk.toNat
  | rows n => (toString n.val).toList
  | data bytes => '$' :: bytes.flatMap fun b => fixedHex 2 b.toNat
  | index => ['I']
  | indexed => ['[', 'I', ']']
  | delay => ['D', 'T']
  | sound => ['S', 'T']
  | key => ['K']
  | glyph => ['F']
  | decimal => ['B']

/-- The operand behind a dollar sign: three digits are an address, pairs are
data. -/
def ofDigits? (digits : List Char) : Option Operand :=
  if digits.length = 3 then
    (numberOfHex? digits).bind fun n => (Address.ofInt? n).map address
  else (readPairs 0 digits).toOption.map data

def ofDecimal? (cs : List Char) : Option Operand :=
  ((List.finRange 16).find? fun n => (toString n.val).toList == cs).map rows

def ofText? : List Char → Option Operand
  | ['V', d] =>
    (hexValue? d).map fun x => register ⟨x % 16, Nat.mod_lt x (by decide)⟩
  | '$' :: digits => ofDigits? digits
  | ['#', '$', a, b] => (numberOfHex? [a, b]).map fun n => byte (UInt8.ofNat n)
  | ['I'] => some index
  | ['[', 'I', ']'] => some indexed
  | ['D', 'T'] => some delay
  | ['S', 'T'] => some sound
  | ['K'] => some key
  | ['F'] => some glyph
  | ['B'] => some decimal
  | cs => ofDecimal? cs

theorem ofDigits?_address (nnn : Address) :
    ofDigits? (fixedHex 3 nnn) = some (address nnn) := by
  have hvalue : nnn.val % 16 ^ 3 = nnn.val := Nat.mod_eq_of_lt nnn.isLt
  rw [ofDigits?, if_pos (length_fixedHex 3 nnn), numberOfHex?_fixedHex, hvalue,
    Option.bind_some, Address.ofInt?_val, Option.map_some]

theorem ofDigits?_data (bytes : List UInt8) :
    ofDigits? (bytes.flatMap fun b => fixedHex 2 b.toNat) =
      some (data bytes) := by
  have hlength : (bytes.flatMap fun b => fixedHex 2 b.toNat).length ≠ 3 := by
    simp only [List.length_flatMap, length_fixedHex, List.map_const',
      List.sum_replicate_nat]
    omega
  rw [ofDigits?, if_neg hlength, readPairs_fixedHex]
  rfl

theorem ofText?_rows (n : Nibble) : ofText? (rows n).text = some (rows n) := by
  have hall : ∀ n : Nibble,
      ofText? (rows n).text = ofDecimal? (rows n).text := by decide
  have hfind : ∀ n : Nibble,
      ((List.finRange 16).find? fun m =>
        (toString m.val).toList == (rows n).text) = some n := by
    decide
  rw [hall, ofDecimal?, hfind, Option.map_some]

theorem ofText?_text (o : Operand) : ofText? o.text = some o := by
  cases o with
  | register x =>
      have hread : ofText? (register x).text =
          (hexValue? (hexDigit x)).map fun x =>
            register ⟨x % 16, Nat.mod_lt x (by decide)⟩ :=
        rfl
      have hvalue :
          (⟨x.val % 16, Nat.mod_lt x.val (by decide)⟩ : Register) = x :=
        Fin.ext (Nat.mod_eq_of_lt x.isLt)
      rw [hread, hexValue?_hexDigit x.isLt, Option.map_some, hvalue]
  | address nnn => exact ofDigits?_address nnn
  | byte kk =>
      have hvalue : kk.toNat % 16 ^ 2 = kk.toNat :=
        Nat.mod_eq_of_lt kk.toNat_lt
      have hread : ofText? (byte kk).text =
          (numberOfHex? (fixedHex 2 kk.toNat)).map fun n =>
            byte (UInt8.ofNat n) := rfl
      rw [hread, numberOfHex?_fixedHex, hvalue, Option.map_some,
        UInt8.ofNat_toNat]
  | rows n => exact ofText?_rows n
  | data bytes => exact ofDigits?_data bytes
  | index | indexed | delay | sound | key | glyph | decimal => rfl

end Operand

/-! ## Instructions and data -/

namespace Instruction

def operandList : Instruction → List Operand
  | clear | ret => []
  | system nnn | jump nnn | call nnn => [.address nnn]
  | skipEqByte x kk | skipNeByte x kk | loadByte x kk | addByte x kk
  | random x kk =>
    [.register x, .byte kk]
  | skipEqReg x y | skipNeReg x y | loadReg x y | or x y | and x y | xor x y
  | addReg x y | sub x y | shiftRight x y | subReverse x y | shiftLeft x y =>
    [.register x, .register y]
  | loadIndex nnn => [.index, .address nnn]
  | jumpOffset nnn => [.register offsetRegister, .address nnn]
  | draw x y n => [.register x, .register y, .rows n]
  | skipKey x | skipNotKey x => [.register x]
  | readDelay x => [.register x, .delay]
  | waitKey x => [.register x, .key]
  | setDelay x => [.delay, .register x]
  | setSound x => [.sound, .register x]
  | addIndex x => [.index, .register x]
  | loadGlyph x => [.glyph, .register x]
  | storeDecimal x => [.decimal, .register x]
  | storeRegs x => [.indexed, .register x]
  | loadRegs x => [.register x, .indexed]

def ofOperands? : String → List Operand → Option Instruction
  | "SYS", [.address nnn] => some (system nnn)
  | "CLS", [] => some clear
  | "RET", [] => some ret
  | "JP", [.address nnn] => some (jump nnn)
  | "JP", [.register _, .address nnn] => some (jumpOffset nnn)
  | "CALL", [.address nnn] => some (call nnn)
  | "SE", [.register x, .byte kk] => some (skipEqByte x kk)
  | "SE", [.register x, .register y] => some (skipEqReg x y)
  | "SNE", [.register x, .byte kk] => some (skipNeByte x kk)
  | "SNE", [.register x, .register y] => some (skipNeReg x y)
  | "LD", [.register x, .byte kk] => some (loadByte x kk)
  | "LD", [.register x, .register y] => some (loadReg x y)
  | "LD", [.register x, .delay] => some (readDelay x)
  | "LD", [.register x, .key] => some (waitKey x)
  | "LD", [.register x, .indexed] => some (loadRegs x)
  | "LD", [.index, .address nnn] => some (loadIndex nnn)
  | "LD", [.delay, .register x] => some (setDelay x)
  | "LD", [.sound, .register x] => some (setSound x)
  | "LD", [.glyph, .register x] => some (loadGlyph x)
  | "LD", [.decimal, .register x] => some (storeDecimal x)
  | "LD", [.indexed, .register x] => some (storeRegs x)
  | "ADD", [.register x, .byte kk] => some (addByte x kk)
  | "ADD", [.register x, .register y] => some (addReg x y)
  | "ADD", [.index, .register x] => some (addIndex x)
  | "OR", [.register x, .register y] => some (or x y)
  | "AND", [.register x, .register y] => some (and x y)
  | "XOR", [.register x, .register y] => some (xor x y)
  | "SUB", [.register x, .register y] => some (sub x y)
  | "SHR", [.register x, .register y] => some (shiftRight x y)
  | "SUBN", [.register x, .register y] => some (subReverse x y)
  | "SHL", [.register x, .register y] => some (shiftLeft x y)
  | "RND", [.register x, .byte kk] => some (random x kk)
  | "DRW", [.register x, .register y, .rows n] => some (draw x y n)
  | "SKP", [.register x] => some (skipKey x)
  | "SKNP", [.register x] => some (skipNotKey x)
  | _, _ => none

/-- Mnemonic and operands tell every instruction from the others. -/
theorem ofOperands?_operandList (i : Instruction) :
    ofOperands? i.mnemonic i.operandList = some i := by
  cases i <;> rfl

/-- The operands are written with a comma and a blank between them. -/
theorem toList_operands (i : Instruction) :
    i.operands.toList =
      [',', ' '].intercalate (i.operandList.map Operand.text) := by
  have hoffset : Text.hexDigit offsetRegister = '0' := rfl
  cases i <;>
    simp [operands, operandList, Operand.text, Text.pair, Text.register,
      Text.address, Text.byte, List.intercalate, hoffset]

end Instruction

namespace Listing.Chunk

def operandList (c : Chunk) : List Operand :=
  match c.instruction? with
  | some i => i.operandList
  | none => [.data c.bytes]

theorem toList_operands (c : Chunk) :
    c.operands.toList =
      [',', ' '].intercalate (c.operandList.map Operand.text) := by
  unfold operands operandList
  cases c.instruction? with
  | some i => exact i.toList_operands
  | none => simp [Operand.text, List.intercalate]

def ofOperands? : String → List Operand → Option Chunk
  | "DW", [.data [high, low]] => some (word high low)
  | "DB", [.data [b]] => some (byte b)
  | mnemonic, operands =>
    (Instruction.ofOperands? mnemonic operands).map fun i =>
      word i.toWord.high i.toWord.low

theorem ofOperands?_instruction (i : Instruction) :
    ofOperands? i.mnemonic i.operandList =
      some (word i.toWord.high i.toWord.low) := by
  have hsome := i.ofOperands?_operandList
  have hskip : ofOperands? i.mnemonic i.operandList =
      (Instruction.ofOperands? i.mnemonic i.operandList).map fun i =>
        word i.toWord.high i.toWord.low := by
    cases i <;> rfl
  rw [hskip, hsome, Option.map_some]

theorem ofOperands?_operandList (c : Chunk) :
    ofOperands? c.mnemonic c.operandList = some c := by
  cases c with
  | byte b => rfl
  | word high low =>
      unfold mnemonic operandList instruction?
      dsimp only
      cases hi : Instruction.ofWord? (Word.ofBytes high low) with
      | none => rfl
      | some i =>
          dsimp only
          rw [ofOperands?_instruction, Instruction.toWord_of_ofWord? hi,
            Word.high_ofBytes, Word.low_ofBytes]

end Listing.Chunk

/-! ## Lines -/

/-- Characters that no line uses between its words. -/
def Text.Solid (cs : List Char) : Prop :=
  ∀ c ∈ cs, c ≠ ' ' ∧ c ≠ ','

instance (cs : List Char) : Decidable (Text.Solid cs) :=
  List.decidableBAll (fun c => c ≠ ' ' ∧ c ≠ ',') cs

namespace Text.Solid

theorem append {cs ds : List Char} (hc : Solid cs) (hd : Solid ds) :
    Solid (cs ++ ds) := by
  intro c hmem
  rcases List.mem_append.mp hmem with h | h
  · exact hc c h
  · exact hd c h

theorem cons {c : Char} {cs : List Char} (h : c ≠ ' ' ∧ c ≠ ',')
    (hc : Solid cs) :
    Solid (c :: cs) := by
  intro d hmem
  rcases List.mem_cons.mp hmem with rfl | hd
  · exact h
  · exact hc d hd

theorem hexDigit {d : Nat} (h : d < 16) : Solid [Text.hexDigit d] := by
  have hall : ∀ d : Fin 16, Text.hexDigit d ≠ ' ' ∧ Text.hexDigit d ≠ ',' := by
    decide
  intro c hc
  rw [List.mem_singleton.mp hc]
  exact hall ⟨d, h⟩

theorem fixedHex (w n : Nat) : Solid (Text.fixedHex w n) := by
  induction w generalizing n with
  | zero => intro c hc; cases hc
  | succ w ih =>
    exact (ih (n / 16)).append (hexDigit (Nat.mod_lt n (by decide)))

theorem hexOfBytes (bytes : List UInt8) :
    Solid (bytes.flatMap fun b => Text.fixedHex 2 b.toNat) := by
  intro c hc
  rcases List.mem_flatMap.mp hc with ⟨b, _, hb⟩
  exact fixedHex 2 b.toNat c hb

theorem filter_eq_self {cs : List Char} (h : Solid cs) :
    cs.filter (· ≠ ',') = cs :=
  List.filter_eq_self.mpr fun c hc => by simpa using (h c hc).2

/-- Commas are all that is lost of solid texts that stand in a row. -/
theorem filter_intercalate {texts : List (List Char)}
    (h : ∀ t ∈ texts, Solid t) :
    ([',', ' '].intercalate texts).filter (· ≠ ',') =
      [' '].intercalate texts := by
  induction texts with
  | nil => rfl
  | cons t rest ih =>
      have ht := (h t List.mem_cons_self).filter_eq_self
      cases rest with
      | nil => simpa using ht
      | cons u rest =>
          have hrest := ih fun v hv => h v (List.mem_cons_of_mem t hv)
          rw [List.intercalate_cons_cons, List.intercalate_cons_cons,
            List.filter_append, List.filter_append, ht, hrest]
          rfl

end Text.Solid

namespace Operand

theorem solid_text (o : Operand) : Text.Solid o.text := by
  cases o with
  | register x => exact .cons (by decide) (.hexDigit x.isLt)
  | address nnn => exact .cons (by decide) (.fixedHex 3 nnn)
  | byte kk =>
    exact .cons (by decide) (.cons (by decide) (.fixedHex 2 kk.toNat))
  | rows n =>
      have hall : ∀ n : Nibble, Text.Solid (rows n).text := by decide
      exact hall n
  | data bytes => exact .cons (by decide) (.hexOfBytes bytes)
  | index | indexed | delay | sound | key | glyph | decimal => decide

theorem text_ne_nil (o : Operand) : o.text ≠ [] := by
  cases o with
  | rows n =>
      have hall : ∀ n : Nibble, (rows n).text ≠ [] := by decide
      exact hall n
  | _ => exact List.cons_ne_nil _ _

theorem mapM_ofText?_text (os : List Operand) :
    (os.map text).mapM ofText? = some os := by
  induction os with
  | nil => rfl
  | cons o rest ih =>
      rw [List.map_cons, List.mapM_cons, ofText?_text, ih]
      rfl

end Operand

theorem Operation.solid_mnemonic (o : Operation) :
    Text.Solid o.mnemonic.toList := by
  cases o <;> decide

namespace Listing

theorem Chunk.solid_mnemonic (c : Chunk) : Text.Solid c.mnemonic.toList := by
  unfold Chunk.mnemonic
  split
  · exact Operation.solid_mnemonic _
  · decide
  · decide

def words (line : String) : List (List Char) :=
  (line.toList.filter (· ≠ ',')).splitOn ' '

theorem operands_ne_empty {operands : String} {o : Operand} {os : List Operand}
    (ho : operands.toList =
      [',', ' '].intercalate ((o :: os).map Operand.text)) :
    operands.isEmpty = false := by
  rw [Bool.eq_false_iff, Ne, String.isEmpty_iff]
  rintro rfl
  cases os with
  | nil => exact o.text_ne_nil (by simpa using ho.symm)
  | cons => simp [List.intercalate_cons_cons] at ho

theorem filter_assembly {mnemonic operands : String} {os : List Operand}
    (hm : Text.Solid mnemonic.toList)
    (ho : operands.toList = [',', ' '].intercalate (os.map Operand.text)) :
    (Instruction.assembly mnemonic operands).toList.filter (· ≠ ',') =
      [' '].intercalate (mnemonic.toList :: os.map Operand.text) := by
  cases os with
  | nil =>
      have hempty : operands = "" := String.toList_inj.mp ho
      rw [hempty]
      simpa [Instruction.assembly] using hm.filter_eq_self
  | cons o rest =>
      have hsolid : ∀ t ∈ (o :: rest).map Operand.text, Text.Solid t :=
        List.forall_mem_map.mpr fun o _ => o.solid_text
      have hfilter := Text.Solid.filter_intercalate hsolid
      rw [Instruction.assembly, operands_ne_empty ho,
        if_neg Bool.false_ne_true, String.toList_append, String.toList_append,
        List.filter_append, List.filter_append, hm.filter_eq_self, ho, hfilter,
        List.map_cons, List.intercalate_cons_cons]
      rfl

/-- The first word of an assembly text is its mnemonic, the others are its
operands. -/
theorem words_assembly {mnemonic operands : String} {os : List Operand}
    (hm : Text.Solid mnemonic.toList)
    (ho : operands.toList = [',', ' '].intercalate (os.map Operand.text)) :
    words (Instruction.assembly mnemonic operands) =
      mnemonic.toList :: os.map Operand.text := by
  have hblank : ∀ t ∈ mnemonic.toList :: os.map Operand.text, ' ' ∉ t := by
    refine List.forall_mem_cons.mpr ⟨fun hmem => (hm ' ' hmem).1 rfl, ?_⟩
    exact List.forall_mem_map.mpr fun o _ hmem => (o.solid_text ' ' hmem).1 rfl
  rw [words, filter_assembly hm ho,
    List.splitOn_intercalate ' ' hblank (List.cons_ne_nil _ _)]

def assembleLine? (line : String) : Option Chunk :=
  match words line with
  | [] => none
  | mnemonic :: operands =>
    (operands.mapM Operand.ofText?).bind
      (Chunk.ofOperands? (String.ofList mnemonic))

def assemble? (lines : List String) : Option (List UInt8) :=
  (lines.mapM assembleLine?).map (·.flatMap Chunk.bytes)

theorem assembleLine?_assembly (item : Item) :
    assembleLine? item.assembly = some item.chunk := by
  have hwords :=
    words_assembly item.chunk.solid_mnemonic item.chunk.toList_operands
  unfold assembleLine? Item.assembly Item.mnemonic Item.operands
  rw [hwords]
  dsimp only
  rw [Operand.mapM_ofText?_text, Option.bind_some, String.ofList_toList,
    Chunk.ofOperands?_operandList]

theorem assemble?_assembly (items : List Item) :
    assemble? (items.map Item.assembly) = some (items.flatMap Item.bytes) := by
  have hchunks : (items.map Item.assembly).mapM assembleLine? =
      some (items.map Item.chunk) := by
    induction items with
    | nil => rfl
    | cons item rest ih =>
        rw [List.map_cons, List.mapM_cons, assembleLine?_assembly, ih]
        rfl
  rw [assemble?, hchunks, Option.map_some, List.flatMap_map]
  rfl

/-- The bytes of an item are all that its assembly text depends on. -/
theorem Item.assembly_congr {i i' : Item} (h : i.chunk = i'.chunk) :
    i.assembly = i'.assembly := by
  unfold assembly mnemonic operands
  rw [h]

/-- Neither notes nor addresses have a part in the assembly texts. -/
theorem map_assembly_ofBytes (annotate annotate' : Bool) (base base' : Int)
    (bytes : List UInt8) :
    (ofBytes annotate base 0 bytes).map Item.assembly =
      (ofBytes annotate' base' 0 bytes).map Item.assembly := by
  have hassembly : ∀ items : List Item, items.map Item.assembly =
      ((items.map Item.bare).map Item.chunk).map fun c =>
        Instruction.assembly c.mnemonic c.operands := by
    intro items
    rw [List.map_map, List.map_map]
    rfl
  rw [hassembly, hassembly, map_bare_ofBytes, map_bare_ofBytes,
    map_chunk_itemsFrom base base']

/-- The assembly texts of a listing can be assembled again, so that no two
inputs share them; and the text of a single item tells its bytes. -/
theorem assembly_eq_iff (annotate annotate' : Bool) (base base' : Int)
    (bytes bytes' : List UInt8) :
    assemble? ((ofBytes annotate base 0 bytes).map Item.assembly) =
      some bytes ∧ ((ofBytes annotate base 0 bytes).map Item.assembly =
          (ofBytes annotate' base' 0 bytes').map Item.assembly ↔
        bytes = bytes') ∧
      ∀ i i' : Item, i.assembly = i'.assembly ↔ i.chunk = i'.chunk := by
  have hread : ∀ annotate base bytes,
      assemble? ((ofBytes annotate base 0 bytes).map Item.assembly) =
        some bytes := by
    intro annotate base bytes
    rw [assemble?_assembly, flatMap_bytes_ofBytes]
  refine ⟨hread annotate base bytes, ⟨?_, ?_⟩, fun i i' =>
    ⟨?_, Item.assembly_congr⟩⟩
  · intro h
    have hsame := congrArg assemble? h
    rw [hread, hread] at hsame
    exact Option.some.inj hsame
  · rintro rfl
    exact map_assembly_ofBytes annotate annotate' base base' bytes
  · intro h
    have hsame := congrArg assembleLine? h
    rw [assembleLine?_assembly, assembleLine?_assembly] at hsame
    exact Option.some.inj hsame

end Listing

end Chip8
