import Chip8.Proofs.Accesses
import Chip8.Proofs.Annotation
import Chip8.Proofs.Disassembly
import Chip8.Proofs.Sweep
import Chip8.Summary
import Mathlib.Algebra.BigOperators.Group.List.Basic
import Mathlib.Algebra.GroupWithZero.Nat

/-!
# What a summary tells

A summary gets its numbers in three ways: from the size of the program, from
the listing and from the histogram of the listing. They agree with each other,
and what is said of the fit agrees with what a machine makes of the program
when it is loaded (`Summary.isOf_ofProgram`).

Counting one mnemonic after the other leaves a list that is known as a whole
(`Listing.foldl_countOne`): the names without repetitions, in order, with their
counts. The sort keeps this order where counts are the same, since it is
stable; this is a fact about any stable sort of a list that was in some order
before (`pairwise_mergeSort_of_pairwise`).
-/

namespace Chip8

/-- In a stable sort, elements that may stand in either order keep the one that
they had. -/
theorem pairwise_mergeSort_of_pairwise {α : Type} {le : α → α → Bool}
    {P : α → α → Prop} (htrans : ∀ a b c, le a b → le b c → le a c)
    (htotal : ∀ a b, le a b || le b a) {l : List α} (h : l.Pairwise P) :
    (l.mergeSort le).Pairwise fun a b => le a b ∧ (le b a → P a b) := by
  induction h with
  | nil => simp
  | @cons a l ha _ ih =>
      obtain ⟨before, after, hsort, hsort', hbefore⟩ :=
        List.mergeSort_cons htrans htotal a l
      have hmem {b : α} (hb : b ∈ before ∨ b ∈ after) : b ∈ l := by
        rw [← (List.mergeSort_perm l le).mem_iff, hsort']
        exact List.mem_append.mpr hb
      have hle := List.pairwise_mergeSort htrans htotal (a :: l)
      rw [hsort'] at ih
      rw [hsort] at hle ⊢
      obtain ⟨ihbefore, ihafter, ihacross⟩ := List.pairwise_append.mp ih
      obtain ⟨-, hlea, hleb⟩ := List.pairwise_append.mp hle
      have hfirst : ∀ c ∈ after, le a c ∧ (le c a → P a c) := fun c hc =>
        ⟨(List.pairwise_cons.mp hlea).1 c hc, fun _ => ha c (hmem (.inr hc))⟩
      refine List.pairwise_append.mpr
        ⟨ihbefore, List.pairwise_cons.mpr ⟨hfirst, ihafter⟩, ?_⟩
      intro b hb c hc
      rcases List.mem_cons.mp hc with rfl | hc
      · -- what was sorted in front of the first element is not behind it
        exact ⟨hleb b hb c List.mem_cons_self, fun h =>
          absurd h (by simpa using hbefore b hb)⟩
      · exact ihacross b hb c hc

namespace Listing

/-! ## Counting -/

theorem countOne_of_not_mem {counts : List (String × Nat)} {x : String}
    (h : x ∉ counts.map Prod.fst) :
    countOne counts x = counts ++ [(x, 1)] := by
  induction counts with
  | nil => rfl
  | cons entry rest ih =>
      have hne : ¬ entry.1 = x := fun heq => h (heq ▸ List.mem_cons_self)
      rw [countOne, if_neg hne, ih (fun hx => h (List.mem_cons_of_mem _ hx)),
        List.cons_append]

theorem countOne_of_mem {keys : List String} {x : String} (hnodup : keys.Nodup)
    (h : x ∈ keys) (f : String → Nat) :
    countOne (keys.map fun m => (m, f m)) x =
      keys.map fun m => (m, f m + if x = m then 1 else 0) := by
  induction hnodup with
  | nil => exact absurd h List.not_mem_nil
  | @cons k keys hk _ ih =>
      rw [List.map_cons, List.map_cons, countOne]
      split
      next heq =>
        subst heq
        have hrest : keys.map (fun m => (m, f m)) =
            keys.map fun m => (m, f m + if k = m then 1 else 0) :=
          List.map_congr_left fun m hm => by simp [hk m hm]
        rw [if_pos rfl, hrest]
      next hne =>
        have hmem : x ∈ keys := (List.mem_cons.mp h).resolve_left (Ne.symm hne)
        rw [ih hmem, if_neg (Ne.symm hne), Nat.add_zero]

/-- The counts are those of the names that occur, in the order in which they
do. -/
theorem foldl_countOne (names : List String) :
    names.foldl countOne [] = names.eraseDups.map fun m =>
      (m, names.count m) := by
  induction names using List.reverseRecOn with
  | nil => rfl
  | append_singleton names x ih =>
      have hcount (m : String) :
          (names ++ [x]).count m = names.count m + if x = m then 1 else 0 := by
        simp [List.count_append, List.count_singleton]
      rw [List.foldl_append, List.foldl_cons, List.foldl_nil, ih,
        eraseDups_concat]
      simp only [hcount]
      split
      next hx =>
        exact countOne_of_mem (nodup_eraseDups names)
          (List.mem_eraseDups.mpr hx) _
      next hx =>
        have hkeys :
            x ∉ (names.eraseDups.map fun m => (m, names.count m)).map
              Prod.fst := by
          simpa using hx
        have hold : names.eraseDups.map (fun m => (m, names.count m)) =
            names.eraseDups.map fun m =>
              (m, names.count m + if x = m then 1 else 0) := by
          refine List.map_congr_left fun m hm => ?_
          have hne : x ≠ m := fun h => hx (h ▸ List.mem_eraseDups.mp hm)
          rw [if_neg hne, Nat.add_zero]
        rw [countOne_of_not_mem hkeys, List.map_append, hold,
          List.map_singleton, List.count_eq_zero_of_not_mem hx, if_pos rfl]

abbrev mnemonics (items : List Item) : List String :=
  items.map Item.mnemonic

theorem counts_eq (items : List Item) :
    counts items = (mnemonics items).eraseDups.map fun m =>
      (m, (mnemonics items).count m) :=
  foldl_countOne _

theorem histogram_perm (items : List Item) :
    (histogram items).Perm (counts items) :=
  List.mergeSort_perm _ _

theorem mem_histogram_iff (items : List Item) {m : String} {n : Nat} :
    (m, n) ∈ histogram items ↔ n = (mnemonics items).count m ∧ 0 < n := by
  rw [(histogram_perm items).mem_iff, counts_eq, List.mem_map]
  constructor
  · rintro ⟨k, hk, heq⟩
    obtain ⟨rfl, rfl⟩ := Prod.mk.inj heq
    exact ⟨rfl, List.count_pos_iff.mpr (List.mem_eraseDups.mp hk)⟩
  · rintro ⟨rfl, hpos⟩
    exact ⟨m, List.mem_eraseDups.mpr (List.count_pos_iff.mp hpos), rfl⟩

theorem nodup_map_fst_histogram (items : List Item) :
    ((histogram items).map Prod.fst).Nodup := by
  rw [((histogram_perm items).map Prod.fst).nodup_iff, counts_eq, List.map_map]
  have hkeys : (Prod.fst ∘ fun m => (m, (mnemonics items).count m)) = id := rfl
  rw [hkeys, List.map_id]
  exact nodup_eraseDups _

theorem getD_lookup_histogram (items : List Item) (m : String) :
    ((histogram items).lookup m).getD 0 = (mnemonics items).count m := by
  cases h : (histogram items).lookup m with
  | some n =>
      obtain ⟨before, after, hsplit, -⟩ := List.lookup_eq_some_iff.mp h
      have hmem : (m, n) ∈ histogram items := by
        rw [hsplit]
        exact List.mem_append_right _ List.mem_cons_self
      exact ((mem_histogram_iff items).mp hmem).1
  | none =>
      by_contra hne
      have hmem : (m, (mnemonics items).count m) ∈ histogram items :=
        (mem_histogram_iff items).mpr ⟨rfl, Nat.pos_of_ne_zero (Ne.symm hne)⟩
      have := List.lookup_eq_none_iff.mp h _ hmem
      simp at this

theorem sum_countOne (counts : List (String × Nat)) (x : String) :
    ((countOne counts x).map Prod.snd).sum =
      (counts.map Prod.snd).sum + 1 := by
  induction counts with
  | nil => rfl
  | cons entry rest ih =>
      rw [countOne]
      split
      · simp only [List.map_cons, List.sum_cons]
        omega
      · simp only [List.map_cons, List.sum_cons, ih]
        omega

theorem sum_foldl_countOne (names : List String) :
    ((names.foldl countOne []).map Prod.snd).sum = names.length := by
  induction names using List.reverseRecOn with
  | nil => rfl
  | append_singleton names x ih =>
      rw [List.foldl_append, List.foldl_cons, List.foldl_nil, sum_countOne, ih,
        List.length_append, List.length_singleton]

theorem sum_histogram (items : List Item) :
    ((histogram items).map Prod.snd).sum = items.length := by
  rw [((histogram_perm items).map Prod.snd).sum_eq, counts, sum_foldl_countOne,
    List.length_map]

theorem pairwise_eraseDups (names : List String) :
    names.eraseDups.Pairwise fun m m' => names.idxOf m < names.idxOf m' := by
  induction names using List.reverseRecOn with
  | nil => exact .nil
  | append_singleton names x ih =>
      have hold {m : String} (hm : m ∈ names.eraseDups) :
          (names ++ [x]).idxOf m = names.idxOf m :=
        List.idxOf_append_of_mem (List.mem_eraseDups.mp hm)
      have hpairs : names.eraseDups.Pairwise fun m m' =>
          (names ++ [x]).idxOf m < (names ++ [x]).idxOf m' :=
        ih.imp_of_mem fun hm hm' hlt => by rwa [hold hm, hold hm']
      rw [eraseDups_concat]
      split
      next => exact hpairs
      next hx =>
        refine List.pairwise_append.mpr
          ⟨hpairs, List.pairwise_singleton _ _, ?_⟩
        intro m hm m' hm'
        obtain rfl := List.mem_singleton.mp hm'
        rw [hold hm, List.idxOf_append_of_notMem hx]
        have := List.idxOf_lt_length_iff.mpr (List.mem_eraseDups.mp hm)
        omega

/-- Names that occur more often come first, and among those that occur equally
often the one that occurs first. -/
theorem pairwise_histogram (items : List Item) :
    (histogram items).Pairwise fun a b =>
      b.2 < a.2 ∨
        (b.2 = a.2 ∧
          (mnemonics items).idxOf a.1 < (mnemonics items).idxOf b.1) := by
  have hfirst : (counts items).Pairwise fun a b =>
      (mnemonics items).idxOf a.1 < (mnemonics items).idxOf b.1 := by
    rw [counts_eq, List.pairwise_map]
    exact pairwise_eraseDups _
  refine (pairwise_mergeSort_of_pairwise ?_ ?_ hfirst).imp ?_
  · intro a b c
    simp only [decide_eq_true_eq]
    omega
  · intro a b
    simp only [Bool.or_eq_true, decide_eq_true_eq]
    omega
  · rintro a b ⟨hle, htie⟩
    simp only [decide_eq_true_eq] at hle htie
    rcases hle.lt_or_eq with hlt | heq
    · exact .inl hlt
    · exact .inr ⟨heq, htie heq.ge⟩

/-! ## Words -/

theorem Item.mnemonic_eq_dataWord_iff_isData (item : Item) :
    item.mnemonic = "DW" ↔ item.isData = true ∧ item.length = 2 := by
  rw [Item.isData, Option.isNone_iff_eq_none]
  by_cases h : item.length = 2
  · rw [Item.mnemonic_eq_dataWord_iff h, and_iff_left h]
  · obtain ⟨b, hchunk⟩ : ∃ b, item.chunk = .byte b := by
      cases hchunk : item.chunk with
      | word high low =>
        exact absurd (item.length_eq_two_iff.mpr ⟨high, low, hchunk⟩) h
      | byte b => exact ⟨b, rfl⟩
    have hbyte : (Chunk.byte b).mnemonic = "DB" := rfl
    refine iff_of_false ?_ fun hdata => h hdata.2
    rw [Item.mnemonic, hchunk, hbyte]
    decide

theorem countP_isData_words (items : List Item) :
    (items.filter (·.length = 2)).countP (·.isData) =
      (mnemonics items).count "DW" := by
  rw [List.countP_filter, List.count, List.countP_map]
  refine List.countP_congr fun item _ => ?_
  simp [item.mnemonic_eq_dataWord_iff_isData]

theorem length_words_itemsFrom (base : Int) (bytes : List UInt8) :
    ((itemsFrom base bytes).filter (·.length = 2)).length =
      bytes.length / 2 := by
  induction base, bytes using itemsFrom.induct with
  | case1 => rfl
  | case2 base b =>
      have hbyte : (⟨base, .byte b, []⟩ : Item).length = 1 := rfl
      simp [hbyte]
  | case3 base high low rest ih =>
      have hword : (⟨base, .word high low, []⟩ : Item).length = 2 := rfl
      rw [itemsFrom_cons_cons, List.filter_cons_of_pos (by simpa using hword),
        List.length_cons, ih, List.length_cons, List.length_cons]
      omega

theorem count_dataByte_itemsFrom (base : Int) (bytes : List UInt8) :
    (mnemonics (itemsFrom base bytes)).count "DB" = bytes.length % 2 := by
  induction base, bytes using itemsFrom.induct with
  | case1 => rfl
  | case2 => rfl
  | case3 base high low rest ih =>
      have hword : (⟨base, .word high low, []⟩ : Item).mnemonic ≠ "DB" :=
        Chunk.mnemonic_word_ne_dataByte high low
      rw [itemsFrom_cons_cons, mnemonics, List.map_cons,
        List.count_cons_of_ne hword, ih, List.length_cons, List.length_cons]
      omega

/-- The mnemonics depend neither on the notes nor on the base. -/
theorem mnemonics_ofBytes (annotate : Bool) (base base' : Int)
    (bytes : List UInt8) :
    mnemonics (ofBytes annotate base 0 bytes) =
      mnemonics (itemsFrom base' bytes) := by
  have hbare : mnemonics (itemsFrom base bytes) =
      mnemonics (ofBytes annotate base 0 bytes) := by
    rw [← map_bare_ofBytes annotate]
    exact List.map_map
  have hchunks (base : Int) : mnemonics (itemsFrom base bytes) =
      ((itemsFrom base bytes).map Item.chunk).map Chunk.mnemonic :=
        List.map_map.symm
  rw [← hbare, hchunks, map_chunk_itemsFrom base base', ← hchunks]

end Listing

/-! ## Loading -/

namespace Memory

/-- Of the bytes of a program those are faults that lie behind the memory. -/
theorem count_faults_load (m : Memory) (base : Nat) (data : List UInt8) :
    (m.load base data).faults.count =
      m.faults.count + (data.length - (memorySize - base)) := by
  induction data generalizing m base with
  | nil => simp
  | cons b rest ih =>
      have hnext : (base : Int) + 1 = (base + 1 : Nat) := rfl
      rw [load_cons, hnext, ih, faults_write, FaultLog.note_eq,
        List.length_cons]
      simp only [memorySize]
      split
      · omega
      · simp only [FaultLog.record]
        omega

theorem bytes_load_take (m : Memory) (base : Nat) (data : List UInt8) :
    (m.load base data).bytes =
      (m.load base (data.take (memorySize - base))).bytes := by
  have hbyte (a : Address) : (m.load base data).byteAt a =
      (m.load base (data.take (memorySize - base))).byteAt a := by
    rw [byteAt_load, byteAt_load]
    split
    · rfl
    · rw [List.getElem?_take_of_lt
        (by have := a.isLt; simp only [memorySize]; omega)]
  exact Vector.ext fun i hi => hbyte ⟨i, hi⟩

end Memory

/-- How a program fits, told by a memory into which it was loaded. The faults
are as many bytes at its end, which are dropped; those in front of them are
stored. -/
structure Fit.IsOf (fit : Fit) (program : List UInt8) (m : Memory) : Prop where
  tooLarge_iff (k : Nat) :
    fit = .tooLarge k ↔ 0 < m.faults.count ∧ k = m.faults.count
  fits_iff (free : Nat) :
    fit = .fits free ↔ m.faults.count = 0 ∧ free + program.length = 3584
  stored (i : Nat) : i + m.faults.count < program.length →
    program[i]? = some (m.read (programStart + i)).1
  dropped : m.bytes =
    (Memory.powerOn.load programStart
      (program.take (program.length - m.faults.count))).bytes

theorem Fit.isOf_load (program : List UInt8) :
    (Fit.ofSize program.length).IsOf program
      (Memory.powerOn.load programStart program) := by
  have hcount : (Memory.powerOn.load programStart program).faults.count =
      program.length - 3584 := by
    rw [Memory.count_faults_load]
    exact Nat.zero_add _
  have hcapacity : capacity = 3584 := rfl
  constructor
  · intro k
    rw [hcount, ofSize, hcapacity]
    split
    · rw [tooLarge.injEq]
      omega
    · exact iff_of_false nofun (by omega)
  · intro free
    rw [hcount, ofSize, hcapacity]
    split
    · exact iff_of_false nofun (by omega)
    · rw [fits.injEq]
      omega
  · intro i hi
    rw [hcount] at hi
    obtain ⟨a, ha, hval⟩ : ∃ a : Address,
        Address.ofInt? (programStart + i) = some a ∧
          (a.val : Int) = programStart + i :=
      Address.exists_ofInt? (by simp only [programStart]; omega)
    have hindex : ((a.val : Int) - programStart).toNat = i := by omega
    rw [Memory.read_inside _ ha, Memory.byteAt_load, if_neg (by omega), hindex,
      List.getElem?_eq_getElem (by omega), Option.getD_some]
  · have htake : program.take (program.length - (program.length - 3584)) =
        program.take (memorySize - programStart) := by
      rw [List.take_eq_take_iff]
      simp only [memorySize, programStart]
      omega
    rw [hcount, htake]
    exact Memory.bytes_load_take _ _ _

/-- What is said of the fit, told by the faults. -/
theorem Fit.text_of_isOf {fit : Fit} {program : List UInt8} {m : Memory}
    (h : fit.IsOf program m) :
    fit.text =
      if 0 < m.faults.count then
        "TOO LARGE by " ++ toString m.faults.count ++
          " bytes (program area $200-$FFF holds 3584)"
      else "OK (" ++ toString (3584 - program.length) ++ " bytes free)" := by
  unfold Fit.text
  cases fit with
  | fits free =>
      obtain ⟨hnone, hfree⟩ := (h.fits_iff free).mp rfl
      have hleft : free = 3584 - program.length := by omega
      rw [if_neg (Nat.not_lt.mpr (Nat.le_of_eq hnone)), ← hleft]
  | tooLarge k =>
      obtain ⟨hsome, rfl⟩ := (h.tooLarge_iff k).mp rfl
      have harea : " bytes (program area $" ++ (Text.hex 3 programStart ++
          ("-$FFF holds " ++ (toString Fit.capacity ++ ")"))) =
          " bytes (program area $200-$FFF holds 3584)" := by decide +kernel
      rw [if_pos hsome, ← harea]
      simp only [String.append_assoc]

/-! ## The summary -/

namespace Summary

open Listing

/-- What is true of the summary of a program. Listings count, whatever their
notes and their base; the fit is told by any fresh machine. -/
structure IsOf (s : Summary) (program : List UInt8) : Prop where
  words : s.words = program.length / 2
  dataWords : s.dataWords = (s.histogram.lookup "DW").getD 0
  dataByte : (s.histogram.lookup "DB").getD 0 = program.length % 2
  total : (s.histogram.map Prod.snd).sum = (program.length + 1) / 2
  entries (annotate : Bool) (base : Int) (m : String) (n : Nat) :
    (m, n) ∈ s.histogram ↔
    n = (ofBytes annotate base 0 program).countP (·.mnemonic = m) ∧ 0 < n
  nodup : (s.histogram.map Prod.fst).Nodup
  order (annotate : Bool) (base : Int) : s.histogram.Pairwise fun a b =>
    b.2 < a.2 ∨
      (b.2 = a.2 ∧
        (mnemonics (ofBytes annotate base 0 program)).idxOf a.1 <
          (mnemonics (ofBytes annotate base 0 program)).idxOf b.1)
  fit {ρ δ : Type} (config : Config) (random : ρ) (devices : δ)
    (name : String) :
    s.fit.IsOf program
      ((Machine.powerOn config random devices).load name programStart
        program).core.memory
  shown {ρ δ : Type} (config : Config) (random : ρ) (devices : δ)
    (name : String) :
    let m := (Machine.powerOn config random devices).load name programStart
      program
    let dropped := m.core.memory.faults.count
    s.lines name =
      ["File:     " ++ name,
        "Size:     " ++ toString program.length ++ " bytes",
        "MD5:      " ++ MD5.hexDigest program,
        "Fit:      " ++
          if 0 < dropped then
            "TOO LARGE by " ++ toString dropped ++
              " bytes (program area $200-$FFF holds 3584)"
          else "OK (" ++ toString (3584 - program.length) ++ " bytes free)"] ++
      (if program.length % 2 = 1 then
          ["Note:     odd length, last byte is data"]
        else []) ++
      ["Words:    " ++ toString (program.length / 2) ++ " (" ++
          toString ((s.histogram.lookup "DW").getD 0) ++
          " not decodable as instructions)",
        "Opcodes:"] ++
      s.histogram.map fun (m, n) =>
        "  " ++ (m ++ String.ofList (List.replicate (5 - m.length) ' ')) ++
          " " ++ (String.ofList
            (List.replicate (5 - (toString n).length) ' ') ++ toString n)

/-- A summary agrees with the listings of the program and with loading it. -/
theorem isOf_ofProgram (program : List UInt8) :
    (ofProgram program).IsOf program := by
  have hmnemonics (annotate : Bool) (base : Int) :
      mnemonics (ofBytes annotate base 0 program) =
        mnemonics (ofBytes false programStart 0 program) := by
    rw [mnemonics_ofBytes annotate base 0,
      mnemonics_ofBytes false programStart 0]
  have hwords : (ofProgram program).words = program.length / 2 :=
    length_words_itemsFrom programStart program
  have hdata : (ofProgram program).dataWords =
      ((ofProgram program).histogram.lookup "DW").getD 0 :=
    (countP_isData_words _).trans (getD_lookup_histogram _ _).symm
  have hfit {ρ δ : Type} (config : Config) (random : ρ) (devices : δ)
      (name : String) :
        (ofProgram program).fit.IsOf program
          ((Machine.powerOn config random devices).load name programStart
            program).core.memory := by
    rw [Machine.memory_load]
    exact Fit.isOf_load program
  constructor
  · exact hwords
  · exact hdata
  · exact (getD_lookup_histogram _ _).trans
      (count_dataByte_itemsFrom programStart program)
  · exact (sum_histogram _).trans (length_itemsFrom programStart program)
  · intro annotate base m n
    have hcount : (ofBytes annotate base 0 program).countP (·.mnemonic = m) =
        (mnemonics (ofBytes false programStart 0 program)).count m := by
      rw [← hmnemonics annotate base, List.count, List.countP_map]
      rfl
    rw [hcount]
    exact mem_histogram_iff _
  · exact nodup_map_fst_histogram _
  · intro annotate base
    rw [hmnemonics annotate base]
    exact pairwise_histogram _
  · exact hfit
  · intro ρ δ config random devices name m dropped
    rw [lines, hwords, hdata,
      Fit.text_of_isOf (hfit config random devices name)]
    rfl

/-- Two jumps around a word that is no instruction, and a last odd byte; and a
program that is too long by two bytes. -/
theorem summary_of_two_jumps :
    let program : List UInt8 := [0x12, 0x02, 0x80, 0x08, 0x12, 0x00, 0x12]
    let s := ofProgram program
    s.words = 3 ∧ (s.histogram.lookup "DB").getD 0 = 1 ∧
      ("JP", 2) ∈ s.histogram ∧ ("DW", 1) ∈ s.histogram ∧ s.fit = .fits 3577 ∧
      (s.lines "jumps").drop 3 =
        ["Fit:      OK (3577 bytes free)",
          "Note:     odd length, last byte is data",
          "Words:    3 (1 not decodable as instructions)", "Opcodes:",
          "  JP        2", "  DW        1", "  DB        1"] ∧
      "Fit:      TOO LARGE by 2 bytes (program area $200-$FFF holds 3584)" ∈
        (ofProgram (List.replicate 3586 0)).lines "long" := by
  intro program s
  have h : s.IsOf program := isOf_ofProgram program
  refine ⟨h.words.trans (by decide), h.dataByte.trans (by decide), ?_, ?_, ?_,
    ?_, ?_⟩
  · exact (h.entries true 0 "JP" 2).mpr ⟨by decide +kernel, by decide⟩
  · exact (h.entries true 0 "DW" 1).mpr ⟨by decide +kernel, by decide⟩
  · refine ((h.fit {} () () "jumps").fits_iff 3577).mpr ⟨?_, rfl⟩
    decide +kernel
  · have hcounts : counts (ofBytes false programStart 0 program) =
        [("JP", 2), ("DW", 1), ("DB", 1)] := by decide +kernel
    have hhistogram : s.histogram = [("JP", 2), ("DW", 1), ("DB", 1)] := by
      change Listing.histogram (ofBytes false programStart 0 program) = _
      rw [Listing.histogram, hcounts]
      exact List.mergeSort_of_pairwise (by decide)
    rw [h.shown {} () () "jumps", hhistogram]
    decide +kernel
  · have hdropped : ((Machine.powerOn {} () ()).load "long" programStart
        (List.replicate 3586 0)).core.memory.faults.count = 2 := by
      rw [Machine.memory_load, Memory.count_faults_load, List.length_replicate]
      rfl
    rw [(isOf_ofProgram (List.replicate 3586 0)).shown {} () () "long"]
    dsimp only
    rw [hdropped]
    refine List.mem_append_left _
      (List.mem_append_left _ (List.mem_append_left _ ?_))
    refine List.mem_of_getElem? (i := 3) (congrArg some ?_)
    decide +kernel

end Summary

end Chip8
