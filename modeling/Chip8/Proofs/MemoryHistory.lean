import Chip8.Proofs.Accesses
import Mathlib.Data.List.Induction

/-!
# What a memory remembers

A history of a memory is a list of requests: bytes are read, integers are
written, programs are loaded, at any addresses and in any order. The memory
after it is told by two lists that do not look into the memory: the values that
were written with their addresses (`Request.written`) and the accesses that
were made (`Request.accesses`). A byte holds the last value that was written to
its address (`lastWritten`), and the faults are the accesses outside
(`outside`), of which the log keeps the last.
-/

namespace Chip8

namespace Memory

/-- One use of a memory. Addresses and values may be any integers. -/
inductive Request where
  | read (a : Int)
  | write (a value : Int)
  | load (base : Int) (data : List UInt8)

def after (m : Memory) : Request → Memory
  | .read a => (m.read a).2
  | .write a value => m.write a (Arithmetic.lowByte value)
  | .load base data => m.load base data

/-- What a request returns: the byte that was read, or how many bytes were
offered. -/
def answer (m : Memory) : Request → Option Int
  | .read a => some (m.read a).1.toNat
  | .write _ _ => none
  | .load _ data => some data.length

theorem answer_read (m : Memory) (a : Address) :
    m.answer (.read a.val) = some ((m.byteAt a).toNat : Int) := by
  rw [answer, read_inside m (Address.ofInt?_val a)]

def Request.written : Request → List (Int × Int)
  | .read _ => []
  | .write a value => [(a, value)]
  | .load base data => data.mapIdx fun i b => (base + i, (b.toNat : Int))

def Request.accesses : Request → List (AccessKind × Int)
  | .read a => [(.read, a)]
  | .write a _ => [(.write, a)]
  | .load base data => data.mapIdx fun i _ => (.write, base + i)

def lastValue (written : List (Int × Int)) (a : Int) : Option Int :=
  ((written.filter (·.1 = a)).getLast?).map (·.2)

theorem lastValue_append (written written' : List (Int × Int)) (a : Int) :
    lastValue (written ++ written') a =
      (lastValue written' a).or (lastValue written a) := by
  rw [lastValue, List.filter_append, List.getLast?_append, lastValue,
    lastValue]
  cases (written'.filter (·.1 = a)).getLast? <;> rfl

/-- What becomes of the byte at an address when some values are written. -/
def overwritten (written : List (Int × Int)) (a : Int) (b : UInt8) : UInt8 :=
  ((lastValue written a).map Arithmetic.lowByte).getD b

theorem overwritten_append (written written' : List (Int × Int)) (a : Int)
    (b : UInt8) :
    overwritten (written ++ written') a b =
      overwritten written' a (overwritten written a b) := by
  rw [overwritten, lastValue_append, overwritten, overwritten]
  cases lastValue written' a <;> rfl

theorem mapIdx_offset_cons {α β : Type} (f : Int → α → β) (base : Int) (x : α)
    (xs : List α) :
    (x :: xs).mapIdx (fun i y => f (base + i) y) =
      f base x :: xs.mapIdx fun i y => f (base + 1 + i) y := by
  rw [List.mapIdx_cons]
  have hbase : base + ((0 : Nat) : Int) = base := by omega
  have hnext (i : Nat) : base + ((i + 1 : Nat) : Int) = base + 1 + i := by
    omega
  simp only [hbase, hnext]

/-! ## One request -/

theorem after_load_cons (m : Memory) (base : Int) (b : UInt8)
    (rest : List UInt8) :
    m.after (.load base (b :: rest)) =
      (m.after (.write base b.toNat)).after (.load (base + 1) rest) := by
  rw [after, after, after, Arithmetic.lowByte_toNat, load_cons]

theorem after_load (m : Memory) (base : Int) (data : List UInt8) :
    m.after (.load base data) =
      (data.mapIdx fun i b => Request.write (base + i) b.toNat).foldl after
        m := by
  induction data generalizing m base with
  | nil => rfl
  | cons b rest ih =>
      rw [after_load_cons, ih, mapIdx_offset_cons fun (a : Int) (b : UInt8) =>
        Request.write a b.toNat]
      rfl

theorem byteAt_after_write (m : Memory) (z value : Int) (a : Address) :
    (m.after (.write z value)).byteAt a =
      overwritten [(z, value)] a.val (m.byteAt a) := by
  rw [after, byteAt_write, overwritten]
  by_cases hz : z = a.val <;> simp [lastValue, hz]

theorem byteAt_after (m : Memory) (r : Request) (a : Address) :
    (m.after r).byteAt a = overwritten r.written a.val (m.byteAt a) := by
  cases r with
  | read z => exact congrArg (·.get a) (Machine.read_bytes m z)
  | write z value => exact byteAt_after_write m z value a
  | load base data =>
      induction data generalizing m base with
      | nil => rfl
      | cons b rest ih =>
          rw [after_load_cons, ih, byteAt_after_write, ← overwritten_append,
            Request.written, Request.written,
            mapIdx_offset_cons fun (a : Int) (b : UInt8) =>
            (a, (b.toNat : Int))]
          rfl

theorem faults_after (m : Memory) (r : Request) :
    (m.after r).faults = r.accesses.foldl FaultLog.note m.faults := by
  cases r with
  | read a => exact m.faults_read a
  | write a value => exact m.faults_write a _
  | load base data =>
      induction data generalizing m base with
      | nil => rfl
      | cons b rest ih =>
          rw [after_load_cons, ih, after, faults_write, Request.accesses,
            Request.accesses, mapIdx_offset_cons fun (a : Int) (_ : UInt8) =>
            (AccessKind.write, a)]
          rfl

/-! ## Histories -/

def lastWritten (history : List Request) (a : Int) : Option Int :=
  lastValue (history.flatMap Request.written) a

def outside (history : List Request) : List Fault :=
  FaultLog.among (history.flatMap Request.accesses)

def initial (a : Int) : Int :=
  if a < 80 then (Glyph.bytes[a.toNat]?.getD 0).toNat else 0

theorem toNat_byteAt_powerOn (a : Address) :
    ((powerOn.byteAt a).toNat : Int) = initial a.val := by
  unfold initial
  split
  next hglyph =>
    rw [Int.toNat_natCast, powerOn_byteAt (by omega), Option.getD_some]
  next hzero =>
    have hlength : Glyph.bytes.length = 80 := by decide
    have hbyte : (Glyph.bytes ++ List.replicate 4016 0)[a.val]? =
        some (powerOn.byteAt a) :=
      getElem?_eq_get _ a
    rw [List.getElem?_append_right (by omega),
      List.getElem?_replicate_of_lt (by omega)] at hbyte
    rw [← Option.some.inj hbyte]
    rfl

theorem byteAt_history (history : List Request) (m : Memory) (a : Address) :
    (history.foldl after m).byteAt a =
      overwritten (history.flatMap Request.written) a.val (m.byteAt a) := by
  -- the last request decides, so the histories grow at their end
  induction history using List.reverseRecOn with
  | nil => rfl
  | append_singleton history r ih =>
      rw [List.foldl_append, List.foldl_cons, List.foldl_nil, byteAt_after, ih,
        List.flatMap_append, List.flatMap_singleton, overwritten_append]

theorem faults_history (history : List Request) (m : Memory) :
    (history.foldl after m).faults =
      (history.flatMap Request.accesses).foldl FaultLog.note m.faults := by
  induction history generalizing m with
  | nil => rfl
  | cons r rest ih =>
      rw [List.foldl_cons, ih, faults_after, List.flatMap_cons,
        List.foldl_append]

/-- What is true of a memory after a history. -/
structure Recalls (m : Memory) (history : List Request) : Prop where
  read_inside (a : Int) : 0 ≤ a → a ≤ 0xFFF →
    m.answer (.read a) =
      some (((lastWritten history a).map (· % 256)).getD (initial a))
  read_outside (a : Int) : a < 0 ∨ 0xFFF < a → m.answer (.read a) = some 0
  write_outside (a value : Int) : a < 0 ∨ 0xFFF < a →
    (m.after (.write a value)).bytes = m.bytes
  load (base : Int) (data : List UInt8) :
    m.answer (.load base data) = some (data.length : Int) ∧
      m.after (.load base data) =
        (data.mapIdx fun i b => Request.write (base + i) b.toNat).foldl after m
  count : m.faults.count = (outside history).length
  kept : m.faults.kept =
    (outside history).drop ((outside history).length - 256)

/-- After any history from power-on a byte is what was last written to its
address, and the faults are the accesses outside, of which the last ones are
kept. -/
theorem recalls_of_history (history : List Request) :
    (history.foldl after powerOn).Recalls history where
  read_inside a h₀ h₁ := by
    obtain ⟨place, rfl⟩ : ∃ place : Address, a = place.val :=
      ⟨⟨a.toNat, by omega⟩, (Int.toNat_of_nonneg h₀).symm⟩
    rw [answer_read, byteAt_history, overwritten, ← lastWritten]
    cases lastWritten history place.val with
    | none => exact congrArg some (toNat_byteAt_powerOn place)
    | some value => exact congrArg some (Arithmetic.toNat_lowByte value)
  read_outside a ha := by
    have hnone : Address.ofInt? a = none :=
      (Address.ofInt?_eq_none_iff a).mpr (by omega)
    simp [answer, read, hnone]
  write_outside a value ha := by
    have hnone : Address.ofInt? a = none :=
      (Address.ofInt?_eq_none_iff a).mpr (by omega)
    simp [after, write, hnone, record]
  load base data := ⟨rfl, after_load _ base data⟩
  count := by
    rw [faults_history, FaultLog.foldl_note,
      (FaultLog.adds_foldl_record _ _).count]
    exact Nat.zero_add _
  kept := by
    have hempty : powerOn.faults.kept = [] := rfl
    have hkept :=
      (FaultLog.adds_foldl_record (outside history) powerOn.faults).kept
    rw [hempty, List.nil_append, List.length_nil, Nat.zero_add] at hkept
    rw [faults_history, FaultLog.foldl_note]
    exact hkept (Nat.zero_le _)

/-- A load that begins below memory, a value of more than a byte over what it
left, and accesses outside on both sides. -/
theorem straddling_load_recalled :
    let history :=
  [.load (-2) [1, 2, 3, 4], .write 0 0x1FF, .write (-5) 7, .read 0x1000]
    let m := history.foldl after powerOn
    m.answer (.read 0) = some 0xFF ∧ m.answer (.read 1) = some 4 ∧
      m.answer (.read 2) = some 0x90 ∧ m.answer (.read (-1)) = some 0 ∧
      m.faults.count = 4 ∧
      m.faults.kept =
        [⟨.write, -2⟩, ⟨.write, -1⟩, ⟨.write, -5⟩, ⟨.read, 0x1000⟩] := by
  intro history m
  have hrecalls := recalls_of_history history
  refine ⟨?_, ?_, ?_, ?_, ?_, ?_⟩
  · exact (hrecalls.read_inside 0 (by decide) (by decide)).trans (by decide)
  · exact (hrecalls.read_inside 1 (by decide) (by decide)).trans (by decide)
  · exact (hrecalls.read_inside 2 (by decide) (by decide)).trans (by decide)
  · exact hrecalls.read_outside (-1) (by decide)
  · exact hrecalls.count.trans (by decide)
  · exact hrecalls.kept.trans (by decide)

end Memory

end Chip8
