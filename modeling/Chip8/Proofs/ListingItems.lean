import Chip8.Listing

/-!
# The items of a listing

Without its notes a whole listing is `Listing.itemsFrom`, whose recursion gives
the two facts that everything about listings rests on: the bytes of the items
are the input (`flatMap_bytes_ofBytes`), and the item of a given number is told
by two bytes of the input (`getElem?_itemsFrom`). So the items of two bytes are
the pairs at even distances from the start (`exists_word_mem_ofBytes_iff`).
-/

namespace Chip8.Listing

def Item.bare (i : Item) : Item :=
  { i with uses := [] }

theorem Item.length_eq_two_iff (i : Item) :
    i.length = 2 ↔ ∃ high low, i.chunk = .word high low := by
  unfold Item.length Item.bytes
  cases i.chunk <;> simp [Chunk.bytes]

theorem map_bare_itemsFrom (base : Int) (bytes : List UInt8) :
    (itemsFrom base bytes).map Item.bare = itemsFrom base bytes := by
  induction base, bytes using itemsFrom.induct with
  | case1 => rfl
  | case2 => rfl
  | case3 base high low rest ih =>
      rw [itemsFrom_cons_cons, List.map_cons, ih]
      rfl

theorem map_bare_ofBytes_limited (annotate : Bool) (base limit : Int)
    (bytes : List UInt8) :
    (ofBytes annotate base limit bytes).map Item.bare =
      limited limit (itemsFrom base bytes) := by
  have hitems : (limited limit (itemsFrom base bytes)).map Item.bare =
      limited limit (itemsFrom base bytes) := by
    have hbare := map_bare_itemsFrom base bytes
    unfold limited
    split
    · exact hbare
    · rw [List.map_take, hbare]
  unfold ofBytes
  cases annotate
  · exact hitems
  · refine Eq.trans ?_ hitems
    exact List.map_map

theorem map_bare_ofBytes (annotate : Bool) (base : Int) (bytes : List UInt8) :
    (ofBytes annotate base 0 bytes).map Item.bare = itemsFrom base bytes :=
  map_bare_ofBytes_limited annotate base 0 bytes

theorem map_chunk_itemsFrom (base base' : Int) (bytes : List UInt8) :
    (itemsFrom base bytes).map Item.chunk =
      (itemsFrom base' bytes).map Item.chunk := by
  induction base, bytes using itemsFrom.induct generalizing base' with
  | case1 => rfl
  | case2 => rfl
  | case3 base high low rest ih =>
      rw [itemsFrom_cons_cons, itemsFrom_cons_cons, List.map_cons,
        List.map_cons, ih (base' + 2)]

theorem flatMap_bytes_itemsFrom (base : Int) (bytes : List UInt8) :
    (itemsFrom base bytes).flatMap Item.bytes = bytes := by
  induction base, bytes using itemsFrom.induct with
  | case1 => rfl
  | case2 => rfl
  | case3 base high low rest ih =>
      rw [itemsFrom_cons_cons, List.flatMap_cons, ih]
      rfl

theorem flatMap_bytes_map_bare (items : List Item) :
    (items.map Item.bare).flatMap Item.bytes = items.flatMap Item.bytes :=
  List.flatMap_map Item.bare Item.bytes items

/-- A whole listing holds the bytes that it was made from. -/
theorem flatMap_bytes_ofBytes (annotate : Bool) (base : Int)
    (bytes : List UInt8) :
    (ofBytes annotate base 0 bytes).flatMap Item.bytes = bytes := by
  rw [← flatMap_bytes_map_bare, map_bare_ofBytes, flatMap_bytes_itemsFrom]

@[simp] theorem first?_nil (base : Int) : first? base [] = none := rfl

@[simp] theorem first?_singleton (base : Int) (b : UInt8) :
    first? base [b] = some ⟨base, .byte b, []⟩ := rfl

@[simp] theorem first?_cons_cons (base : Int) (high low : UInt8)
    (rest : List UInt8) :
    first? base (high :: low :: rest) = some ⟨base, .word high low, []⟩ := rfl

/-- Each item takes two bytes, so the item of number `i` is the first one of
what `2 * i` bytes leave. -/
theorem getElem?_itemsFrom (base : Int) (bytes : List UInt8) (i : Nat) :
    (itemsFrom base bytes)[i]? = first? (base + 2 * i)
      (bytes.drop (2 * i)) := by
  induction base, bytes using itemsFrom.induct generalizing i with
  | case1 => simp
  | case2 base b =>
      cases i with
      | zero => simp
      | succ i =>
          have hdrop : [b].drop (2 * (i + 1)) = [] :=
            List.drop_eq_nil_of_le (by simp; omega)
          rw [hdrop]
          rfl
  | case3 base high low rest ih =>
      cases i with
      | zero => simp [itemsFrom_cons_cons]
      | succ i =>
          have haddress :
              base + 2 * ((i + 1 : Nat) : Int) = base + 2 + 2 * i := by omega
          have hdrop : (high :: low :: rest).drop (2 * (i + 1)) =
              rest.drop (2 * i) := by
            rw [Nat.mul_succ]
            rfl
          rw [itemsFrom_cons_cons, List.getElem?_cons_succ, ih, haddress,
            hdrop]

theorem first?_eq_word_iff {base z : Int} {bytes : List UInt8}
    {high low : UInt8} :
    first? base bytes = some ⟨z, .word high low, []⟩ ↔
      z = base ∧ bytes[0]? = some high ∧ bytes[1]? = some low := by
  rcases bytes with _ | ⟨first, _ | ⟨second, rest⟩⟩
  · simp
  · simp
  · simp [eq_comm]

/-- A word stands where two bytes follow at an even distance from the start. -/
theorem word_mem_itemsFrom_iff (base : Int) (bytes : List UInt8) {z : Int}
    {high low : UInt8} :
    ⟨z, .word high low, []⟩ ∈ itemsFrom base bytes ↔
      ∃ k : Nat, z = base + 2 * k ∧ bytes[2 * k]? = some high ∧
        bytes[2 * k + 1]? = some low := by
  rw [List.mem_iff_getElem?]
  refine exists_congr fun k => ?_
  rw [getElem?_itemsFrom, first?_eq_word_iff, List.getElem?_drop,
    List.getElem?_drop]
  rfl

theorem exists_word_mem_ofBytes_iff (annotate : Bool) (base : Int)
    (bytes : List UInt8) {z : Int} {high low : UInt8} :
    (∃ i ∈ ofBytes annotate base 0 bytes,
      i.address = z ∧ i.chunk = .word high low) ↔
      ∃ k : Nat, z = base + 2 * k ∧ bytes[2 * k]? = some high ∧
        bytes[2 * k + 1]? = some low := by
  rw [← word_mem_itemsFrom_iff, ← map_bare_ofBytes annotate, List.mem_map]
  constructor
  · rintro ⟨i, hmem, rfl, hchunk⟩
    exact ⟨i, hmem, by rw [Item.bare, hchunk]⟩
  · rintro ⟨i, hmem, hbare⟩
    have haddress := congrArg Item.address hbare
    have hchunk := congrArg Item.chunk hbare
    exact ⟨i, hmem, haddress, hchunk⟩

end Chip8.Listing
