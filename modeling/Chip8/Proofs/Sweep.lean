import Chip8.Proofs.ListingItems
import Mathlib.Data.List.Infix

/-!
# What a listing covers

The item of number `i` is the first item of what is left of the input after
`2 * i` bytes (`Listing.getElem?_itemsFrom`). Its address, its bytes, and
whether it is the last odd byte follow from this. A limit cuts the listing off
behind some item and changes none of those before (`Listing.limited_natCast`).
-/

namespace Chip8

theorem Operation.mnemonic_ne_dataByte (o : Operation) :
    o.mnemonic ≠ "DB" := by
  cases o <;> decide

namespace Listing

theorem length_itemsFrom (base : Int) (bytes : List UInt8) :
    (itemsFrom base bytes).length = (bytes.length + 1) / 2 := by
  induction base, bytes using itemsFrom.induct with
  | case1 => rfl
  | case2 => simp
  | case3 base high low rest ih =>
      rw [itemsFrom_cons_cons, List.length_cons, ih, List.length_cons,
        List.length_cons]
      omega

/-! ## Limits -/

theorem limited_natCast (limit : Nat) (items : List Item) :
    limited limit items = if limit = 0 then items else items.take limit := by
  unfold limited
  by_cases h : limit = 0
  · rw [if_pos (by omega), if_pos h]
  · have hmax : max 1 ((limit : Int)).toNat = limit := by omega
    rw [if_neg (by omega), if_neg h, hmax]

theorem limited_isPrefix (limit : Int) (items : List Item) :
    limited limit items <+: items := by
  unfold limited
  split
  · exact List.prefix_refl items
  · exact List.take_prefix _ items

/-! ## Items by number -/

/-- What the item of number `i`, counted from zero, has to be. -/
structure Item.Covers (item : Item) (base : Int) (input : List UInt8)
    (i : Nat) : Prop where
  address : item.address = base + 2 * i
  bytes : item.bytes = (input.drop (2 * i)).take 2
  last : 2 * i + 1 = input.length → item.length = 1 ∧ item.mnemonic = "DB"
  other : 2 * i + 1 ≠ input.length → item.length = 2 ∧ item.mnemonic ≠ "DB"
  data : item.instruction? = none ↔ 2 * i + 1 = input.length ∨
    ∃ high low, item.bytes = [high, low] ∧
      Instruction.ofWord? (Word.ofBytes high low) = none

theorem Chunk.mnemonic_word_ne_dataByte (high low : UInt8) :
    (Chunk.word high low).mnemonic ≠ "DB" := by
  unfold mnemonic
  cases (Chunk.word high low).instruction? with
  | none => simp
  | some i => exact i.operation.mnemonic_ne_dataByte

theorem covers_of_first? {item : Item} {base : Int} {input : List UInt8}
    {i : Nat}
    (h : first? (base + 2 * i) (input.drop (2 * i)) = some item.bare) :
    item.Covers base input i := by
  have hlength : (input.drop (2 * i)).length = input.length - 2 * i :=
    List.length_drop
  obtain ⟨address, chunk, uses⟩ := item
  rcases hleft : input.drop (2 * i) with _ | ⟨high, _ | ⟨low, rest⟩⟩
  · rw [hleft] at h
    cases h
  · -- the last odd byte
    obtain ⟨rfl, rfl⟩ : base + 2 * i = address ∧ .byte high = chunk := by
      simpa [hleft, Item.bare] using h
    rw [hleft, List.length_singleton] at hlength
    have hlast : 2 * i + 1 = input.length := by omega
    exact ⟨rfl, by rw [hleft]; rfl, fun _ => ⟨rfl, rfl⟩, fun hne =>
      absurd hlast hne, iff_of_true rfl (.inl hlast)⟩
  · obtain ⟨rfl, rfl⟩ : base + 2 * i = address ∧ .word high low = chunk := by
      simpa [hleft, Item.bare] using h
    rw [hleft, List.length_cons, List.length_cons] at hlength
    have hother : 2 * i + 1 ≠ input.length := by omega
    refine ⟨rfl, by rw [hleft]; rfl, fun hlast => absurd hlast hother,
      fun _ => ⟨rfl, Chunk.mnemonic_word_ne_dataByte high low⟩, ?_⟩
    rw [or_iff_right hother]
    constructor
    · exact fun hnone => ⟨high, low, rfl, hnone⟩
    · rintro ⟨_, _, hbytes, hnone⟩
      cases hbytes
      exact hnone

theorem covers_of_getElem? {annotate : Bool} {base limit : Int}
    {input : List UInt8} {i : Nat} {item : Item}
    (h : (ofBytes annotate base limit input)[i]? = some item) :
    item.Covers base input i := by
  refine covers_of_first? ?_
  have hbare : (limited limit (itemsFrom base input))[i]? =
      some item.bare := by
    rw [← map_bare_ofBytes_limited annotate, List.getElem?_map, h]
    rfl
  -- a limit keeps the numbers of the items that it leaves
  obtain ⟨hi, hget⟩ := List.getElem?_eq_some_iff.mp hbare
  rw [← getElem?_itemsFrom,
    List.prefix_iff_getElem?.mp (limited_isPrefix limit _) i hi, hget]

theorem length_ofBytes (annotate : Bool) (base : Int) (limit : Nat)
    (input : List UInt8) :
    (ofBytes annotate base limit input).length =
      if limit = 0 then (input.length + 1) / 2
        else min ((input.length + 1) / 2) limit := by
  rw [← List.length_map (f := Item.bare), map_bare_ofBytes_limited,
    limited_natCast]
  split
  · exact length_itemsFrom base input
  · rw [List.length_take, length_itemsFrom, Nat.min_comm]

/-- A listing has an item for each pair of bytes and one for a last odd byte,
unless it is cut off at its limit. The items stand at even distances from the
base, one behind the other; their bytes are the input from its start on, all of
it if no item is cut off. What stands in front of the limit does not depend on
it, the notes apart. -/
theorem sweep_covers (annotate : Bool) (base : Int) (limit : Nat)
    (input : List UInt8) :
    (ofBytes annotate base limit input).length =
        (if limit = 0 then (input.length + 1) / 2
          else min ((input.length + 1) / 2) limit) ∧
      (∀ i (item : Item), (ofBytes annotate base limit input)[i]? = some item →
        item.Covers base input i) ∧
      (ofBytes annotate base limit input).flatMap Item.bytes <+: input ∧
      ((ofBytes annotate base limit input).length = (input.length + 1) / 2 →
        (ofBytes annotate base limit input).flatMap Item.bytes = input) ∧
      (ofBytes annotate base limit input).map Item.bare <+:
        (ofBytes annotate base 0 input).map Item.bare := by
  have hprefix := limited_isPrefix limit (itemsFrom base input)
  refine ⟨length_ofBytes annotate base limit input, fun i item =>
    covers_of_getElem?, ?_, ?_, ?_⟩
  · have hbytes := List.IsPrefix.flatMap hprefix Item.bytes
    rwa [← map_bare_ofBytes_limited annotate, flatMap_bytes_map_bare,
      flatMap_bytes_itemsFrom] at hbytes
  · intro hall
    rw [← List.length_map (f := Item.bare), map_bare_ofBytes_limited,
      ← length_itemsFrom base] at hall
    rw [← flatMap_bytes_map_bare, map_bare_ofBytes_limited,
      List.IsPrefix.eq_of_length hprefix hall, flatMap_bytes_itemsFrom]
  · rwa [map_bare_ofBytes_limited, map_bare_ofBytes]

/-- Two words, the second of them no instruction, and a last odd byte. -/
theorem odd_byte_covered :
    let input : List UInt8 := [0x12, 0x02, 0x80, 0x08, 0x12]
    let last : Item := ⟨0x204, .byte 0x12, []⟩
    (ofBytes true 0x200 3 input)[2]? = some last ∧ last.Covers 0x200 input 2 ∧
      (ofBytes true 0x200 3 input).flatMap Item.bytes = input ∧
      (ofBytes true 0x200 2 input).flatMap Item.bytes = input.take 4 := by
  intro input last
  have hlast : (ofBytes true 0x200 3 input)[2]? = some last := by
    decide +kernel
  have hall := sweep_covers true 0x200 3 input
  have hcut :=
    List.prefix_iff_eq_take.mp (sweep_covers true 0x200 2 input).2.2.1
  have hwhole : (ofBytes true 0x200 3 input).length = (input.length + 1) / 2 :=
    hall.1.trans (by decide)
  have htaken :
      input.take ((ofBytes true 0x200 2 input).flatMap Item.bytes).length =
      input.take 4 := by decide +kernel
  exact ⟨hlast, hall.2.1 2 last hlast, hall.2.2.2.1 hwhole, hcut.trans htaken⟩

end Listing

end Chip8
