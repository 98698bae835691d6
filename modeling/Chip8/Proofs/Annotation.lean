import Chip8.Proofs.ListingItems
import Mathlib.Data.List.Induction
import Mathlib.Data.List.Nodup

/-!
# The notes of a listing

Branches are collected in one pass into a table, in which each address gets its
uses in the order in which they are met and each use once. `List.eraseDups`
says the same of a list that is there as a whole
(`Listing.Targets.get_foldl_add`). So the comment of an item can be read off
the listing: it names those jumps and calls in the listing that lead to its
address (`Listing.notesFor`), and nothing else of the item depends on the
notes.
-/

namespace Chip8

section EraseDups

variable {α β : Type} [DecidableEq α] [DecidableEq β]

theorem eraseDups_concat (xs : List α) (x : α) :
    (xs ++ [x]).eraseDups = if x ∈ xs then xs.eraseDups
      else xs.eraseDups ++ [x] := by
  rw [List.eraseDups_append]
  by_cases h : x ∈ xs
  · simp [List.removeAll, h]
  · simp [List.removeAll, List.eraseDups_cons, h]

theorem nodup_eraseDups (xs : List α) : xs.eraseDups.Nodup := by
  induction xs using List.reverseRecOn with
  | nil => exact List.nodup_nil
  | append_singleton xs x ih =>
      rw [eraseDups_concat]
      split
      · exact ih
      · next h =>
          rw [← List.concat_eq_append]
          exact List.Nodup.concat (mt List.mem_eraseDups.mp h) ih

theorem map_eraseDups {f : α → β} (hf : Function.Injective f) (xs : List α) :
    xs.eraseDups.map f = (xs.map f).eraseDups := by
  induction xs using List.reverseRecOn with
  | nil => rfl
  | append_singleton xs x ih =>
      have hmem : f x ∈ xs.map f ↔ x ∈ xs := List.mem_map_of_injective hf
      rw [eraseDups_concat, List.map_append, List.map_singleton,
        eraseDups_concat, ← ih]
      simp only [hmem]
      split
      · rfl
      · exact List.map_append

end EraseDups

/-! ## Names -/

theorem Text.hexWidth_le_three {n : Nat} (h : n < 4096) : hexWidth n ≤ 3 := by
  rw [hexWidth]
  split
  · omega
  · rw [hexWidth]
    split
    · omega
    · have hone : hexWidth (n / 16 / 16) = 1 := by
        rw [hexWidth, if_pos (by omega)]
      omega

theorem Text.signedHex_address (a : Address) :
    signedHex 3 a.val = String.ofList (fixedHex 3 a.val) := by
  have hwidth : max 3 (hexWidth a.val) = 3 :=
    Nat.max_eq_left (hexWidth_le_three a.isLt)
  have hhex : signedHex 3 a.val =
      String.ofList (fixedHex (max 3 (hexWidth a.val)) a.val) := rfl
  rw [hhex, hwidth]

namespace Listing

theorem Item.useName_injective (z : Int) : Function.Injective (useName z) := by
  have hne : useName z .jumped ≠ useName z .called := by
    intro h
    have hhead := congrArg (·.toList.head?) h
    simp [useName] at hhead
  intro u v h
  cases u <;> cases v
  · rfl
  · exact absurd h hne
  · exact absurd h.symm hne
  · rfl

/-! ## The table -/

namespace Targets

theorem get_empty (a : Address) : empty.get a = [] := by
  simp [empty, Vector.get]

theorem get_add (t : Targets) (branch : Address × Use) (a : Address) :
    (t.add branch).get a =
      if branch.1 = a then
        if branch.2 ∈ t.get a then t.get a else t.get a ++ [branch.2]
      else t.get a := by
  obtain ⟨b, u⟩ := branch
  have hget (c : Address) : t[c] = t.get c := rfl
  simp only [add, hget, List.contains_iff_mem]
  by_cases hb : b = a
  · subst hb
    rw [if_pos rfl]
    split
    · rfl
    · exact Vector.getElem_set_self b.isLt
  · rw [if_neg hb]
    split
    · rfl
    · exact Vector.getElem_set_ne b.isLt a.isLt fun h => hb (Fin.ext h)

/-- An address gets each use once, in the order of the branches. -/
theorem get_foldl_add (branches : List (Address × Use)) (a : Address) :
    (branches.foldl add empty).get a =
      ((branches.filter (·.1 = a)).map (·.2)).eraseDups := by
  -- a use that is known is one of an earlier branch, so the list grows at its
  -- end
  induction branches using List.reverseRecOn with
  | nil => exact get_empty a
  | append_singleton branches branch ih =>
      rw [List.foldl_append, List.foldl_cons, List.foldl_nil, get_add, ih,
        List.filter_append, List.map_append]
      by_cases h : branch.1 = a
      · have hlast : ([branch].filter (·.1 = a)).map (·.2) = [branch.2] := by
          simp [h]
        rw [if_pos h, hlast, eraseDups_concat]
        simp only [List.mem_eraseDups]
      · have hlast : ([branch].filter (·.1 = a)).map (·.2) = [] := by simp [h]
        rw [if_neg h, hlast, List.append_nil]

end Targets

/-! ## Branches to an address -/

namespace Item

def JumpsTo (i : Item) (z : Int) : Prop :=
  ∃ nnn : Address, i.instruction? = some (.jump nnn) ∧ (nnn.val : Int) = z

def Calls (i : Item) (z : Int) : Prop :=
  ∃ nnn : Address, i.instruction? = some (.call nnn) ∧ (nnn.val : Int) = z

/-- The name that an item gives to an address, by jumping to it or calling
it. -/
def naming? (z : Int) (i : Item) : Option String :=
  match i.instruction? with
  | some (.jump nnn) =>
    if nnn.val = z then
      some ("label_" ++ String.ofList (Text.fixedHex 3 nnn.val))
    else none
  | some (.call nnn) =>
    if nnn.val = z then
      some ("sub_" ++ String.ofList (Text.fixedHex 3 nnn.val))
    else none
  | _ => none

theorem naming?_eq_some_iff {i : Item} {z : Int} {note : String} :
    i.naming? z = some note ↔
      (note = "label_" ++ String.ofList (Text.fixedHex 3 z.toNat) ∧
        i.JumpsTo z) ∨
      (note = "sub_" ++ String.ofList (Text.fixedHex 3 z.toNat) ∧
        i.Calls z) := by
  unfold naming? JumpsTo Calls
  split
  · next nnn hi =>
      by_cases hz : (nnn.val : Int) = z
      · subst hz
        simp [hi, eq_comm]
      · simp [hi, hz]
  · next nnn hi =>
      by_cases hz : (nnn.val : Int) = z
      · subst hz
        simp [hi, eq_comm]
      · simp [hi, hz]
  · next hjump hcall =>
      refine iff_of_false nofun ?_
      rintro (⟨-, nnn, hi, -⟩ | ⟨-, nnn, hi, -⟩)
      · exact hjump nnn hi
      · exact hcall nnn hi

theorem naming?_address (i : Item) (a : Address) :
    i.naming? a.val =
      ((branch? i).filter (·.1 = a)).map (useName a.val ·.2) := by
  have hvalue (nnn : Address) : (nnn.val : Int) = a.val ↔ nnn = a := by
    rw [Fin.ext_iff, Int.ofNat_inj]
  unfold naming? branch?
  -- a jump and a call alike name their operand address alone
  cases hi : i.instruction? with
  | none => rfl
  | some instruction =>
      cases instruction with
      | jump nnn | call nnn =>
          by_cases hnnn : nnn = a
          · simp [hnnn, Option.filter, useName, Text.signedHex_address]
          · simp [hnnn, Option.filter, hvalue]
      | _ => rfl

end Item

/-- The names that the items of a listing give to an address, each once and in
the order in which they are first given. -/
def notesFor (items : List Item) (z : Int) : List String :=
  (items.filterMap (Item.naming? z)).eraseDups

theorem notesFor_outside {items : List Item} {z : Int}
    (h : Address.ofInt? z = none) :
    notesFor items z = [] := by
  have houtside := (Address.ofInt?_eq_none_iff z).mp h
  have hnone : items.filterMap (Item.naming? z) = [] := by
    rw [List.filterMap_eq_nil_iff]
    intro i _
    rw [Option.eq_none_iff_forall_ne_some]
    intro note hnote
    obtain ⟨-, nnn, -, hz⟩ | ⟨-, nnn, -, hz⟩ :=
      Item.naming?_eq_some_iff.mp hnote <;> omega
  rw [notesFor, hnone]
  rfl

theorem notesFor_address (items : List Item) (a : Address) :
    notesFor items a.val =
      ((Targets.ofItems items).uses a.val).map (Item.useName a.val) := by
  have hnamings : items.filterMap (Item.naming? a.val) =
      (((items.filterMap branch?).filter (·.1 = a)).map (·.2)).map
        (Item.useName a.val) := by
    rw [List.map_map, List.filter_filterMap, List.map_filterMap]
    exact congrArg (List.filterMap · items)
      (funext fun i => i.naming?_address a)
  have huses :
      (Targets.ofItems items).uses a.val = (Targets.ofItems items).get a := by
    rw [Targets.uses, Address.ofInt?_val]
    rfl
  rw [notesFor, hnamings, ← map_eraseDups (Item.useName_injective _), huses,
    Targets.ofItems, Targets.get_foldl_add]

theorem map_useName_uses (items : List Item) (z : Int) :
    ((Targets.ofItems items).uses z).map (Item.useName z) =
      notesFor items z := by
  cases hz : Address.ofInt? z with
  | none =>
      rw [notesFor_outside hz, Targets.uses, hz]
      rfl
  | some a =>
      rw [Address.ofInt?_eq_some_iff.mp hz]
      exact (notesFor_address items a).symm

/-- The comment of an item names the jumps and calls of a listing that lead to
its address, and nothing else. -/
structure Item.NotedIn (item : Item) (items : List Item) : Prop where
  comment : item.comment = ", ".intercalate (notesFor items item.address)
  nodup : (notesFor items item.address).Nodup
  mem_iff (note : String) : note ∈ notesFor items item.address ↔
    (note = "label_" ++ String.ofList (Text.fixedHex 3 item.address.toNat) ∧
        ∃ j ∈ items, j.JumpsTo item.address) ∨
      (note = "sub_" ++ String.ofList (Text.fixedHex 3 item.address.toNat) ∧
        ∃ j ∈ items, j.Calls item.address)
  untargeted :
    (∀ j ∈ items, ¬ j.JumpsTo item.address ∧ ¬ j.Calls item.address) →
    item.comment = ""
  outside : item.address < 0 ∨ 0xFFF < item.address → item.comment = ""

theorem mem_notesFor_iff {items : List Item} {z : Int} {note : String} :
    note ∈ notesFor items z ↔
      (note = "label_" ++ String.ofList (Text.fixedHex 3 z.toNat) ∧
        ∃ j ∈ items, j.JumpsTo z) ∨
        (note = "sub_" ++ String.ofList (Text.fixedHex 3 z.toNat) ∧
          ∃ j ∈ items, j.Calls z) := by
  simp only [notesFor, List.mem_eraseDups, List.mem_filterMap,
    Item.naming?_eq_some_iff]
  constructor
  · rintro ⟨j, hj, ⟨hnote, hjump⟩ | ⟨hnote, hcall⟩⟩
    · exact .inl ⟨hnote, j, hj, hjump⟩
    · exact .inr ⟨hnote, j, hj, hcall⟩
  · rintro (⟨hnote, j, hj, hjump⟩ | ⟨hnote, j, hj, hcall⟩)
    · exact ⟨j, hj, .inl ⟨hnote, hjump⟩⟩
    · exact ⟨j, hj, .inr ⟨hnote, hcall⟩⟩

theorem notedIn_of_comment {item : Item} {items : List Item}
    (h : item.comment = ", ".intercalate (notesFor items item.address)) :
    item.NotedIn items where
  comment := h
  nodup := nodup_eraseDups _
  mem_iff _ := mem_notesFor_iff
  untargeted hnone := by
    have hnil : notesFor items item.address = [] := by
      rw [List.eq_nil_iff_forall_not_mem]
      intro note hnote
      obtain ⟨-, j, hj, hjump⟩ | ⟨-, j, hj, hcall⟩ := mem_notesFor_iff.mp hnote
      · exact (hnone j hj).1 hjump
      · exact (hnone j hj).2 hcall
    rw [h, hnil]
    rfl
  outside hz := by
    rw [h, notesFor_outside ((Address.ofInt?_eq_none_iff _).mpr (by omega))]
    rfl

theorem notesFor_annotated (items : List Item) (z : Int) :
    notesFor (annotated items) z = notesFor items z := by
  rw [notesFor, annotated, List.filterMap_map]
  rfl

def Item.shown (i : Item) :
    Int × List UInt8 × String × String × Option Operation :=
  (i.address, i.bytes, i.mnemonic, i.operands,
    i.instruction?.map Instruction.operation)

/-- In an annotated listing the comment of an item names the jumps and calls of
the listing that lead to its address, and all else is as in the listing without
annotation. -/
theorem annotation_exact (base limit : Int) (input : List UInt8) :
    (∀ item ∈ ofBytes true base limit input,
      item.NotedIn (ofBytes true base limit input)) ∧
      (ofBytes true base limit input).map Item.shown =
        (ofBytes false base limit input).map Item.shown := by
  refine ⟨?_, ?_⟩
  · intro item hitem
    have hannotated : ofBytes true base limit input =
        annotated (limited limit (itemsFrom base input)) := rfl
    rw [hannotated] at hitem ⊢
    obtain ⟨i, -, rfl⟩ := List.mem_map.mp hitem
    refine notedIn_of_comment ?_
    rw [notesFor_annotated]
    exact congrArg (", ".intercalate ·) (map_useName_uses _ i.address)
  · have hshown (annotate : Bool) :
        (ofBytes annotate base limit input).map Item.shown =
        (limited limit (itemsFrom base input)).map Item.shown := by
      rw [← map_bare_ofBytes_limited annotate, List.map_map]
      rfl
    rw [hshown, hshown]

/-- Three jumps to one address, the last of them at the address itself, and a
call of it. -/
theorem jump_target_called_too :
    let input : List UInt8 := [0x12, 0x06, 0x22, 0x06, 0x12, 0x06, 0x12, 0x06]
    let target : Item := ⟨0x206, .word 0x12 0x06, [.jumped, .called]⟩
    target ∈ ofBytes true 0x200 0 input ∧
      target.NotedIn (ofBytes true 0x200 0 input) ∧
      target.comment = "label_206, sub_206" := by
  intro input target
  have hmem : target ∈ ofBytes true 0x200 0 input := by decide +kernel
  have hnoted := (annotation_exact 0x200 0 input).1 target hmem
  have hnotes : notesFor (ofBytes true 0x200 0 input) target.address =
      ["label_206", "sub_206"] := by decide +kernel
  refine ⟨hmem, hnoted, ?_⟩
  rw [hnoted.comment, hnotes]
  decide

end Listing

end Chip8
