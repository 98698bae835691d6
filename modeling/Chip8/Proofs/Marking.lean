import Chip8.Listing.Marking
import Chip8.Proofs.Annotation
import Mathlib.Data.List.Infix

/-!
# Comments that grow

The comment of an item grows by the names that the items of the listing give to
its address, one after the other. A name is left out if the comment contains it
as a text; that comes to the same as being one of the names that are there,
since each name begins with a character that no other name has and no
separator. So what has grown in the end is the comment of the annotated listing
(`Listing.comment_marked`).
-/

namespace Chip8

theorem Text.occursIn_iff {part text : List Char} :
    occursIn part text = true ↔ part <:+: text := by
  induction text with
  | nil => simp [occursIn]
  | cons c rest ih => simp [occursIn, ih, List.infix_cons_iff]

section Joined

variable {sep : String} {c : Char}

theorem mem_intercalate {parts : List String}
    (h : c ∈ (sep.intercalate parts).toList) :
    c ∈ sep.toList ∨ ∃ part ∈ parts, c ∈ part.toList := by
  induction parts with
  | nil => simp at h
  | cons part rest ih =>
      cases rest with
      | nil => exact .inr ⟨part, List.mem_cons_self, by simpa using h⟩
      | cons next rest =>
          rw [String.intercalate_cons_cons, String.toList_append,
            String.toList_append, List.mem_append, List.mem_append] at h
          rcases h with (h | h) | h
          · exact .inr ⟨part, List.mem_cons_self, h⟩
          · exact .inl h
          · obtain hsep | ⟨q, hq, hc⟩ := ih h
            · exact .inl hsep
            · exact .inr ⟨q, List.mem_cons_of_mem _ hq, hc⟩

theorem infix_intercalate {parts : List String} {part : String}
    (h : part ∈ parts) :
    part.toList <:+: (sep.intercalate parts).toList := by
  induction parts with
  | nil => exact absurd h List.not_mem_nil
  | cons first rest ih =>
      cases rest with
      | nil =>
          obtain rfl := List.mem_singleton.mp h
          rw [String.intercalate_singleton]
      | cons next rest =>
          rw [String.intercalate_cons_cons, String.toList_append,
            String.toList_append]
          rcases List.mem_cons.mp h with rfl | h
          · rw [List.append_assoc]
            exact (List.prefix_append _ _).isInfix
          · exact (ih h).trans (List.suffix_append _ _).isInfix

end Joined

namespace Listing

/-- No name occurs in what the others make: each begins with a character that
is neither in another one nor in the separator. -/
def Separate (names : List String) : Prop :=
  ∀ name ∈ names, ∃ c, name.toList.head? = some c ∧ c ∉ ", ".toList ∧
    ∀ other ∈ names, other ≠ name → c ∉ other.toList

theorem Separate.occursIn_iff {names known : List String} (h : Separate names)
    (hknown : known ⊆ names) {name : String} (hname : name ∈ names) :
    Text.occursIn name.toList (", ".intercalate known).toList = true ↔
      name ∈ known := by
  rw [Text.occursIn_iff]
  refine ⟨fun hinfix => ?_, infix_intercalate⟩
  by_contra hnew
  obtain ⟨c, hhead, hsep, hothers⟩ := h name hname
  have hc : c ∈ (", ".intercalate known).toList :=
    hinfix.subset (List.mem_of_mem_head? hhead)
  obtain hc | ⟨other, hother, hc⟩ := mem_intercalate hc
  · exact hsep hc
  · exact hothers other (hknown hother) (fun heq => hnew (heq ▸ hother)) hc

theorem Separate.isEmpty_intercalate {names known : List String}
    (h : Separate names) (hknown : known ⊆ names) (hfull : known ≠ []) :
    (", ".intercalate known).isEmpty = false := by
  obtain ⟨name, hname⟩ := List.exists_mem_of_ne_nil known hfull
  obtain ⟨c, hhead, -⟩ := h name (hknown hname)
  have hinfix : name.toList <:+: (", ".intercalate known).toList :=
    infix_intercalate hname
  have hc := hinfix.subset (List.mem_of_mem_head? hhead)
  rw [Bool.eq_false_iff, ne_eq, String.isEmpty_iff]
  intro hempty
  rw [hempty] at hc
  exact List.not_mem_nil hc

/-- Names that are noted one after the other stand there once each. -/
theorem Separate.foldl_addNote {names given : List String} (h : Separate names)
    (hgiven : given ⊆ names) :
    given.foldl addNote "" = ", ".intercalate given.eraseDups := by
  induction given using List.reverseRecOn with
  | nil => rfl
  | append_singleton given name ih =>
      have hbefore : given ⊆ names :=
        fun _ hx => hgiven (List.mem_append_left _ hx)
      have hname : name ∈ names := hgiven (by simp)
      have hknown : given.eraseDups ⊆ names := fun _ hx =>
        hbefore (List.mem_eraseDups.mp hx)
      rw [List.foldl_append, List.foldl_cons, List.foldl_nil, ih hbefore,
        addNote, eraseDups_concat]
      simp only [h.occursIn_iff hknown hname, List.mem_eraseDups]
      split
      next => rfl
      next =>
        by_cases hfirst : given.eraseDups = []
        · simp [hfirst]
        · rw [h.isEmpty_intercalate hknown hfirst, if_neg Bool.false_ne_true,
            String.intercalate_append_of_ne_nil hfirst (List.cons_ne_nil _ _),
            String.intercalate_singleton]

theorem not_mem_fixedHex {c : Char} (hc : ∀ d : Fin 16, Text.hexDigit d ≠ c)
    (w n : Nat) :
    c ∉ Text.fixedHex w n := by
  induction w generalizing n with
  | zero => exact List.not_mem_nil
  | succ w ih =>
      rw [Text.fixedHex_succ, List.mem_append, List.mem_singleton]
      rintro (h | h)
      · exact ih _ h
      · exact hc ⟨n % 16, Nat.mod_lt n (by decide)⟩ h.symm

def names (z : Int) : List String :=
  ["label_" ++ String.ofList (Text.fixedHex 3 z.toNat),
    "sub_" ++ String.ofList (Text.fixedHex 3 z.toNat)]

theorem separate_names (z : Int) : Separate (names z) := by
  have hl := not_mem_fixedHex (c := 'l') (by decide) 3 z.toNat
  have hs := not_mem_fixedHex (c := 's') (by decide) 3 z.toNat
  intro name hname
  simp only [names, List.mem_cons, List.not_mem_nil, or_false] at hname ⊢
  rcases hname with rfl | rfl
  · refine ⟨'l', by simp, by decide, ?_⟩
    rintro other (rfl | rfl) hne
    · exact absurd rfl hne
    · simp [hl]
  · refine ⟨'s', by simp, by decide, ?_⟩
    rintro other (rfl | rfl) hne
    · simp [hs]
    · exact absurd rfl hne

theorem filterMap_naming?_subset (items : List Item) (z : Int) :
    items.filterMap (Item.naming? z) ⊆ names z := by
  intro note hnote
  obtain ⟨i, -, hi⟩ := List.mem_filterMap.mp hnote
  rcases Item.naming?_eq_some_iff.mp hi with ⟨rfl, -⟩ | ⟨rfl, -⟩
  · exact List.mem_cons_self
  · exact List.mem_cons_of_mem _ List.mem_cons_self

/-! ## The listing -/

theorem mark_eq (marked : List Marked) (i : Item) :
    mark marked i = marked.map fun m =>
      { m with comment :=
        (i.naming? m.item.address).toList.foldl addNote m.comment } := by
  unfold mark branch? Item.naming?
  cases i.instruction? with
  | none => simp
  | some instruction =>
      cases instruction with
      | jump nnn | call nnn =>
          refine List.map_congr_left fun m _ => ?_
          by_cases hm : m.item.address = nnn.val
          · simp [noteAt, hm, Item.useName, Text.signedHex_address]
          · simp [noteAt, hm, Ne.symm hm]
      | _ => simp

theorem foldl_mark (items : List Item) (marked : List Marked) :
    items.foldl mark marked = marked.map fun m =>
      { m with
        comment := (items.filterMap (Item.naming? m.item.address)).foldl
          addNote m.comment } := by
  induction items generalizing marked with
  | nil => simp
  | cons i rest ih =>
      rw [List.foldl_cons, ih, mark_eq, List.map_map]
      refine List.map_congr_left fun m _ => ?_
      rw [List.filterMap_cons]
      cases hi : i.naming? m.item.address with
      | none => simp [hi]
      | some note => simp [hi]

theorem marked_eq (items : List Item) :
    marked items =
      items.map fun i =>
        ⟨i, { i with
          uses := (Targets.ofItems items).uses i.address }.comment⟩ := by
  rw [marked, foldl_mark, List.map_map]
  refine List.map_congr_left fun i _ => ?_
  have hcomment := (separate_names i.address).foldl_addNote
    (filterMap_naming?_subset items i.address)
  rw [← notesFor, ← map_useName_uses] at hcomment
  exact congrArg (Marked.mk i) hcomment

/-- What has grown at each item in the end is the comment that is shown with
it. -/
theorem comment_marked (items : List Item) :
    (marked items).map Marked.comment =
      (annotated items).map Item.comment := by
  rw [marked_eq, annotated, List.map_map, List.map_map]
  rfl

end Listing

end Chip8
