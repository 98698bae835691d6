import Chip8.Listing
import Mathlib.Data.List.Forall2
import Mathlib.Data.List.Infix

/-!
# Listings of written bytes

Bytes may be written in many ways: letters in either case, the digits cut into
groups anywhere, a mark in front of a group, blanks around the groups.
`HexGroup` is one group, and `hexDigitsOf_groups` says that the digits come out
whatever the groups are. The removal of marks does not look at groups: it takes
every `0x` out, and a digit `0` may stand in front of one. But the only `x` in
the text are those of marks, so the text falls apart between the groups
(`dropHexMarks_append`).

A text that is not written in this way need not be refused. What is refused is
told by what is left without marks and blanks (`isError_readHexDigits_iff`),
where the marks are those between the pieces of the text (`BetweenMarks`).
-/

namespace Chip8.Text

/-! ## Digits -/

theorem forall_mem_of_all {P : Char → Prop} [DecidablePred P] {cs : List Char}
    (h : (cs.all fun c => decide (P c)) = true) : ∀ c ∈ cs, P c :=
  fun c hc => of_decide_eq_true (List.all_eq_true.mp h c hc)

def hexCharacters : List Char :=
  ['0', '1', '2', '3', '4', '5', '6', '7', '8', '9', 'A', 'B', 'C', 'D', 'E',
    'F', 'a', 'b', 'c', 'd', 'e', 'f']

/-- A character writes a digit, in either case. -/
def Writes (c : Char) (d : Nat) : Prop :=
  c = hexDigit d ∨ c = (hexDigit d).toLower

instance (c : Char) (d : Nat) : Decidable (Writes c d) :=
  inferInstanceAs (Decidable (c = hexDigit d ∨ c = (hexDigit d).toLower))

def digitsOf (b : UInt8) : List Nat :=
  [b.toNat / 16, b.toNat % 16]

/-- A digit is none of what is left out, but for the `0` of a mark. -/
theorem kept_of_mem_hexCharacters : ∀ c ∈ hexCharacters,
    c ≠ 'x' ∧ c ≠ '$' ∧ isBlank c = false :=
  forall_mem_of_all (by decide)

theorem toNat_lt_of_hexValue? {c : Char} (h : hexValue? c ≠ none) :
    c.toNat < 128 := by
  by_contra hlarge
  have hnot (d : Char) (hd : d.toNat < 128) : ¬ c ≤ d := by
    intro hle
    have : c.toNat ≤ d.toNat := hle
    omega
  simp [hexValue?, hnot '9' (by decide), hnot 'f' (by decide),
    hnot 'F' (by decide)] at h

theorem toNat_lt_of_mem_hexCharacters : ∀ c ∈ hexCharacters, c.toNat < 128 :=
  forall_mem_of_all (by decide)

theorem hexValue?_ne_none_iff (c : Char) :
    hexValue? c ≠ none ↔ c ∈ hexCharacters := by
  have hall : ∀ n : Fin 128, hexValue? (Char.ofNat n) ≠ none ↔
      Char.ofNat n ∈ hexCharacters := by
    decide
  constructor
  · intro h
    have := (hall ⟨c.toNat, toNat_lt_of_hexValue? h⟩).mp
    rw [Char.ofNat_toNat] at this
    exact this h
  · intro h
    have := (hall ⟨c.toNat, toNat_lt_of_mem_hexCharacters c h⟩).mpr
    rw [Char.ofNat_toNat] at this
    exact this h

namespace Writes

variable {c : Char} {d : Nat}

theorem hexValue?_eq (h : Writes c d) (hd : d < 16) :
    hexValue? c = some d := by
  have hall : ∀ d : Fin 16, hexValue? (hexDigit d) = some d.val ∧
      hexValue? (hexDigit d).toLower = some d.val := by decide
  obtain rfl | rfl := h
  · exact (hall ⟨d, hd⟩).1
  · exact (hall ⟨d, hd⟩).2

end Writes

/-! ## Marks and blanks -/

/-- Marks are taken out of two texts one by one, unless one goes across. -/
theorem dropHexMarks_append {cs cs' : List Char} (h : cs'.head? ≠ some 'x') :
    dropHexMarks (cs ++ cs') = dropHexMarks cs ++ dropHexMarks cs' := by
  induction cs using dropHexMarks.induct with
  | case1 rest ih => exact ih
  | case2 c rest hmark ih =>
      have hacross : ∀ rest', c = '0' → rest ++ cs' = 'x' :: rest' →
          False := by
        rintro rest' rfl hrest
        cases rest with
        | nil => exact h (by rw [← List.nil_append cs', hrest]; rfl)
        | cons d rest => exact hmark rest rfl (by rw [(List.cons.inj hrest).1])
      rw [List.cons_append, dropHexMarks, ih, dropHexMarks, List.cons_append]
      · exact hmark
      · exact hacross
  | case3 => rfl

theorem dropHexMarks_of_not_mem {cs : List Char} (h : 'x' ∉ cs) :
    dropHexMarks cs = cs := by
  induction cs using dropHexMarks.induct with
  | case1 rest => simp at h
  | case2 c rest hmark ih =>
      rw [dropHexMarks, ih fun hx => h (List.mem_cons_of_mem c hx)]
      exact hmark
  | case3 => rfl

theorem hexDigitsOf_append {cs cs' : List Char} (h : cs'.head? ≠ some 'x') :
    hexDigitsOf (cs ++ cs') = hexDigitsOf cs ++ hexDigitsOf cs' := by
  rw [hexDigitsOf, dropHexMarks_append h, List.filter_append,
    List.filter_append, hexDigitsOf, hexDigitsOf]

/-! ## Groups -/

inductive HexMark where
  | unmarked
  | zeroX
  | dollar
  deriving DecidableEq

def HexMark.chars : HexMark → List Char
  | unmarked => []
  | zeroX => ['0', 'x']
  | dollar => ['$']

/-- Digits that are written together, with the mark in front of them and the
blanks that follow. -/
structure HexGroup where
  mark : HexMark := .unmarked
  digits : List Char
  blanks : List Char := []
  digits_hex : ∀ c ∈ digits, c ∈ hexCharacters := by
    exact forall_mem_of_all (by decide)
  blanks_blank : ∀ c ∈ blanks, isBlank c = true := by
    exact forall_mem_of_all (by decide)

namespace HexGroup

variable (g : HexGroup)

def chars : List Char :=
  g.mark.chars ++ (g.digits ++ g.blanks)

theorem x_not_mem : 'x' ∉ g.digits ++ g.blanks := by
  rw [List.mem_append]
  rintro (hdigit | hblank)
  · exact (kept_of_mem_hexCharacters _ (g.digits_hex _ hdigit)).1 rfl
  · exact absurd (g.blanks_blank _ hblank) (by decide)

/-- A group does not begin with an `x`, and so does not go on with a mark of
the group in front of it. -/
theorem head?_chars_append {cs : List Char} (h : cs.head? ≠ some 'x') :
    (g.chars ++ cs).head? ≠ some 'x' := by
  have hx := g.x_not_mem
  unfold chars
  cases g.mark with
  | zeroX | dollar => simp [HexMark.chars]
  | unmarked =>
      rcases hbody : g.digits ++ g.blanks with _ | ⟨c, rest⟩
      · exact h
      · rw [hbody] at hx
        intro hhead
        obtain rfl : c = 'x' := Option.some.inj hhead
        exact hx List.mem_cons_self

end HexGroup

theorem leaveOut_blanks {cs : List Char} (h : ∀ c ∈ cs, isBlank c = true) :
    (cs.filter (· ≠ '$')).filter (!isBlank ·) = [] := by
  rw [List.filter_eq_nil_iff]
  intro c hc
  simpa using h c (List.mem_of_mem_filter hc)

theorem leaveOut_digits {cs : List Char} (h : ∀ c ∈ cs, c ∈ hexCharacters) :
    (cs.filter (· ≠ '$')).filter (!isBlank ·) = cs := by
  rw [List.filter_filter, List.filter_eq_self]
  intro c hc
  obtain ⟨-, hdollar, hblank⟩ := kept_of_mem_hexCharacters c (h c hc)
  simp [hdollar, hblank]

theorem hexDigitsOf_blanks {cs : List Char} (h : ∀ c ∈ cs, isBlank c = true) :
    hexDigitsOf cs = [] := by
  have hx : 'x' ∉ cs := fun hx => absurd (h _ hx) (by decide)
  rw [hexDigitsOf, dropHexMarks_of_not_mem hx, leaveOut_blanks h]

theorem HexGroup.hexDigitsOf_chars (g : HexGroup) :
    hexDigitsOf g.chars = g.digits := by
  have hbody : ((g.digits ++ g.blanks).filter (· ≠ '$')).filter (!isBlank ·) =
      g.digits := by
    rw [List.filter_append, List.filter_append, leaveOut_digits g.digits_hex,
      leaveOut_blanks g.blanks_blank, List.append_nil]
  have hdrop := dropHexMarks_of_not_mem g.x_not_mem
  unfold hexDigitsOf chars
  cases g.mark with
  | unmarked => rw [HexMark.chars, List.nil_append, hdrop, hbody]
  | zeroX =>
      have hmark (cs : List Char) :
          dropHexMarks (HexMark.zeroX.chars ++ cs) = dropHexMarks cs :=
        rfl
      rw [hmark, hdrop, hbody]
  | dollar =>
      have hx : 'x' ∉ HexMark.dollar.chars ++ (g.digits ++ g.blanks) := by
        simpa [HexMark.chars] using g.x_not_mem
      rw [dropHexMarks_of_not_mem hx]
      exact hbody

/-- Whatever the groups are, their digits are what is read. -/
theorem hexDigitsOf_groups (groups : List HexGroup) :
    hexDigitsOf (groups.flatMap HexGroup.chars) =
      groups.flatMap HexGroup.digits ∧
      (groups.flatMap HexGroup.chars).head? ≠ some 'x' := by
  induction groups with
  | nil => exact ⟨rfl, nofun⟩
  | cons g groups ih =>
      obtain ⟨hdigits, hhead⟩ := ih
      refine ⟨?_, g.head?_chars_append hhead⟩
      rw [List.flatMap_cons, hexDigitsOf_append hhead, g.hexDigitsOf_chars,
        hdigits, List.flatMap_cons]

theorem hexDigitsOf_written {lead : List Char}
    (h : ∀ c ∈ lead, isBlank c = true) (groups : List HexGroup) :
    hexDigitsOf (lead ++ groups.flatMap HexGroup.chars) =
      groups.flatMap HexGroup.digits := by
  obtain ⟨hdigits, hhead⟩ := hexDigitsOf_groups groups
  rw [hexDigitsOf_append hhead, hexDigitsOf_blanks h, hdigits, List.nil_append]

/-! ## Pairs of digits -/

theorem readPairs_of_writes {cs : List Char} {bytes : List UInt8}
    (h : List.Forall₂ Writes cs (bytes.flatMap digitsOf)) (position : Nat) :
    readPairs position cs = .ok bytes := by
  induction bytes generalizing cs position with
  | nil =>
      obtain rfl := List.forall₂_nil_right_iff.mp h
      rfl
  | cons b bytes ih =>
      have hb := b.toNat_lt
      rw [List.flatMap_cons, digitsOf, List.cons_append, List.cons_append,
        List.nil_append] at h
      obtain ⟨high, _, hhigh, htail, rfl⟩ := List.forall₂_cons_right_iff.mp h
      obtain ⟨low, rest, hlow, hrest, rfl⟩ :=
        List.forall₂_cons_right_iff.mp htail
      have hvalue : 16 * (b.toNat / 16) + b.toNat % 16 = b.toNat := by omega
      rw [readPairs, hhigh.hexValue?_eq (by omega),
        hlow.hexValue?_eq (by omega)]
      simp only [ih hrest, hvalue, UInt8.ofNat_toNat]
      rfl

/-- Pairs are refused if a digit is missing or something is no digit. -/
theorem isError_readPairs_iff (position : Nat) (cs : List Char) :
    (∃ e, readPairs position cs = .error e) ↔
      cs.length % 2 = 1 ∨ ∃ c ∈ cs, c ∉ hexCharacters := by
  simp only [← hexValue?_ne_none_iff, not_not]
  induction position, cs using readPairs.induct with
  | case1 position => simp [readPairs]
  | case2 position a => simp [readPairs]
  | case3 position a b rest ha => simp [readPairs, ha]
  | case4 position a b rest hi hb ha => simp [readPairs, ha, hb]
  | case5 position a b rest hi lo ha hb ih =>
      have hodd : (a :: b :: rest).length % 2 = 1 ↔ rest.length % 2 = 1 := by
        rw [List.length_cons, List.length_cons]
        omega
      have hmem : (∃ c ∈ a :: b :: rest, hexValue? c = none) ↔ ∃ c ∈ rest,
          hexValue? c = none := by
        simp [ha, hb]
      rw [hodd, hmem, ← ih]
      simp only [readPairs, ha, hb]
      cases readPairs (position + 2) rest <;> simp [Except.map]

theorem readHexDigits_of_writes {cs : List Char} {bytes : List UInt8}
    (hcs : ∀ c ∈ cs, c ∈ hexCharacters)
    (h : List.Forall₂ Writes cs (bytes.flatMap digitsOf)) :
    readHexDigits cs = .ok bytes := by
  have hascii : cs.findIdx? (fun c => 128 ≤ c.toNat) = none := by
    rw [List.findIdx?_eq_none_iff]
    intro c hc
    simpa using toNat_lt_of_mem_hexCharacters c (hcs c hc)
  rw [readHexDigits, hascii]
  exact readPairs_of_writes h 0

theorem isError_readHexDigits_iff (cs : List Char) :
    (∃ e, readHexDigits cs = .error e) ↔
      cs.length % 2 = 1 ∨ ∃ c ∈ cs, c ∉ hexCharacters := by
  unfold readHexDigits
  split
  · next position hposition =>
      refine iff_of_true ⟨_, rfl⟩ (.inr ?_)
      obtain ⟨hlt, hlarge, -⟩ := List.findIdx?_eq_some_iff_getElem.mp hposition
      refine ⟨cs[position], List.getElem_mem hlt, fun hc => ?_⟩
      have := toNat_lt_of_mem_hexCharacters _ hc
      simp at hlarge
      omega
  · exact isError_readPairs_iff 0 cs

/-! ## Pieces between marks -/

/-- A text is put together from pieces by marks between them, and no piece has
a mark in it. -/
def BetweenMarks (cs : List Char) (pieces : List (List Char)) : Prop :=
  cs = ['0', 'x'].intercalate pieces ∧ ∀ p ∈ pieces, ¬ ['0', 'x'] <:+: p

theorem dropHexMarks_of_not_infix {cs : List Char} (h : ¬ ['0', 'x'] <:+: cs) :
    dropHexMarks cs = cs := by
  induction cs using dropHexMarks.induct with
  | case1 rest => exact absurd ⟨[], rest, rfl⟩ h
  | case2 c rest hmark ih =>
      rw [dropHexMarks, ih fun hrest =>
        h (hrest.trans (List.suffix_cons c rest).isInfix)]
      exact hmark
  | case3 => rfl

theorem dropHexMarks_of_betweenMarks {cs : List Char}
    {pieces : List (List Char)} (h : BetweenMarks cs pieces) :
    dropHexMarks cs = pieces.flatten := by
  obtain ⟨rfl, hpieces⟩ := h
  induction pieces with
  | nil => rfl
  | cons p pieces ih =>
      have hp := dropHexMarks_of_not_infix (hpieces p List.mem_cons_self)
      cases pieces with
      | nil => rw [List.intercalate_singleton, hp, List.flatten_singleton]
      | cons q pieces =>
          have hrest := ih fun r hr => hpieces r (List.mem_cons_of_mem p hr)
          have hmark :
              dropHexMarks
                (['0', 'x'] ++ ['0', 'x'].intercalate (q :: pieces)) =
              dropHexMarks (['0', 'x'].intercalate (q :: pieces)) := rfl
          rw [List.intercalate_cons_cons, List.append_assoc,
            dropHexMarks_append (by simp), hp, hmark, hrest,
            List.flatten_cons (l := p)]

theorem exists_betweenMarks (cs : List Char) :
    ∃ p pieces, BetweenMarks cs (p :: pieces) := by
  induction cs using dropHexMarks.induct with
  | case1 rest ih =>
      obtain ⟨p, pieces, rfl, hpieces⟩ := ih
      refine ⟨[], p :: pieces, by rw [List.intercalate_cons_cons]; rfl, ?_⟩
      rintro q hq
      rcases List.mem_cons.mp hq with rfl | hq
      · simp
      · exact hpieces q hq
  | case2 c rest hmark ih =>
      obtain ⟨p, pieces, rfl, hpieces⟩ := ih
      have hcons : c :: ['0', 'x'].intercalate (p :: pieces) =
          ['0', 'x'].intercalate ((c :: p) :: pieces) := by
        cases pieces with
        | nil => rw [List.intercalate_singleton, List.intercalate_singleton]
        | cons q pieces =>
            rw [List.intercalate_cons_cons, List.intercalate_cons_cons]
            rfl
      refine ⟨c :: p, pieces, hcons, ?_⟩
      rintro q hq
      rcases List.mem_cons.mp hq with rfl | hq
      · -- a mark in the longer piece begins with its first character
        intro hinfix
        rcases List.infix_cons_iff.mp hinfix with ⟨rest, hprefix⟩ | hinfix
        · obtain ⟨rfl, rfl⟩ := List.cons.inj hprefix
          cases pieces with
          | nil => exact hmark rest rfl List.intercalate_singleton
          | cons r pieces =>
            exact hmark _ rfl (by rw [List.intercalate_cons_cons]; rfl)
        · exact hpieces p List.mem_cons_self hinfix
      · exact hpieces q (List.mem_cons_of_mem p hq)
  | case3 => exact ⟨[], [], rfl, by simp⟩

end Chip8.Text

namespace Chip8.Listing

open Text

/-- Written bytes are listed as the bytes are, and no text is refused but for
what is left of it without marks and blanks. -/
theorem listing_of_written (annotate : Bool) (base limit : Int) :
    (∀ (bytes : List UInt8) (lead : List Char) (groups : List HexGroup),
      (∀ c ∈ lead, isBlank c = true) →
      List.Forall₂ Writes (groups.flatMap HexGroup.digits)
        (bytes.flatMap digitsOf) → ofHex annotate base limit
        (String.ofList (lead ++ groups.flatMap HexGroup.chars)) =
        .ok (ofBytes annotate base limit bytes)) ∧
    ∀ text : String, (∃ pieces, BetweenMarks text.toList pieces) ∧
      ∀ pieces, BetweenMarks text.toList pieces →
        let left := (pieces.flatten.filter (· ≠ '$')).filter (!isBlank ·)
        (∃ e, ofHex annotate base limit text = .error e) ↔
          left.length % 2 = 1 ∨ ∃ c ∈ left, c ∉ hexCharacters := by
  refine ⟨?_, fun text => ⟨?_, ?_⟩⟩
  · intro bytes lead groups hlead hwrites
    have hdigits : ∀ c ∈ groups.flatMap HexGroup.digits,
        c ∈ hexCharacters := by
      intro c hc
      obtain ⟨g, -, hg⟩ := List.mem_flatMap.mp hc
      exact g.digits_hex c hg
    rw [ofHex, bytesOfHex, String.toList_ofList, hexDigitsOf_written hlead,
      readHexDigits_of_writes hdigits hwrites]
    rfl
  · obtain ⟨p, pieces, h⟩ := exists_betweenMarks text.toList
    exact ⟨p :: pieces, h⟩
  · intro pieces h left
    have hleft : hexDigitsOf text.toList = left := by
      rw [hexDigitsOf, dropHexMarks_of_betweenMarks h]
    rw [← isError_readHexDigits_iff, ← hleft, ofHex, bytesOfHex]
    cases readHexDigits (hexDigitsOf text.toList) <;> simp [Except.map]

/-- A mark behind a digit `0`, groups that end within a byte and blanks beyond
the ASCII ones; and a mark in upper case, which is none. -/
theorem zero_in_front_of_mark :
    ofHex true 0x200 0 "\u300000x0e$00xA2 2\u2003a\n" =
        .ok (ofBytes true 0x200 0 [0x00, 0xE0, 0xA2, 0x2A]) ∧
      ∃ e, ofHex true 0x200 0 "0X0e" = .error e := by
  obtain ⟨hread, hrefuse⟩ := listing_of_written true 0x200 0
  let groups : List HexGroup :=
    [{ digits := ['0'] }, { mark := .zeroX, digits := ['0', 'e'] },
      { mark := .dollar, digits := ['0'] },
      { mark := .zeroX, digits := ['A', '2'], blanks := [' '] },
      { digits := ['2'], blanks := ['\u2003'] },
      { digits := ['a'], blanks := ['\n'] }]
  refine ⟨hread [0x00, 0xE0, 0xA2, 0x2A] ['\u3000'] groups
    (forall_mem_of_all (by decide)) (by decide), ?_⟩
  have hpieces : BetweenMarks "0X0e".toList [['0', 'X', '0', 'e']] :=
    ⟨by decide, by decide⟩
  exact ((hrefuse "0X0e").2 _ hpieces).mpr (.inr ⟨'X', by decide, by decide⟩)

end Chip8.Listing
