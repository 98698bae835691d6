import Chip8.Text.Blank
import Chip8.Text.LowerCase
import Chip8.Text.Emoji.Flags
import Chip8.Text.Emoji.Plain
import Chip8.Text.Emoji.Toned

/-!
# Emoji codes

A text may hold emoji as names between colons, in either case. A name may be
followed by `-text` or `-emoji`, which asks for that way of showing the emoji.
What stands between colons and is no name is left as it is, and so are its
colons; none of them opens another code.
-/

namespace Chip8.Text.Emoji

def ofName? (name : String) : Option String :=
  (plain.lookup name).or ((toned.lookup name).or (flags.lookup name))

/-- The endings of a code that say how an emoji is to be shown, with the
characters that do so. -/
def variants : List (List Char × Char) :=
  [("-text".toList, '\ufe0e'), ("-emoji".toList, '\ufe0f')]

def splitVariant (code : List Char) : List Char × List Char :=
  match variants.find? fun v => v.1.isSuffixOf code with
  | some (ending, selector) =>
    (code.take (code.length - ending.length), [selector])
  | none => (code, [])

def ofCode? (code : List Char) : Option (List Char) :=
  let (name, selector) := splitVariant code
  (ofName? (lower (String.ofList name))).map fun emoji =>
    emoji.toList ++ selector

def inCode (c : Char) : Bool :=
  c ≠ ':' && !isBlank c

def splitCode? (cs : List Char) : Option (List Char × List Char) :=
  match cs.dropWhile inCode with
  | ':' :: after => some (cs.takeWhile inCode, after)
  | _ => none

theorem length_splitCode? {cs code after : List Char}
    (h : splitCode? cs = some (code, after)) : after.length < cs.length := by
  unfold splitCode? at h
  split at h
  · rename_i rest heq
    have := (List.dropWhile_suffix inCode (l := cs)).length_le
    rw [heq, List.length_cons] at this
    cases h
    exact this
  · cases h

def replaceCodes (cs : List Char) : List Char :=
  match cs with
  | [] => []
  | c :: rest =>
    if c = ':' then
      match _h : splitCode? rest with
      | some (code, after) =>
        (ofCode? code).getD (':' :: code ++ [':']) ++ replaceCodes after
      | none => ':' :: replaceCodes rest
    else c :: replaceCodes rest
termination_by cs.length
decreasing_by
  · exact Nat.lt_succ_of_lt (length_splitCode? _h)
  · exact Nat.lt_succ_self _
  · exact Nat.lt_succ_self _

end Chip8.Text.Emoji
