import Subgraph.Text.Ranges
import Subgraph.Text.CaseTable

/-!
# Text — lower case

`lowercase` writes a text in small letters, as Unicode maps them.  One capital letter has two small
forms: a sigma at the end of a word, with a cased character before it and none after it, becomes the
final one.
-/

namespace Subgraph.Text

/-- The small letter of `c` in a run of letters, if `c` is in the run. -/
def lowercaseIn? (c : Char) : Nat × Nat × Nat × Nat → Option Char
  | (first, last, step, small) =>
    let n := c.toNat
    if first ≤ n ∧ n ≤ last ∧ (n - first) % step = 0 then some (Char.ofNat (small + (n - first)))
    else none

/-- The small letters of one character; a dotted capital I becomes a letter and its dot. -/
def lowercaseChar (c : Char) : List Char :=
  if c = '\u0130' then ['i', '\u0307']
  else match lowercaseRuns.findSome? (lowercaseIn? c) with
    | some small => [small]
    | none => [c]

/-- The first character that a test of case does not pass over has a case. -/
def beginsCased (text : List Char) : Bool :=
  match text.dropWhile (inRanges caseIgnorableRanges) with
  | [] => false
  | c :: _ => inRanges casedRanges c

/-- The small letters of a text, given what stands before it in reverse. -/
def lowercaseFrom (before : List Char) : List Char → List Char
  | [] => []
  | c :: rest =>
    let small :=
      if c = '\u03A3' then
        if beginsCased before && !beginsCased rest then ['\u03C2'] else ['\u03C3']
      else lowercaseChar c
    small ++ lowercaseFrom (c :: before) rest

/-- A text in small letters. -/
def lowercase (text : String) : String := String.ofList (lowercaseFrom [] text.toList)

end Subgraph.Text
