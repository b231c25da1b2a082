import Mathlib
import Subgraph.Text.Identifier

/-!
# PascalCase — the characters of class names

A class name is made of the letters and digits of a text.  It begins with no lower-case letter, so
it is no reserved word, and it has no underscore in it.

* `isAlphanum_of_mem_pascalCase`: letters and digits only.
* `isLower_head_pascalCase`: no lower-case letter at the start.
* `map_toLower_pascalChars`: up to case, they are the letters and digits of the text.
* `pascalChars_of_isAlphanum`: a text of letters and digits only changes in its first character.
* `pascalCase_apart`: the class name of two texts with a separator between them, and of a class
  name.
-/

namespace Subgraph.Text

/-! ### Case -/

theorem isAlphanum_toUpper {c : Char} (h : c.isAlphanum = true) : c.toUpper.isAlphanum = true := by
  by_cases lower : c.isLower = true
  · rw [Char.isAlphanum, Char.isAlpha_toUpper_eq_isAlpha, Char.isAlpha, lower, Bool.or_true,
      Bool.true_or]
  · rwa [Char.toUpper_eq_of_not_isLower lower]

/-! ### Class names -/

theorem isAlphanum_of_mem_pascalChars {start : Bool} {cs : List Char} :
    ∀ c ∈ pascalChars start cs, c.isAlphanum = true := by
  induction cs generalizing start with
  | nil => exact nofun
  | cons c cs ih =>
      rw [pascalChars]
      split
      · next hc =>
          refine List.forall_mem_cons.mpr ⟨?_, ih⟩
          split
          · exact isAlphanum_toUpper hc
          · exact hc
      · exact ih

theorem isAlphanum_of_mem_pascalCase {text : String} :
    ∀ c ∈ (pascalCase text).toList, c.isAlphanum = true := by
  unfold pascalCase
  rw [String.toList_ofList]
  exact isAlphanum_of_mem_pascalChars

theorem underscore_notMem_pascalCase (text : String) : '_' ∉ (pascalCase text).toList :=
  fun h => absurd (isAlphanum_of_mem_pascalCase _ h) (by decide)

/-- All characters of a class name may stand in an identifier. -/
theorem map_wordChar_pascalCase (text : String) :
    (pascalCase text).toList.map wordChar = (pascalCase text).toList := by
  refine List.map_congr_left (g := id) (fun c hc => ?_) |>.trans (List.map_id _)
  exact if_pos (by rw [isWordChar, isAlphanum_of_mem_pascalCase c hc]; rfl)

theorem isLower_head_pascalChars {cs : List Char} :
    ∀ c ∈ (pascalChars true cs).head?, c.isLower = false := by
  induction cs with
  | nil => exact nofun
  | cons d cs ih =>
      rw [pascalChars]
      split
      · rintro c ⟨⟩
        exact Char.isLower_toUpper_eq_false d
      · exact ih

/-- **A class name begins with no lower-case letter.** -/
theorem isLower_head_pascalCase {text : String} :
    ∀ c ∈ (pascalCase text).toList.head?, c.isLower = false := by
  unfold pascalCase
  rw [String.toList_ofList]
  exact isLower_head_pascalChars

/-! ### Class names of parts, and of class names -/

/-- Up to case, a class name is made of all letters and digits of the text. -/
theorem map_toLower_pascalChars (start : Bool) (cs : List Char) :
    (pascalChars start cs).map Char.toLower = (cs.filter Char.isAlphanum).map Char.toLower := by
  induction cs generalizing start with
  | nil => rfl
  | cons c cs ih =>
      rw [pascalChars]
      split
      · next hc =>
          have first : (if start then c.toUpper else c).toLower = c.toLower := by
            cases start with
            | true => exact Char.toLower_toUpper_eq_toLower c
            | false => rfl
          rw [List.filter_cons_of_pos hc, List.map_cons, List.map_cons, first, ih]
      · next hc => rw [List.filter_cons_of_neg hc, ih]

/-- Without separators there is one run, whose other characters stay as they are. -/
theorem pascalChars_of_isAlphanum {cs : List Char} (h : ∀ c ∈ cs, c.isAlphanum = true) :
    pascalChars false cs = cs := by
  induction cs with
  | nil => rfl
  | cons c cs ih =>
      obtain ⟨hc, hcs⟩ := List.forall_mem_cons.mp h
      rw [pascalChars, if_pos hc, ih hcs]
      rfl

/-- The first character of a class name is no lower-case letter, and the others are not touched. -/
theorem pascalChars_pascalChars (cs : List Char) :
    pascalChars true (pascalChars true cs) = pascalChars true cs := by
  have alnum : ∀ c ∈ pascalChars true cs, c.isAlphanum = true := isAlphanum_of_mem_pascalChars
  have head : ∀ c ∈ (pascalChars true cs).head?, c.isLower = false := isLower_head_pascalChars
  generalize pascalChars true cs = word at alnum head
  cases word with
  | nil => rfl
  | cons c word =>
      obtain ⟨hc, others⟩ := List.forall_mem_cons.mp alnum
      have same : c.toUpper = c :=
        Char.toUpper_eq_of_not_isLower (Bool.eq_false_iff.mp (head c rfl))
      rw [pascalChars, if_pos hc, if_pos rfl, same, pascalChars_of_isAlphanum others]

/-- **Class names are made part by part.**  Where a character that is no letter or digit stands
between two parts of a text, the class name is made of those of the parts.  It has the letters and
digits of the text, up to case, and no other characters; the class name of a class name is that
name. -/
theorem pascalCase_apart (text : String) :
    (∀ a b : String, ∀ c : Char, c.isAlphanum = false → text = a ++ String.singleton c ++ b →
      pascalCase text = pascalCase a ++ pascalCase b) ∧
    (∀ c ∈ (pascalCase text).toList, c.isAlphanum = true) ∧
    (pascalCase text).toList.map Char.toLower =
      (text.toList.filter Char.isAlphanum).map Char.toLower ∧
    pascalCase (pascalCase text) = pascalCase text := by
  refine ⟨?_, isAlphanum_of_mem_pascalCase, ?_, ?_⟩
  · rintro a b c hc rfl
    have parts : (a ++ String.singleton c ++ b).toList = a.toList ++ c :: b.toList := by simp
    rw [pascalCase, parts, pascalChars_append hc, String.ofList_append]
    rfl
  · rw [pascalCase, String.toList_ofList, map_toLower_pascalChars]
  · rw [pascalCase, pascalCase, String.toList_ofList, pascalChars_pascalChars]

/-- A separator of two octets, between two others. -/
theorem pascalCase_apart_umlaut :
    pascalCase "wasm-ü/transferAll" = "Wasm" ++ "TransferAll" ∧
    pascalCase (pascalCase "wasm-ü/transferAll") = "WasmTransferAll" := by
  obtain ⟨parts, -, -, again⟩ := pascalCase_apart "wasm-ü/transferAll"
  exact ⟨(parts "wasm-" "/transferAll" 'ü' (by decide) (by decide)).trans (by decide),
    again.trans (by decide)⟩

end Subgraph.Text
