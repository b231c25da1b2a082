/-!
# Text — identifiers of the generated source

Names from manifests and interface files are free text; a name in the generated source is an
identifier.

* `pascalCase` makes a class name: the letters and digits of the text, the first of each run in
  upper case.  `pascalChars_append` says that a separator splits the work in two.
* `identifier` makes a member or parameter name: every other character becomes `_`, a keyword or
  a leading digit is preceded by `_`, and an empty name is replaced by a given one.
-/

namespace Subgraph.Text

/-- The letters and digits of a text in order; the first of a run (or of the text, when `start`)
is in upper case. -/
def pascalChars (start : Bool) : List Char → List Char
  | [] => []
  | c :: cs =>
    if c.isAlphanum then (if start then c.toUpper else c) :: pascalChars false cs
    else pascalChars true cs

/-- The class name made of a text: `transfer_from` becomes `TransferFrom`. -/
def pascalCase (text : String) : String := String.ofList (pascalChars true text.toList)

/-- A separator ends a run: what stands before and after it is converted on its own. -/
theorem pascalChars_append {c : Char} (hc : c.isAlphanum = false) (b : List Char) :
    ∀ (start : Bool) (a : List Char),
      pascalChars start (a ++ c :: b) = pascalChars start a ++ pascalChars true b
  | _, [] => by simp [pascalChars, hc]
  | start, d :: a => by
      by_cases hd : d.isAlphanum <;>
        simp [pascalChars, hd, pascalChars_append hc b _ a]

/-- The words of the target language that cannot name a member. -/
def reservedWords : List String :=
  ["break", "case", "catch", "class", "const", "continue", "debugger", "default", "delete",
   "do", "else", "enum", "export", "extends", "false", "finally", "for", "function", "if",
   "import", "in", "instanceof", "new", "null", "return", "super", "switch", "this", "throw",
   "true", "try", "typeof", "var", "void", "while", "with", "yield", "let", "static",
   "implements", "interface", "package", "private", "protected", "public", "await"]

/-- `c` may stand in an identifier. -/
def isWordChar (c : Char) : Bool := c.isAlphanum || c == '_' || c == '$'

/-- `c`, or an underscore in its place when it may not stand in an identifier. -/
def wordChar (c : Char) : Char := if isWordChar c then c else '_'

/-- The member or parameter name made of `name`; `fallback` when `name` is empty. -/
def identifier (name fallback : String) : String :=
  let word := String.ofList (name.toList.map wordChar)
  match word.toList with
  | [] => fallback
  | c :: _ => if c.isDigit || reservedWords.contains word then "_" ++ word else word

theorem isWordChar_wordChar (c : Char) : isWordChar (wordChar c) := by
  unfold wordChar
  split
  · assumption
  · decide

end Subgraph.Text
