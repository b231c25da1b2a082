/-!
# Text — quoted literals

A text as a double-quoted literal (`quote`), valid in the generated source and in a YAML
document: a backslash, a double quote, a line feed, a carriage return and a tab are written as
two characters, all else stands for itself.  `readQuoted` takes the literal at the start of a
text, and `readQuoted_quoteChars` says that it finds what was quoted and leaves what followed.
-/

namespace Subgraph.Text

/-- The letter that follows the backslash when `c` is written as two characters. -/
def escapeLetter? : Char → Option Char
  | '\\' => some '\\'
  | '"' => some '"'
  | '\n' => some 'n'
  | '\r' => some 'r'
  | '\t' => some 't'
  | _ => none

/-- The character that a backslash and this letter stand for. -/
def escaped? : Char → Option Char
  | '\\' => some '\\'
  | '"' => some '"'
  | 'n' => some '\n'
  | 'r' => some '\r'
  | 't' => some '\t'
  | _ => none

/-- `c` as it is written between the quotes. -/
def escape (c : Char) : List Char :=
  match escapeLetter? c with
  | some letter => ['\\', letter]
  | none => [c]

/-- The literal of a text, as characters. -/
def quoteChars (text : List Char) : List Char := '"' :: (text.flatMap escape ++ ['"'])

/-- The literal of a text. -/
def quote (text : String) : String := String.ofList (quoteChars text.toList)

/-- The text up to the closing quote, and what follows it. -/
def readToQuote : List Char → Option (List Char × List Char)
  | [] => none
  | '"' :: rest => some ([], rest)
  | '\\' :: letter :: rest =>
    match escaped? letter, readToQuote rest with
    | some c, some (text, rest) => some (c :: text, rest)
    | _, _ => none
  | c :: rest => (readToQuote rest).map fun (text, rest) => (c :: text, rest)

/-- The text of the literal that a text begins with, and what follows it. -/
def readQuoted : List Char → Option (List Char × List Char)
  | '"' :: rest => readToQuote rest
  | _ => none

theorem escaped?_escapeLetter {c letter : Char} (h : escapeLetter? c = some letter) :
    escaped? letter = some c := by
  unfold escapeLetter? at h
  split at h <;> first | (cases h; rfl) | simp at h

/-- One written character is read back, whatever follows it. -/
theorem readToQuote_escape (c : Char) (rest : List Char) :
    readToQuote (escape c ++ rest)
      = (readToQuote rest).map fun (text, rest) => (c :: text, rest) := by
  unfold escape
  split
  · next letter h =>
      have hc := escaped?_escapeLetter h
      rw [List.cons_append, List.cons_append, List.nil_append, readToQuote, hc]
      cases readToQuote rest <;> rfl
  · next h =>
      have hq : c ≠ '"' := fun e => by simp [e, escapeLetter?] at h
      have hb : c ≠ '\\' := fun e => by simp [e, escapeLetter?] at h
      rw [List.cons_append, List.nil_append, readToQuote.eq_4 _ _ hq (fun _ _ e => absurd e hb)]

/-- Reading a literal gives the quoted text and leaves what follows the literal. -/
theorem readQuoted_quoteChars (text rest : List Char) :
    readQuoted (quoteChars text ++ rest) = some (text, rest) := by
  have key : ∀ t : List Char,
      readToQuote (t.flatMap escape ++ ('"' :: rest)) = some (t, rest) := by
    intro t
    induction t with
    | nil => rfl
    | cons c t ih => rw [List.flatMap_cons, List.append_assoc, readToQuote_escape, ih]; rfl
  simpa [quoteChars, readQuoted] using key text

end Subgraph.Text
