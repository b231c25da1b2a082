import Subgraph.Proofs.Tidy

/-!
# Literals — a value stays in its literal

Free text gets into generated source as a literal.  The writer of literals and the reader of
brackets are separate machines that both go by backslashes and quotes.  They agree: whatever the
value, the closing quote that the reader finds is the one that the writer has put there.

* `brackets_quote`: a literal in code has no part in the brackets of its line.
* `leadingClosers_quote`: the closing brackets that a line leads with stand before its first quote.
* `quote_encloses`: a literal is read back, stands on one line, and leaves the brackets of a line as
  they are around any other literal.
-/

namespace Subgraph

open Text

namespace Layout

/-- **A literal in code has no part in the brackets of its line**: they are those before it and
those behind it. -/
theorem brackets_quote {before : List Char} (code : Mode.after .code before = some .code)
    (value : String) (rest : List Char) :
    brackets (before ++ ((quote value).toList ++ rest)) = brackets before ++ brackets rest := by
  have first : ((quote value).toList ++ rest).head? = some '"' := by
    rw [quote, String.toList_ofList]
    rfl
  rw [brackets, bracketsFrom_append .code before (by rw [first]; decide), code, Option.elim_some,
    (reads_quote value).code, List.nil_append]
  rfl

/-- What stands behind a quote is not among the closing brackets that a line leads with. -/
theorem leadingClosers_quote (before rest : List Char) :
    leadingClosers (before ++ '"' :: rest) = leadingClosers before := by
  have kept : ('"' :: rest).filter (fun c => !isBlank c) =
      '"' :: rest.filter fun c => !isBlank c := List.filter_cons_of_pos (by decide)
  have stop : ('"' :: rest.filter fun c => !isBlank c).takeWhile
      (fun c => bracket? c = some .closing) = [] := List.takeWhile_cons_of_neg (by decide)
  unfold leadingClosers
  rw [List.filter_append, kept, List.takeWhile_append, stop, List.append_nil]
  split
  · next all => rw [← all]
  · rfl

end Layout

open Layout

/-- **A value stays in its literal.**

A literal is read back as its value, and what follows it is left.  It has no line feed, carriage
return or tab.  In a line that has come to code before it, it has as much part in the brackets as
the literal of the empty text, that is none. -/
theorem Text.quote_encloses (value : String) :
    (∀ rest : String, readQuoted (quote value ++ rest).toList = some (value.toList, rest.toList)) ∧
    (∀ c ∈ (quote value).toList, c ≠ '\n' ∧ c ≠ '\r' ∧ c ≠ '\t') ∧
    ∀ before after : String, Mode.after .code before.toList = some .code →
      brackets (before ++ quote value ++ after).toList =
          brackets (before ++ quote "" ++ after).toList ∧
        leadingClosers (before ++ quote value ++ after).toList =
          leadingClosers (before ++ quote "" ++ after).toList := by
  refine ⟨fun rest => ?_, quoted_ne value, fun before after code => ⟨?_, ?_⟩⟩
  · rw [String.toList_append, quote, String.toList_ofList]
    exact readQuoted_quoteChars value.toList rest.toList
  · simp only [String.toList_append, List.append_assoc]
    rw [brackets_quote code, brackets_quote code]
  · have led (value : String) : leadingClosers (before ++ quote value ++ after).toList =
        leadingClosers before.toList := by
      rw [String.toList_append, String.toList_append, List.append_assoc, quote,
        String.toList_ofList]
      exact leadingClosers_quote _ _
    rw [led, led]

/-- A value with quotes, brackets, what looks like a comment, and backslashes at its end.  It stands
behind closing brackets and a lone slash, and before a comment. -/
theorem Text.quote_encloses_comment :
    readQuoted (quote "\"(]\n// \\\\" ++ "\")").toList =
        some ("\"(]\n// \\\\".toList, "\")".toList) ∧
      ('\\' ∈ (quote "\"(]\n// \\\\").toList ∧ '\\' ≠ '\n' ∧ '\\' ≠ '\r' ∧ '\\' ≠ '\t') ∧
      Mode.after .code "\x7d ) f('\\'', 4 /".toList = some .code ∧
      brackets ("\x7d ) f('\\'', 4 /" ++ quote "\"(]\n// \\\\" ++ "); // (").toList =
        brackets ("\x7d ) f('\\'', 4 /" ++ quote "" ++ "); // (").toList ∧
      leadingClosers ("\x7d ) f('\\'', 4 /" ++ quote "\"(]\n// \\\\" ++ "); // (").toList =
        leadingClosers ("\x7d ) f('\\'', 4 /" ++ quote "" ++ "); // (").toList := by
  have enclosed := quote_encloses "\"(]\n// \\\\"
  have escaped : '\\' ∈ (quote "\"(]\n// \\\\").toList := by decide
  have code : Mode.after .code "\x7d ) f('\\'', 4 /".toList = some .code := by decide
  exact ⟨enclosed.1 _, ⟨escaped, enclosed.2.1 _ escaped⟩, code, enclosed.2.2 _ _ code⟩

end Subgraph
